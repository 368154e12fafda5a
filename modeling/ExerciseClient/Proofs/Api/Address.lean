import ExerciseClient.Proofs.Api.Token
import ExerciseClient.Proofs.Config.Address
import ExerciseClient.Proofs.Url.Segment

/-! The addresses of exercises. An id that is a plain text becomes the one segment behind its
collection, and it is decoded from there, so plain ids never share an address. Dots alone and texts
with a tab or the end of a line do not: each of these shares its address with another id. A base
that has nothing but two empty segments loses both. -/

namespace ExerciseClient

open Http (Request Exchange)

namespace Url

/-- What a request says of where it goes. -/
def target (u : Url) : String := { u.withoutUserInfo with fragment := none }.text

/-- Two URLs are one for whoever reads them, or for the peer that requests for them go to. -/
def Same (u v : Url) : Prop := u.text = v.text ∨ u.target = v.target

theorem path_text_of_text {u : Url} (hhost : u.host.isSome = true) {p q : Path}
    (h : { u with path := p }.text = { u with path := q }.text) : p.text = q.text := by
  obtain ⟨host, hhost⟩ := Option.isSome_iff_exists.mp hhost
  have hauthority : { u with path := p }.authority = { u with path := q }.authority := by
    simp only [authority, hhost]
    rfl
  simp only [text, hauthority] at h
  have hpath := (String.append_left_inj _).mp ((String.append_left_inj _).mp h)
  exact (String.append_right_inj _).mp hpath

/-- Behind an authority URLs that differ in their path alone are one only if the path's text is. -/
theorem path_text_of_same {u : Url} (hhost : u.host.isSome = true) {p q : Path}
    (h : { u with path := p }.Same { u with path := q }) : p.text = q.text := by
  rcases h with h | h
  · exact path_text_of_text hhost h
  · exact path_text_of_text (u := { u.withoutUserInfo with fragment := none }) hhost h

end Url

/-! ### What a call asks for -/

/-- A call asks for a URL or for nothing, and it does not fail for want of a URL. -/
structure ApiCall.AsksFor {α : Type} (r : ApiCall α) (u : Url) : Prop where
  target : ∀ q ∈ r.requests, q.target = u.target
  error : ∀ b, r.result ≠ .error (.invalidEndpoint b)

theorem ApiCall.AsksFor.map {α β : Type} {r : ApiCall α} {u : Url} (h : r.AsksFor u) (f : α → β) :
    (r.map f).AsksFor u where
  target := h.target
  error b he := by
    cases hr : r.result with
    | ok a => simp [ApiCall.map, hr, Except.map] at he
    | error e =>
        simp only [ApiCall.map, hr, Except.map, Except.error.injEq] at he
        exact h.error b (hr.trans (congrArg Except.error he))

namespace ApiClient

open Url.Path

/-- What there is for an exercise. -/
inductive Resource where
  | description
  | progress

namespace Resource

/-- Where the ids are. -/
def collection : Resource → List String
  | description => ["exercises"]
  | progress => ["me", "exercises"]

theorem isName_of_mem {name : String} {r : Resource} (h : name ∈ r.collection) : IsName name := by
  have hall : ∀ name ∈ ["me", "exercises"], IsName name := by decide
  cases r with
  | description => exact hall name (List.mem_cons_of_mem _ h)
  | progress => exact hall name h

theorem exercises_mem (r : Resource) : "exercises" ∈ r.collection := by
  cases r <;> decide

theorem collection_ne_nil (r : Resource) : r.collection ≠ [] :=
  List.ne_nil_of_mem r.exercises_mem

end Resource

/-- The address of what there is for an id. -/
def addressOf (c : ApiClient) (r : Resource) (id : String) : Except ApiError Url :=
  c.endpoint (r.collection ++ [id])

/-- What a task is about, if it is about an exercise. -/
def Task.subject? : Task → Option (Resource × String)
  | .login .. => none
  | .exercise id => some (.description, id)
  | .progress id => some (.progress, id)
  | .save id _ => some (.progress, id)

/-- The segments that endpoints are put behind. -/
def stem (base : List String) : List String := unrooted (dropEmptyLast base)

/-- The path is the base without an empty segment at its end, the collection, and then one more
segment, which is decoded to the id. -/
def Faithful (u : Url) (base : List String) (r : Resource) (id : String) : Prop :=
  ∃ segment : String, '/' ∉ segment.toList ∧
    u.path = .segments (dropEmptyLast base ++ r.collection ++ [segment]) ∧
    Url.percentDecode segment.toList = Text.Utf8.encode id.toList

/-- A client's base is an address with a host and a path of segments. -/
structure HasBase (c : ApiClient) (base : List String) : Prop where
  path_eq : c.base.path = .segments base
  special : Url.isSpecial c.base.scheme = true
  not_file : (c.base.scheme == "file") = false
  host : c.base.host.isSome = true

theorem hasBase_of_config {config : Config} {c : ApiClient} (h : ofConfig config = .ok c) :
    ∃ base, c.HasBase base := by
  obtain ⟨a, ha, rfl⟩ := ofConfig_eq_ok_iff.mp h
  obtain ⟨u, hr, hs, rfl⟩ := Config.apiUrl_eq_ok_iff.mp ha
  have hclear := Config.clear_of_read hr (Config.web_of_api hs)
  refine ⟨_, rfl, ?_, ?_, hclear.host_isSome⟩
  · change Url.isSpecial u.scheme = true
    rcases hs with hs | hs <;> rw [hs] <;> decide
  · change (u.scheme == "file") = false
    rcases hs with hs | hs <;> rw [hs] <;> decide

/-! ### Building addresses -/

section

variable {c : ApiClient} {base : List String} (h : c.HasBase base)

include h

theorem endpoint_eq (segments : List String) :
    ∃ start, unrooted start = stem base ∧ c.endpoint segments =
      .ok { c.base with path := .segments (segments.foldl (extend true false) start) } := by
  simp only [endpoint, Url.extendPath?, h.path_eq, h.special, h.not_file]
  refine ⟨_, ?_, rfl⟩
  split
  · rename_i hroot
    rw [hroot]
    rfl
  · rw [stem]
    split
    · rename_i hnone
      rw [hnone]
      rfl
    · rfl

theorem endpoint_names {names : List String} (hnames : ∀ name ∈ names, IsName name)
    (hne : names ≠ []) :
    c.endpoint names = .ok { c.base with path := .segments (stem base ++ names) } := by
  obtain ⟨start, hstart, he⟩ := endpoint_eq h names
  rw [he, foldl_extend hnames hne, hstart]

theorem addressOf_eq (r : Resource) (id : String) :
    c.addressOf r id =
      .ok { c.base with path := .segments (behind (stem base ++ r.collection) id) } := by
  obtain ⟨start, hstart, he⟩ := endpoint_eq h (r.collection ++ [id])
  rw [addressOf, he, List.foldl_append,
    foldl_extend (fun _ => Resource.isName_of_mem) r.collection_ne_nil, hstart, List.foldl_cons,
    List.foldl_nil,
    extend_eq_behind (ne_root_of_mem (List.mem_append_right _ r.exercises_mem) (by decide))]

end

/-! ### What an address is decoded to -/

theorem faithful_iff {base : List String} {r : Resource} {id : String} {u : Url}
    (hpath : u.path = .segments (behind (stem base ++ r.collection) id)) :
    Faithful u base r id ↔ IsPlain id ∧ dropEmptyLast base ≠ [""] := by
  rw [Faithful, hpath]
  by_cases hroot : dropEmptyLast base = [""]
  · -- The empty segment of the base is lost, so the path is too short.
    have hstem : stem base = [] := by rw [stem, hroot]; rfl
    refine iff_of_false ?_ fun h => h.2 hroot
    rintro ⟨segment, -, he, -⟩
    have hlength := length_behind_le (stem base ++ r.collection) id
    rw [Url.Path.segments.inj he, hroot, hstem] at hlength
    simp only [List.length_append, List.length_cons, List.length_nil] at hlength
    omega
  · have hstem : stem base = dropEmptyLast base := unrooted_of_ne hroot
    rw [hstem]
    constructor
    · rintro ⟨segment, -, he, hdecoded⟩
      exact ⟨(behind_eq_append_iff _ id).mp ⟨segment, Url.Path.segments.inj he, hdecoded⟩, hroot⟩
    · rintro ⟨hplain, -⟩
      exact ⟨_, slash_notMem_encodedSegment _, congrArg Url.Path.segments (hplain.behind_eq _),
        percentDecode_encodedSegment _⟩

/-! ### Addresses apart -/

/-- A path with its slashes. -/
def slashed (path : List String) : List Char := path.flatMap fun s => '/' :: s.toList

/-- Behind one stem, paths with the same text go on in the same way. -/
theorem slashed_of_text {stem xs ys : List String}
    (h : (Url.Path.segments (stem ++ xs)).text = (Url.Path.segments (stem ++ ys)).text) :
    slashed xs = slashed ys := by
  have hchars := congrArg String.toList h
  rw [text_segments, text_segments, List.flatMap_append, List.flatMap_append] at hchars
  exact List.append_cancel_left hchars

theorem slashed_collection {r s : Resource} {id other : String}
    (h : slashed (r.collection ++ [encodedSegment id.toList]) =
      slashed (s.collection ++ [encodedSegment other.toList])) : r = s ∧ id = other := by
  have hsame (he : (encodedSegment id.toList).toList = (encodedSegment other.toList).toList) :
      id = other :=
    String.toList_injective (encodedSegment_injective (String.toList_injective he))
  cases r with
  | description =>
      cases s with
      | description => exact ⟨rfl, hsame (by simpa [slashed, Resource.collection] using h)⟩
      | progress => simp [slashed, Resource.collection] at h
  | progress =>
      cases s with
      | description => simp [slashed, Resource.collection] at h
      | progress => exact ⟨rfl, hsame (by simpa [slashed, Resource.collection] using h)⟩

/-- Whatever is put behind a collection, it does not become the path of a log-in. -/
theorem slashed_behind_ne (r : Resource) (id : String) :
    slashed (behind r.collection id) ≠ slashed ["auth", "login"] := by
  rw [behind]
  -- Wherever the id goes, the path is too short or has another first name.
  repeat' split
  all_goals cases r <;> simp [slashed, Resource.collection, parent, isDrive]

/-! ### Calls -/

theorem send_error {c : ApiClient} {method : String} {u : Url} {body : Option Json.Value}
    {x : Exchange} {b : String} : (c.send method u body x).1 ≠ .error (.invalidEndpoint b) := by
  simp only [send]
  split
  · simp
  · cases outcome u.withoutUserInfo.text x with
    | error f => simp
    | ok r =>
        dsimp only
        split <;> simp

theorem call_asksFor {α : Type} {c : ApiClient} {segments : List String} {u : Url}
    (hu : c.endpoint segments = .ok u) (name method : String) (body : Option Json.Value)
    (x : Exchange) {use : Url → Http.Response → Except ApiError α}
    (huse : ∀ r b, use u r ≠ .error (.invalidEndpoint b)) :
    (c.call name method segments body x use).AsksFor u where
  target := by
    rcases c.call_cases name method segments body x use with ⟨v, hv, he⟩ | ⟨-, he, -⟩
    · obtain rfl := Except.ok.inj (hu.symm.trans hv.endpoint_eq)
      rw [he]
      intro q hq
      rw [List.mem_singleton.mp hq]
      rfl
    · simp [he]
  error b := by
    simp only [call, hu]
    cases hr : (c.send method u body x).1 with
    | ok r => exact huse r b
    | error e =>
        intro he
        have herror : e = .invalidEndpoint b := Except.error.inj he
        exact send_error (hr.trans (congrArg Except.error herror))

theorem readBody_error {α : Type} (d : Json.Decoder α) (u : Url) (r : Http.Response) (b : String) :
    readBody d u r ≠ .error (.invalidEndpoint b) := by
  have hmapped (read : Except Json.Fault α) :
      read.mapError (ApiError.jsonParseFailed u.text) ≠ .error (.invalidEndpoint b) := by
    intro h
    cases read with
    | error f => cases Except.error.inj h
    | ok a => cases h
  exact hmapped _

/-- What a task about an exercise asks for is the exercise's address. -/
theorem perform_asksFor {c : ApiClient} {task : Task} {r : Resource} {id : String} {u : Url}
    (hs : task.subject? = some (r, id)) (hu : c.addressOf r id = .ok u) (x : Exchange) :
    (c.perform x task).AsksFor u := by
  cases task with
  | login email password => cases hs
  | exercise id =>
      cases hs
      exact (call_asksFor hu _ _ _ x fun a b => readBody_error _ u a b).map _
  | progress id =>
      cases hs
      exact (call_asksFor hu _ _ _ x fun a b => readBody_error _ u a b).map _
  | save id request =>
      cases hs
      exact (call_asksFor hu _ _ _ x fun a b => by simp).map _

/-! ### Addressing -/

/-- How a client addresses what there is for exercises, behind a base path. -/
structure Addressing (c : ApiClient) (base : List String) : Prop where
  base_eq : c.base.path = .segments base
  /-- Every id has an address, which differs from the base in its path. -/
  built : ∀ r id, c.addressOf r id =
    .ok { c.base with path := .segments (behind (stem base ++ r.collection) id) }
  asked : ∀ task r id x, task.subject? = some (r, id) →
    ∃ u, c.addressOf r id = .ok u ∧ (c.perform x task).AsksFor u
  faithful_iff : ∀ r id u, c.addressOf r id = .ok u →
    (Faithful u base r id ↔ IsPlain id ∧ dropEmptyLast base ≠ [""])
  /-- Plain ids do not share an address, nor do a description and progress. -/
  apart : ∀ r s id other u v, IsPlain id → IsPlain other →
    c.addressOf r id = .ok u → c.addressOf s other = .ok v →
    u.Same v → r = s ∧ id = other
  /-- No id, plain or not, leads to where a client logs in. -/
  login_apart : ∃ v, c.endpoint ["auth", "login"] = .ok v ∧
    ∀ r id u, c.addressOf r id = .ok u → ¬u.Same v
  /-- Any id has an address in common with an id that is not plain. -/
  shared : ∀ id, ∃ other, other ≠ id ∧ ¬IsPlain other ∧
    ∀ r, c.addressOf r other = c.addressOf r id

theorem HasBase.addressing {c : ApiClient} {base : List String} (h : c.HasBase base) :
    c.Addressing base where
  base_eq := h.path_eq
  built := addressOf_eq h
  asked task r id x hs := ⟨_, addressOf_eq h r id, perform_asksFor hs (addressOf_eq h r id) x⟩
  faithful_iff r id u hu := by
    obtain rfl := Except.ok.inj (hu.symm.trans (addressOf_eq h r id))
    exact ApiClient.faithful_iff rfl
  apart r s id other u v hid hother hu hv he := by
    obtain rfl := Except.ok.inj (hu.symm.trans (addressOf_eq h r id))
    obtain rfl := Except.ok.inj (hv.symm.trans (addressOf_eq h s other))
    have htext := Url.path_text_of_same h.host he
    rw [hid.behind_eq, hother.behind_eq, List.append_assoc, List.append_assoc] at htext
    exact slashed_collection (slashed_of_text htext)
  login_apart := by
    refine ⟨_, endpoint_names h (by decide) (by simp), fun r id u hu he => ?_⟩
    obtain rfl := Except.ok.inj (hu.symm.trans (addressOf_eq h r id))
    have htext := Url.path_text_of_same h.host he
    rw [behind_append r.collection_ne_nil] at htext
    exact slashed_behind_ne r id (slashed_of_text htext)
  shared id := by
    obtain ⟨other, hne, hplain, he⟩ := exists_same_behind id
    exact ⟨other, hne, hplain, fun r => by rw [addressOf_eq h, addressOf_eq h, he]⟩

/-- The client that settings give, whatever token it holds by then, addresses exercises behind its
base: a plain id is the one segment behind the collection, and other ids are not. -/
theorem exercises_addressed {config : Config} {c : ApiClient} (h : ofConfig config = .ok c) :
    ∃ base, ∀ token, { c with token := token }.Addressing base := by
  obtain ⟨base, hbase⟩ := hasBase_of_config h
  exact ⟨base, fun token => HasBase.addressing ⟨hbase.path_eq, hbase.special, hbase.not_file,
    hbase.host⟩⟩

/-- A space and a slash of an id stay in its segment. -/
theorem exercises_addressed_with_slash :
    ∃ c u, ofConfig Config.standard = .ok c ∧ c.addressOf .progress "ex 1/2" = .ok u ∧
      u.text = "http://localhost:8080/api/v1/me/exercises/ex%201%2F2" ∧
      Faithful u ["api", "v1"] .progress "ex 1/2" := by
  obtain ⟨c, hc, hpath⟩ : ∃ c, ofConfig Config.standard = .ok c ∧
      c.base.path = .segments ["api", "v1"] := ⟨_, rfl, rfl⟩
  obtain ⟨base, h⟩ := exercises_addressed hc
  have haddressing := h c.token
  obtain rfl := Url.Path.segments.inj (hpath.symm.trans haddressing.base_eq)
  have hu := haddressing.built .progress "ex 1/2"
  refine ⟨c, _, hc, hu, ?_, (haddressing.faithful_iff _ _ _ hu).mpr (by decide)⟩
  obtain rfl := Except.ok.inj hc
  rfl

/-- The end of a line is passed over, so that two ids have one address, and a dot by itself has the
address of the collection. -/
theorem ids_share_address :
    ∃ c, ofConfig Config.standard = .ok c ∧
      c.addressOf .progress "a\nb" = c.addressOf .progress "ab" ∧
      (c.addressOf .progress ".").map Url.text =
        .ok "http://localhost:8080/api/v1/me/exercises" :=
  ⟨_, rfl, rfl, rfl⟩

end ApiClient

end ExerciseClient
