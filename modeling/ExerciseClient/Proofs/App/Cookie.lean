import ExerciseClient.Proofs.Api.Token
import ExerciseClient.Proofs.App.Reach
import ExerciseClient.Proofs.App.Secrecy
import ExerciseClient.Proofs.Http.Header

/-! The cookie in requests and in handshakes. Both carry the cookie of a token, but what keeps them
from being sent differs: a request is refused for a token that fits no header, a handshake also for
one that is not ASCII. What is sent with a token is told by what is sent without one. -/

namespace ExerciseClient

open Http (Request Response Exchange FitsHeader IsVisible)

/-- The request with the cookie of a token. -/
def Http.Request.carrying (token : String) (r : Request) : Request :=
  { r with cookie := some ("auth_token=" ++ token) }

/-- The handshake with the cookie of a token. -/
def SeenHandshake.carrying (token : String) (h : SeenHandshake) : SeenHandshake :=
  { h with cookie := some ("auth_token=" ++ token) }

/-! ### Requests -/

namespace ApiClient

/-- The client with a token in place of its own, or with none. -/
def holding (c : ApiClient) (token : Option String) : ApiClient := { c with token }

section

variable {c : ApiClient} {token : String} {u : Url}

theorem noFault_holding_iff : (c.holding (some token)).fault? u = none ↔
    (c.holding none).fault? u = none ∧ FitsHeader token := by
  rw [← Http.fitsHeader_authCookie, ← Http.isHeaderValue_iff]
  cases hhost : u.host.isNone with
  | true => simp [fault?, hhost]
  | false =>
      cases hv : Http.isHeaderValue (Http.authCookie token) <;> simp [fault?, holding, hhost, hv]

/-- Where nothing else is in the way a token is refused as a header. -/
theorem badHeader_of_not_fitsHeader (h : (c.holding none).fault? u = none)
    (ht : ¬ FitsHeader token) : (c.holding (some token)).fault? u = some .badHeader := by
  have hvalue : Http.isHeaderValue (Http.authCookie token) = false := by
    rw [← Bool.not_eq_true, Http.isHeaderValue_iff, Http.fitsHeader_authCookie]
    exact ht
  have hhost : u.host.isNone = false := by
    cases hn : u.host.isNone with
    | false => rfl
    | true => simp [fault?, hn] at h
  simp [fault?, holding, hhost, hvalue]

theorem reaches_holding_iff {segments : List String} {x : Exchange} :
    (c.holding (some token)).Reaches segments x u ↔
      (c.holding none).Reaches segments x u ∧ FitsHeader token := by
  constructor
  · rintro ⟨he, hf, hx⟩
    obtain ⟨hf, ht⟩ := noFault_holding_iff.mp hf
    exact ⟨⟨he, hf, hx⟩, ht⟩
  · rintro ⟨⟨he, hf, hx⟩, ht⟩
    exact ⟨he, noFault_holding_iff.mpr ⟨hf, ht⟩, hx⟩

end

section

variable {α : Type} (c : ApiClient) (name method : String) (segments : List String)
  (body : Option Json.Value) (x : Exchange) (use : Url → Response → Except ApiError α)
  {token : String}

/-- A call with a token that fits a header sends what it sends without one, and the cookie. -/
theorem call_holding_of_fitsHeader (ht : FitsHeader token) :
    ((c.holding (some token)).call name method segments body x use).requests =
      ((c.holding none).call name method segments body x use).requests.map (.carrying token) := by
  rcases (c.holding none).call_cases name method segments body x use with
    ⟨u, hu, he⟩ | ⟨hnot, he, -⟩
  · rcases (c.holding (some token)).call_cases name method segments body x use with
      ⟨v, hv, he'⟩ | ⟨hnot, -, -⟩
    · obtain rfl := Except.ok.inj (hu.endpoint_eq.symm.trans hv.endpoint_eq)
      rw [he, he']
      rfl
    · exact absurd (reaches_holding_iff.mpr ⟨hu, ht⟩) (hnot u)
  · rcases (c.holding (some token)).call_cases name method segments body x use with
      ⟨v, hv, -⟩ | ⟨-, he', -⟩
    · exact absurd (reaches_holding_iff.mp hv).1 (hnot v)
    · rw [he, he']
      rfl

/-- With any other token it sends nothing and fails for the header. -/
theorem call_holding_of_not_fitsHeader (ht : ¬ FitsHeader token) :
    ((c.holding (some token)).call name method segments body x use).requests = [] ∧
      (((c.holding none).call name method segments body x use).requests ≠ [] →
        ∃ endpoint, ((c.holding (some token)).call name method segments body x use).result =
          .error (.requestFailed endpoint .badHeader)) := by
  constructor
  · rcases (c.holding (some token)).call_cases name method segments body x use with
      ⟨v, hv, -⟩ | ⟨-, he, -⟩
    · exact absurd (reaches_holding_iff.mp hv).2 ht
    · exact he
  · intro hsent
    rcases (c.holding none).call_cases name method segments body x use with
      ⟨u, hu, -⟩ | ⟨-, hnone, -⟩
    · have hf := badHeader_of_not_fitsHeader hu.noFault ht
      have he : (c.holding (some token)).endpoint segments = .ok u := hu.endpoint_eq
      refine ⟨u.text, ?_⟩
      simp only [call, he, send, hf]
      rfl
    · exact absurd hnone hsent

end

/-- A log-in sends what its call sends, and fails if the call does. -/
theorem login_call (c : ApiClient) (email password : String) (x : Exchange) :
    (c.login email password x).requests = (c.loginCall email password x).requests ∧
      ∀ e, (c.loginCall email password x).result = .error e →
        (c.login email password x).result = .error e := by
  rw [login_eq]
  dsimp only
  split
  · rename_i token hok
    refine ⟨rfl, fun e he => ?_⟩
    cases hok.symm.trans he
  · exact ⟨rfl, fun e he => he⟩

/-- Whatever is asked for, it is a call, and fails if the call does. -/
theorem perform_call (x : Exchange) (task : Task) :
    ∃ (α : Type) (name method : String) (segments : List String) (body : Option Json.Value)
      (use : Url → Response → Except ApiError α), ∀ c : ApiClient,
      (c.perform x task).requests = (c.call name method segments body x use).requests ∧
      ∀ e, (c.call name method segments body x use).result = .error e →
        (c.perform x task).result = .error e := by
  cases task with
  | login email password =>
      refine ⟨_, "登录", "POST", ["auth", "login"], some (loginJson email password), tokenOf,
        fun c => ?_⟩
      obtain ⟨hrequests, hfails⟩ := c.login_call email password x
      exact ⟨hrequests, fun e he => congrArg (Except.map _) (hfails e he)⟩
  | exercise id =>
      exact ⟨_, "获取练习", "GET", ["exercises", id], none, readBody Exercise.decode,
        fun _ => ⟨rfl, fun _ he => congrArg (Except.map _) he⟩⟩
  | progress id =>
      exact ⟨_, "获取练习进度", "GET", ["me", "exercises", id], none, readBody Progress.decode,
        fun _ => ⟨rfl, fun _ he => congrArg (Except.map _) he⟩⟩
  | save id request =>
      exact ⟨_, "保存草稿", "PUT", ["me", "exercises", id], some request.toJson, fun _ _ => .ok (),
        fun _ => ⟨rfl, fun _ he => congrArg (Except.map _) he⟩⟩

section

variable {token : String} (c : ApiClient) (x : Exchange) (task : Task)

theorem perform_holding_of_fitsHeader (ht : FitsHeader token) :
    ((c.holding (some token)).perform x task).requests =
      ((c.holding none).perform x task).requests.map (.carrying token) := by
  obtain ⟨_, name, method, segments, body, use, hcall⟩ := perform_call x task
  rw [(hcall _).1, (hcall _).1]
  exact c.call_holding_of_fitsHeader name method segments body x use ht

theorem perform_holding_of_not_fitsHeader (ht : ¬ FitsHeader token) :
    ((c.holding (some token)).perform x task).requests = [] ∧
      (((c.holding none).perform x task).requests ≠ [] → ∃ endpoint,
        ((c.holding (some token)).perform x task).result =
          .error (.requestFailed endpoint .badHeader)) := by
  obtain ⟨_, name, method, segments, body, use, hcall⟩ := perform_call x task
  obtain ⟨hnone, hfails⟩ := c.call_holding_of_not_fitsHeader name method segments body x use ht
  rw [(hcall _).1, (hcall _).1]
  refine ⟨hnone, fun hsent => ?_⟩
  obtain ⟨endpoint, he⟩ := hfails hsent
  exact ⟨endpoint, (hcall _).2 _ he⟩

variable {c x task}

/-- Where a request goes without a token, only what fits no header keeps it from going with one. -/
theorem requests_holding_eq_nil_iff (hsent : ((c.holding none).perform x task).requests ≠ []) :
    ((c.holding (some token)).perform x task).requests = [] ↔ ¬ FitsHeader token := by
  constructor
  · intro hnone ht
    rw [perform_holding_of_fitsHeader c x task ht, List.map_eq_nil_iff] at hnone
    exact hsent hnone
  · exact fun ht => (perform_holding_of_not_fitsHeader c x task ht).1

theorem isOneLine_of_requested {r : Request}
    (hr : r ∈ ((c.holding (some token)).perform x task).requests) {cookie : String}
    (hc : r.cookie = some cookie) : Http.IsOneLine cookie := by
  by_cases ht : FitsHeader token
  · rw [perform_holding_of_fitsHeader c x task ht] at hr
    obtain ⟨_, -, rfl⟩ := List.mem_map.mp hr
    obtain rfl := Option.some.inj hc
    exact ((Http.fitsHeader_authCookie token).mpr ht).isOneLine
  · simp [perform_holding_of_not_fitsHeader c x task ht] at hr

end

end ApiClient

/-! ### Handshakes -/

namespace Handshake

section

variable {u : Url} {token : String}

theorem noFault_some_iff : fault? u (some token) = none ↔
    fault? u none = none ∧ FitsHeader token := by
  rw [← Http.fitsHeader_authCookie, ← Http.isHeaderValue_iff]
  cases hread : Http.Target.read u.text with
  | error e => simp [fault?, hread]
  | ok t => cases hv : Http.isHeaderValue (Http.authCookie token) <;> simp [fault?, hread, hv]

theorem noLateFault_some_iff : lateFault? u (some token) = none ↔
    lateFault? u none = none ∧ ∀ c ∈ (Http.authCookie token).toList, c.toNat < 0x80 := by
  simp only [lateFault?, Option.map_some, Option.map_none, Option.bind_some, Option.bind_none]
  by_cases hscheme : u.scheme ≠ "ws" ∧ u.scheme ≠ "wss" <;> simp [hscheme]

theorem isSeen_iff (token : Option String) (h : Handshake) : isSeen u token h = true ↔
    (∀ reason, h ≠ .unreachable reason) ∧ fault? u token = none ∧ lateFault? u token = none := by
  cases h <;> simp [isSeen]

/-- A handshake with a token is written if it is written without one and the token is visible. -/
theorem isSeen_some_iff (h : Handshake) :
    isSeen u (some token) h = true ↔ isSeen u none h = true ∧ IsVisible token := by
  rw [isSeen_iff, isSeen_iff, noFault_some_iff, noLateFault_some_iff, ← Http.isVisible_authCookie,
    Http.isVisible_iff_ascii, Http.fitsHeader_authCookie]
  grind

theorem not_noFault_of_not_isVisible (ht : ¬ IsVisible token) :
    ¬(fault? u (some token) = none ∧ lateFault? u (some token) = none) := by
  intro hclear
  have hseen : isSeen u (some token) .unanswered = true := by simp [isSeen_iff, hclear]
  exact ht ((isSeen_some_iff _).mp hseen).2

end

end Handshake

namespace App

section

variable (u : Url) {token : String} (journal : List (Nat × Happening))

/-- With a visible token the same handshakes are seen as without one, and the cookie. -/
theorem seenFrom_of_isVisible (ht : IsVisible token) (line : Nat) (script : List Handshake) :
    seenFrom u (some token) journal line script =
      (seenFrom u none journal line script).map (.carrying token) := by
  induction script generalizing line with
  | nil => rfl
  | cons h script ih =>
      have hseen : h.isSeen u (some token) = h.isSeen u none := by
        rw [Bool.eq_iff_iff, Handshake.isSeen_some_iff, and_iff_left ht]
      rw [seenFrom, seenFrom, hseen]
      split
      · split
        · rw [List.map_cons, ih]
          rfl
        · rw [List.map_cons, ih]
          rfl
      · exact ih line

theorem seenFrom_of_not_isVisible (ht : ¬ IsVisible token) (line : Nat)
    (script : List Handshake) : seenFrom u (some token) journal line script = [] := by
  induction script generalizing line with
  | nil => rfl
  | cons h script ih =>
      have hseen : h.isSeen u (some token) = false := by
        rw [← Bool.not_eq_true, Handshake.isSeen_some_iff]
        exact fun hv => ht hv.2
      rw [seenFrom, hseen, if_neg Bool.false_ne_true, ih]

variable {u journal} {line : Nat} {script : List Handshake}

/-- Where handshakes are seen without a token, only a token that is not visible hides them all. -/
theorem seenFrom_some_eq_nil_iff (hseen : seenFrom u none journal line script ≠ []) :
    seenFrom u (some token) journal line script = [] ↔ ¬ IsVisible token := by
  constructor
  · intro hnone ht
    rw [seenFrom_of_isVisible u journal ht, List.map_eq_nil_iff] at hnone
    exact hseen hnone
  · exact fun ht => seenFrom_of_not_isVisible u journal ht line script

theorem isOneLine_of_seen {h : SeenHandshake}
    (hh : h ∈ seenFrom u (some token) journal line script) {cookie : String}
    (hc : h.cookie = some cookie) : Http.IsOneLine cookie := by
  by_cases ht : IsVisible token
  · rw [seenFrom_of_isVisible u journal ht] at hh
    obtain ⟨_, -, rfl⟩ := List.mem_map.mp hh
    obtain rfl := Option.some.inj hc
    exact ((Http.fitsHeader_authCookie token).mpr ht.fitsHeader).isOneLine
  · simp [seenFrom_of_not_isVisible u journal ht] at hh

end

end App

/-! ### A token in both -/

/-- How requests and handshakes treat a token, told by how they go without one. -/
structure TokenTreated (token : String) : Prop where
  /-- A token that fits a header goes with every request that is sent without one. -/
  sent : FitsHeader token → ∀ (c : ApiClient) x task,
    ((c.holding (some token)).perform x task).requests =
      ((c.holding none).perform x task).requests.map (.carrying token)
  /-- Any other token keeps requests from being sent. -/
  refused : ¬ FitsHeader token → ∀ (c : ApiClient) x task,
    ((c.holding (some token)).perform x task).requests = [] ∧
      (((c.holding none).perform x task).requests ≠ [] → ∃ endpoint,
        ((c.holding (some token)).perform x task).result =
          .error (.requestFailed endpoint .badHeader))
  /-- A visible token goes with every handshake that is seen without one. -/
  seen : IsVisible token → ∀ u journal line script,
    App.seenFrom u (some token) journal line script =
      (App.seenFrom u none journal line script).map (.carrying token)
  /-- Any other token keeps handshakes from being seen; each attempt fails for it as a connection,
  and no channel ever gets a line. -/
  unseen : ¬ IsVisible token → ∀ u,
    (∀ journal line script, App.seenFrom u (some token) journal line script = []) ∧
      (∀ h : Handshake, ∃ f : HandshakeFault,
        h.attempt u (some token) = .answered 0 (.refused (.connect u.text f.message))) ∧
      ∀ now script afterwards backoff connectTimeout events,
        ((Life.ofChannel now (Channel.connect u.text
          (Connector.ofHandshakes u (some token) script afterwards) backoff connectTimeout)).run
            events).channel.lines = []
  /-- Where both go without a token, the token keeps both or neither from being sent exactly if it
  is visible or fits no header. -/
  alike_iff : ∀ (c : ApiClient) x task u journal line script,
    ((c.holding none).perform x task).requests ≠ [] →
      App.seenFrom u none journal line script ≠ [] →
        ((((c.holding (some token)).perform x task).requests = [] ↔
          App.seenFrom u (some token) journal line script = []) ↔
            (FitsHeader token → IsVisible token))
  /-- Neither is ever sent with a cookie that has the end of a line. -/
  one_line :
    (∀ (c : ApiClient) x task, ∀ r ∈ ((c.holding (some token)).perform x task).requests,
      ∀ cookie, r.cookie = some cookie → Http.IsOneLine cookie) ∧
    ∀ u journal line script, ∀ h ∈ App.seenFrom u (some token) journal line script,
      ∀ cookie, h.cookie = some cookie → Http.IsOneLine cookie

/-- Requests and handshakes carry the same cookie of a token, and both refuse one that fits no
header; they part over tokens that are not ASCII, with which requests are sent and handshakes are
not. -/
theorem token_treated (token : String) : TokenTreated token where
  sent ht c x task := c.perform_holding_of_fitsHeader x task ht
  refused ht c x task := c.perform_holding_of_not_fitsHeader x task ht
  seen ht u journal := App.seenFrom_of_isVisible u journal ht
  unseen ht u := by
    have hfault := Handshake.not_noFault_of_not_isVisible ht (u := u)
    refine ⟨fun journal => App.seenFrom_of_not_isVisible u journal ht,
      Handshake.attempt_of_fault hfault, ?_⟩
    intro now script afterwards backoff connectTimeout events
    have hbarred := Channel.barred_connect (Handshake.refuses_ofHandshakes hfault script afterwards)
      u.text backoff connectTimeout
    exact (Channel.Barred.run (s := Life.ofChannel now _) hbarred events).lines_eq
  alike_iff c x task u journal line script hsent hseen := by
    rw [ApiClient.requests_holding_eq_nil_iff hsent, App.seenFrom_some_eq_nil_iff hseen]
    constructor
    · intro h ht
      exact Classical.byContradiction fun hv => h.mpr hv ht
    · exact fun h => ⟨fun ht hv => ht hv.fitsHeader, fun hv ht => hv (h ht)⟩
  one_line := ⟨fun _ _ _ _ hr _ hc => ApiClient.isOneLine_of_requested hr hc,
    fun _ _ _ _ _ hh _ hc => App.isOneLine_of_seen hh hc⟩

/-- With a token that is not ASCII an exercise is asked for, but no handshake is written, although
one is without a token. -/
theorem foreign_token_opens_no_channel :
    let config : Config := { Config.standard with authToken := some "é" }
    ∃ client u, ApiClient.ofConfig config = .ok client ∧ config.channelUrl = .ok u ∧
      (client.perform .dropped (.exercise "e")).requests =
        [⟨"GET", "http://localhost:8080/api/v1/exercises/e", some "auth_token=é", none⟩] ∧
      App.seenFrom u none [] 0 [.dropped] = [⟨"/ws", none, []⟩] ∧
      App.seenFrom u (some "é") [] 0 [.dropped] = [] ∧
      Handshake.attempt u (some "é") .dropped =
        .answered 0 (.refused (.connect "ws://localhost:8080/ws"
          (HandshakeFault.foreignToken "auth_token=é").message)) :=
  ⟨_, _, rfl, rfl, rfl, rfl, rfl, rfl⟩

end ExerciseClient
