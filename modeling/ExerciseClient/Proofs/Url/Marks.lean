import ExerciseClient.Proofs.Url.Percent
import ExerciseClient.Url.Reader

/-! The marks that begin a query and a fragment. No user info, host or path of a URL is written with
one: where a text that is read has them, they are encoded or it is refused. So the text of a URL
without query and fragment has no mark. -/

namespace ExerciseClient.Url

open Text

/-- No query or fragment begins in a text. -/
def Unmarked (cs : List Char) : Prop := ∀ c ∈ cs, c ≠ '?' ∧ c ≠ '#'

-- Found by itself, the instance might look through all characters.
instance : DecidablePred Unmarked := fun cs =>
  List.decidableBAll (fun c => c ≠ '?' ∧ c ≠ '#') cs

theorem isSign_query : IsSign '?' := ⟨by decide, by decide⟩

theorem isSign_fragment : IsSign '#' := ⟨by decide, by decide⟩

namespace Unmarked

theorem nil : Unmarked [] := by
  intro c hc
  simp at hc

theorem cons_iff {c : Char} {cs : List Char} :
    Unmarked (c :: cs) ↔ (c ≠ '?' ∧ c ≠ '#') ∧ Unmarked cs :=
  List.forall_mem_cons

theorem append_iff {as bs : List Char} : Unmarked (as ++ bs) ↔ Unmarked as ∧ Unmarked bs :=
  List.forall_mem_append

theorem append {as bs : List Char} (ha : Unmarked as) (hb : Unmarked bs) : Unmarked (as ++ bs) :=
  append_iff.mpr ⟨ha, hb⟩

theorem of_subset {as bs : List Char} (h : Unmarked bs) (hs : ∀ c ∈ as, c ∈ bs) : Unmarked as :=
  fun c hc => h c (hs c hc)

/-- A text is unmarked where a class that has the marks bars none of it. -/
theorem of_barred {bars : Char → Bool} (hquery : bars '?' = true) (hfragment : bars '#' = true)
    {cs : List Char} (h : ∀ c ∈ cs, bars c = false) : Unmarked cs := by
  intro c hc
  have hkept := h c hc
  constructor
  · rintro rfl
    simp [hquery] at hkept
  · rintro rfl
    simp [hfragment] at hkept

theorem lowerAscii {cs : List Char} (h : Unmarked cs) : Unmarked (lowerAscii cs) := by
  intro c hc
  obtain ⟨d, hd, hlower⟩ := List.mem_map.mp hc
  constructor
  · rintro rfl
    exact (h d hd).1 (eq_of_toLower hlower (by decide))
  · rintro rfl
    exact (h d hd).2 (eq_of_toLower hlower (by decide))

/-- A mark stands in an encoded text only if it is in the text and is not encoded. -/
theorem percentEncode {set : EncodeSet} {cs : List Char}
    (h : Unmarked cs ∨ set '?' = true ∧ set '#' = true) : Unmarked (percentEncode set cs) := by
  have hsign {x : Char} (hx : IsSign x) (hmem : x ∈ Url.percentEncode set cs)
      (hor : x ∉ cs ∨ set x = true) : False := by
    obtain ⟨hcs, hkept⟩ := hx.of_mem_percentEncode hmem
    rcases hor with hor | hor
    · exact hor hcs
    · simp [hor] at hkept
  intro c hc
  constructor
  · rintro rfl
    exact hsign isSign_query hc (h.imp (fun h hmem => (h _ hmem).1 rfl) And.left)
  · rintro rfl
    exact hsign isSign_fragment hc (h.imp (fun h hmem => (h _ hmem).2 rfl) And.right)

theorem joinWith {separator : Char} (hs : separator ≠ '?' ∧ separator ≠ '#')
    {parts : List (List Char)} (h : ∀ part ∈ parts, Unmarked part) :
    Unmarked (joinWith separator parts) := by
  induction parts with
  | nil => exact nil
  | cons part parts ih =>
      have hpart := h part List.mem_cons_self
      have hrest := ih fun p hp => h p (List.mem_cons_of_mem _ hp)
      cases parts with
      | nil => exact hpart
      | cons next parts => exact hpart.append (cons_iff.mpr ⟨hs, hrest⟩)

/-! ### Numbers -/

theorem digitChar {d : Nat} (h : d < 16) : d.digitChar ≠ '?' ∧ d.digitChar ≠ '#' := by
  have hall : ∀ m : Fin 16, m.val.digitChar ≠ '?' ∧ m.val.digitChar ≠ '#' := by decide
  exact hall ⟨d, h⟩

theorem toDigits {b : Nat} (hb : 1 < b) (hle : b ≤ 16) (n : Nat) : Unmarked (Nat.toDigits b n) := by
  induction n using Nat.strongRecOn with
  | ind n ih =>
      rw [Nat.toDigits_eq_if hb]
      split
      · rename_i hlt
        exact cons_iff.mpr ⟨digitChar (by omega), nil⟩
      · rename_i hge
        have hmod : n % b < b := Nat.mod_lt _ (by omega)
        have hdiv : n / b < n := Nat.div_lt_self (by omega) hb
        exact (ih _ hdiv).append (cons_iff.mpr ⟨digitChar (by omega), nil⟩)

theorem toString (n : Nat) : Unmarked (toString n).toList := by
  have htext : (ToString.toString n).toList = Nat.toDigits 10 n := by
    simp [ToString.toString]
  rw [htext]
  exact toDigits (by decide) (by decide) n

end Unmarked

/-! ### Hosts -/

namespace Domain

/-- A name is lowered, or it is looked through for characters that names must not have. -/
theorem unmarked_toAscii {cs name : List Char} (h : toAscii? cs = some name) : Unmarked name := by
  have hbarred {ds : List Char} (h : ∀ d ∈ ds, isForbidden d = false) : Unmarked ds :=
    Unmarked.of_barred (by decide) (by decide) h
  rw [toAscii?] at h
  split at h
  · rename_i hplain
    obtain rfl := Option.some.inj h
    have hall := List.all_eq_true.mp (Bool.and_eq_true_iff.mp hplain).1
    refine Unmarked.lowerAscii (hbarred fun d hd => ?_)
    simpa using (Bool.and_eq_true_iff.mp (hall d hd)).2
  · simp only [Option.bind_eq_bind, Option.bind_eq_some_iff] at h
    obtain ⟨mapped, -, ls, -, h⟩ := h
    have hout : (Text.joinWith '.' (ls.map writeLabel)).any isForbidden = false ∧
        Text.joinWith '.' (ls.map writeLabel) = name := by
      split at h
      · simp at h
      · split at h
        · simp at h
        · rename_i hany
          exact ⟨by simpa using hany, Option.some.inj h⟩
    obtain ⟨hnone, rfl⟩ := hout
    refine hbarred fun d hd => ?_
    simpa using List.any_eq_false.mp hnone d hd

end Domain

namespace Host

theorem unmarked_ipv4Text (a : Nat) : Unmarked (ipv4Text a).toList := by
  rw [ipv4Text, String.toList_ofList]
  refine Unmarked.joinWith (by decide) fun part hpart => ?_
  obtain ⟨n, -, rfl⟩ := List.mem_map.mp hpart
  exact Unmarked.toString n

theorem unmarked_pieces (pieces : List Nat) :
    Unmarked (Text.joinWith ':' (pieces.map Text.hexText)) := by
  refine Unmarked.joinWith (by decide) fun part hpart => ?_
  obtain ⟨n, -, rfl⟩ := List.mem_map.mp hpart
  exact Unmarked.toDigits (by decide) (by decide) n

theorem unmarked_ipv6Text (pieces : List Nat) : Unmarked (ipv6Text pieces).toList := by
  rw [ipv6Text, String.toList_ofList]
  refine Unmarked.append (Unmarked.cons_iff.mpr ⟨by decide, ?_⟩) (by decide)
  split
  · exact unmarked_pieces pieces
  · exact ((unmarked_pieces _).append (by decide)).append (unmarked_pieces _)

theorem unmarked_readBracketed {cs : List Char} {h : Host} (hr : readBracketed cs = .ok h) :
    Unmarked h.text.toList := by
  rw [readBracketed] at hr
  split at hr
  · split at hr
    · cases hr
      exact unmarked_ipv6Text _
    · cases hr
  · cases hr

theorem unmarked_read {cs : List Char} {h : Host} (hr : read cs = .ok h) :
    Unmarked h.text.toList := by
  rw [read] at hr
  split at hr
  · exact unmarked_readBracketed hr
  · split at hr
    · cases hr
    · cases hr
    · rename_i name _ hname
      split at hr
      · split at hr
        · cases hr
          exact unmarked_ipv4Text _
        · cases hr
      · cases hr
        rw [text, String.toList_ofList]
        exact Domain.unmarked_toAscii hname

theorem unmarked_readOpaque {cs : List Char} {h : Host} (hr : readOpaque cs = .ok h) :
    Unmarked h.text.toList := by
  rw [readOpaque] at hr
  split at hr
  · exact unmarked_readBracketed hr
  · split at hr
    · cases hr
    · rename_i hany
      cases hr
      rw [text, String.toList_ofList]
      have hnone : ∀ c ∈ cs, isForbidden c = false := by simpa using hany
      exact Unmarked.percentEncode (.inl (Unmarked.of_barred (by decide) (by decide) hnone))

end Host

/-! ### User info and paths -/

theorem unmarked_readUserInfo (cs : List Char) : Unmarked (readUserInfo cs).1.toList ∧
    ∀ password, (readUserInfo cs).2 = some password → Unmarked password.toList := by
  have hencoded (ds : List Char) :
      Unmarked (String.ofList (percentEncode .userInfo ds)).toList := by
    rw [String.toList_ofList]
    exact Unmarked.percentEncode (.inr (by decide))
  rw [readUserInfo]
  split
  · refine ⟨hencoded _, fun password h => ?_⟩
    cases h
  · refine ⟨hencoded _, fun password h => ?_⟩
    split at h
    · cases h
    · cases h
      exact hencoded _

namespace Path

/-- No segment of a path has a mark. -/
def IsUnmarked (path : List String) : Prop := ∀ segment ∈ path, Unmarked segment.toList

theorem IsUnmarked.nil : IsUnmarked [] := by
  intro segment hs
  simp at hs

theorem IsUnmarked.root : IsUnmarked [""] := by
  intro segment hs
  obtain rfl := List.mem_singleton.mp hs
  exact Unmarked.nil

theorem IsUnmarked.concat {path : List String} {segment : String} (h : IsUnmarked path)
    (hs : Unmarked segment.toList) : IsUnmarked (path ++ [segment]) := by
  intro s hmem
  rcases List.mem_append.mp hmem with hmem | hmem
  · exact h s hmem
  · obtain rfl := List.mem_singleton.mp hmem
    exact hs

theorem IsUnmarked.parent {path : List String} (h : IsUnmarked path) :
    IsUnmarked (parent path) := by
  rw [Path.parent]
  split
  · exact h
  · exact fun s hs => h s ((List.dropLast_sublist _).mem hs)

theorem IsUnmarked.put {path : List String} {cs : List Char} (h : IsUnmarked path)
    (hcs : Unmarked cs) (file last : Bool) : IsUnmarked (put file last path cs) := by
  have hempty : Unmarked "".toList := Unmarked.nil
  rw [Path.put]
  split
  · split
    · exact h.parent.concat hempty
    · exact h.parent
  · split
    · split
      · exact h.concat hempty
      · exact h
    · split
      · refine h.concat ?_
        rw [String.toList_ofList]
        exact (hcs.of_subset fun c => List.mem_of_mem_take).append (by decide)
      · refine h.concat ?_
        rwa [String.toList_ofList]

theorem IsUnmarked.putAll {path : List String} {parts : List (List Char)} (h : IsUnmarked path)
    (hparts : ∀ part ∈ parts, Unmarked part) (file : Bool) :
    IsUnmarked (putAll file path parts) := by
  induction parts generalizing path with
  | nil => exact h
  | cons part parts ih =>
      have hpart := hparts part List.mem_cons_self
      have hrest := ih (h.put hpart file false) fun p hp => hparts p (List.mem_cons_of_mem _ hp)
      cases parts with
      | nil => exact h.put hpart file true
      | cons next parts => exact hrest

theorem IsUnmarked.trimFront {path : List String} (h : IsUnmarked path) (file : Bool) :
    IsUnmarked (trimFront file path) := by
  rw [Path.trimFront]
  split
  · split
    · exact .root
    · exact fun s hs => h s ((List.dropWhile_sublist _).mem hs)
  · exact h

/-- A path text is read with its marks encoded. -/
theorem unmarked_ofChars (special file : Bool) (cs : List Char) :
    Unmarked (ofChars special file cs).text.toList := by
  have hsegments : IsUnmarked (Path.trimFront file (Path.putAll file []
      ((splitWhere (fun c => c == '/' || (special && c == '\\')) cs).map
        (percentEncode .path)))) := by
    refine IsUnmarked.trimFront (IsUnmarked.nil.putAll (fun part hpart => ?_) file) file
    obtain ⟨ds, -, rfl⟩ := List.mem_map.mp hpart
    exact Unmarked.percentEncode (.inr (by decide))
  rw [ofChars, text, String.toList_join]
  intro c hc
  obtain ⟨segment, hsegment, hc⟩ := List.mem_flatMap.mp hc
  obtain ⟨s, hs, rfl⟩ := List.mem_map.mp hsegment
  rw [String.toList_append] at hc
  exact Unmarked.append (by decide) (hsegments s hs) c hc

end Path

end ExerciseClient.Url
