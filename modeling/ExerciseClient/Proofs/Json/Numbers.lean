import ExerciseClient.Proofs.Decimal.Interchange
import ExerciseClient.Proofs.Json.Spelling

/-! Numbers as they are written. A number whose text is read alone as that number is read back from
any place in a text; and a literal without a fraction and a power of ten is kept exactly as long as
it fits 64 bits, signed or not. Under a key of an object stands a number exactly where the text has a
literal. -/

namespace ExerciseClient.Json

open Decimal (Binary64)

/-! ### More text after a number -/

theorem SpellsWhole.append {cs ds rest : List Char} (h : SpellsWhole cs ds rest)
    (more : List Char) : SpellsWhole (cs ++ more) ds (rest ++ more) := by
  cases h with
  | zero => exact .zero _
  | digits hds hd =>
      rw [List.append_assoc]
      exact .digits hds hd _

theorem SpellsFraction.append {cs rest : List Char} {f : Option (List Char)}
    (h : SpellsFraction cs f rest) (more : List Char) :
    SpellsFraction (cs ++ more) f (rest ++ more) := by
  cases h with
  | absent => exact .absent _
  | present hds =>
      rw [List.cons_append, List.append_assoc]
      exact .present hds _

theorem SpellsExponent.append {cs rest : List Char} {e : Option (Bool × List Char)}
    (h : SpellsExponent cs e rest) (more : List Char) :
    SpellsExponent (cs ++ more) e (rest ++ more) := by
  cases h with
  | absent => exact .absent _
  | bare he hds =>
      rw [List.cons_append, List.append_assoc]
      exact .bare he hds _
  | plus he hds =>
      rw [List.cons_append, List.cons_append, List.append_assoc]
      exact .plus he hds _
  | minus he hds =>
      rw [List.cons_append, List.cons_append, List.append_assoc]
      exact .minus he hds _

theorem SpellsLiteral.append {cs rest : List Char} {l : Literal} (h : SpellsLiteral cs l rest)
    (more : List Char) : SpellsLiteral (cs ++ more) l (rest ++ more) := by
  have hunsigned {cs : List Char} {l : Literal} (h : SpellsUnsigned cs l rest) :
      SpellsUnsigned (cs ++ more) l (rest ++ more) := by
    cases h with
    | mk hw hf he => exact .mk (hw.append more) (hf.append more) (he.append more)
  cases h with
  | positive h => exact .positive (hunsigned h)
  | negative h => exact .negative (hunsigned h)

theorem SpellsWhole.suffix {cs ds rest : List Char} (h : SpellsWhole cs ds rest) : rest <:+ cs := by
  cases h with
  | zero => exact List.suffix_cons _ _
  | digits => exact List.suffix_append _ _

theorem SpellsFraction.suffix {cs rest : List Char} {f : Option (List Char)}
    (h : SpellsFraction cs f rest) : rest <:+ cs := by
  cases h with
  | absent => exact List.suffix_refl _
  | present => exact (List.suffix_append _ _).trans (List.suffix_cons _ _)

theorem SpellsExponent.suffix {cs rest : List Char} {e : Option (Bool × List Char)}
    (h : SpellsExponent cs e rest) : rest <:+ cs := by
  cases h with
  | absent => exact List.suffix_refl _
  | bare => exact (List.suffix_append _ _).trans (List.suffix_cons _ _)
  | plus | minus =>
      exact (List.suffix_append _ _).trans ((List.suffix_cons _ _).trans (List.suffix_cons _ _))

/-- What is left after a number stands at the end of the text. -/
theorem SpellsLiteral.suffix {cs rest : List Char} {l : Literal} (h : SpellsLiteral cs l rest) :
    rest <:+ cs := by
  have hunsigned {cs : List Char} {l : Literal} (h : SpellsUnsigned cs l rest) : rest <:+ cs := by
    cases h with
    | mk hw hf he => exact he.suffix.trans (hf.suffix.trans hw.suffix)
  cases h with
  | positive h => exact hunsigned h
  | negative h => exact (hunsigned h).trans (List.suffix_cons _ _)

/-! ### Integer literals -/

namespace Literal

/-- There is neither a fraction nor a power of ten. -/
structure IsInteger (l : Literal) : Prop where
  fraction_eq : l.fraction = none
  exponent_eq : l.exponent = none

/-- The integer that the whole digits write. -/
def integer (l : Literal) : Int :=
  if l.negative then -(digitsValue l.whole : Int) else digitsValue l.whole

end Literal

/-- Only integer literals stand for integers. -/
theorem Literal.isInteger_of_value {l : Literal} {i : Int} (h : l.value = some (.int i)) :
    l.IsInteger := by
  obtain ⟨negative, whole, fraction, exponent⟩ := l
  rw [value] at h
  cases fraction with
  | none =>
      cases exponent with
      | none => exact ⟨rfl, rfl⟩
      | some e =>
          dsimp only at h
          split at h
          · simp at h
          · split at h <;> simp at h
  | some f =>
      cases exponent with
      | none => simp at h
      | some e =>
          dsimp only at h
          split at h
          · simp at h
          · split at h <;> simp at h

/-- An integer literal is written with digits, and a sign. -/
theorem SpellsLiteral.plain_of_isInteger {cs : List Char} {l : Literal}
    (h : SpellsLiteral cs l []) (hl : l.IsInteger) : ∀ c ∈ cs, c = '-' ∨ c.isDigit = true := by
  have hunsigned {cs : List Char} {l : Literal} (h : SpellsUnsigned cs l []) (hl : l.IsInteger) :
      ∀ c ∈ cs, c.isDigit = true := by
    cases h with
    | mk hw hf he =>
        obtain ⟨rfl, rfl⟩ := hl
        cases he
        cases hf
        cases hw with
        | zero => simp
        | digits hds => simpa using hds.isDigit
  cases h with
  | positive h => exact fun c hc => .inr (hunsigned h hl c hc)
  | negative h =>
      intro c hc
      rcases List.mem_cons.mp hc with rfl | hc
      · exact .inl rfl
      · exact .inr (hunsigned h ⟨hl.fraction_eq, hl.exponent_eq⟩ c hc)

/-! ### Texts of numbers -/

theorem Follows.ends {rest : List Char} (h : Follows rest) : Ends rest := by
  cases h with
  | nothing => simp [Ends]
  | comma | bracket | brace =>
      intro c hc
      obtain rfl := Option.some.inj hc
      exact .inr (by simp)

theorem Denotes.exists_spells {text : String} {v : Value} (h : Denotes text v) :
    ∃ raw rest, Spells text.toList raw rest ∧ Gap rest [] ∧ raw.sorted = v := by
  cases h with
  | mk h hrest => exact ⟨_, _, h, hrest, rfl⟩

theorem eq_num_of_sorted {v : Value} {n : Number} (h : v.sorted = .num n) : v = .num n := by
  cases v with
  | num => exact h
  | null | bool | str | arr | obj => simp [Value.sorted] at h

/-- A text without gaps that is read as a number is its literal. -/
theorem exists_literal_of_parse {text : String} {n : Number}
    (hgap : ∀ c ∈ text.toList, isGap c = false) (h : parse text = .ok (.num n)) :
    ∃ l, SpellsLiteral text.toList l [] ∧ l.value = some n := by
  obtain ⟨raw, rest, hspells, hrest, hraw⟩ := (parse_eq_ok_iff.mp h).exists_spells
  obtain rfl := eq_num_of_sorted hraw
  generalize text.toList = cs at hspells hgap
  cases hspells with
  | gap hc => simp [hgap _ List.mem_cons_self] at hc
  | num hl hn =>
      cases hrest with
      | nil => exact ⟨_, hl, hn⟩
      | cons hc =>
          have hmem := hl.suffix.subset List.mem_cons_self
          simp [hgap _ hmem] at hc

theorem isGap_eq_false_of_isNumeral {c : Char} (h : Decimal.IsNumeral c) : isGap c = false := by
  rcases h with hdigit | hmem
  · exact not_gap_of_begins (.inr hdigit)
  · simp only [List.mem_cons, List.not_mem_nil, or_false] at hmem
    rcases hmem with rfl | rfl | rfl | rfl <;> rfl

/-- What is taken as a real number is some number. -/
theorem parse_of_decodeText_real {text : String} {x : Binary64}
    (h : decodeText Decoder.real text = .ok x) :
    ∃ n : Number, parse text = .ok (.num n) ∧ n.toReal = x := by
  obtain ⟨hroot, hcomplete⟩ := decodeText_eq_ok.mp h
  generalize ht : (Document.read text).root = t at hroot
  cases t with
  | num n =>
      cases n with
      | some n =>
          refine ⟨n, decodeText_eq_ok.mpr ⟨?_, hcomplete⟩, Except.ok.inj hroot⟩
          rw [ht]
          rfl
      | none => simp [Decoder.real] at hroot
  | null | bool | str | arr | obj | foreign | broken => simp [Decoder.real] at hroot

/-- A real number is read back from any place if it is from its text alone. -/
theorem Number.isReread_real {x : Binary64}
    (h : decodeText Decoder.real x.interchangeText = .ok x) : (Number.real x).IsReread := by
  obtain ⟨n, hparse, hn⟩ := parse_of_decodeText_real h
  obtain ⟨l, hl, hvalue⟩ := exists_literal_of_parse
    (fun _ hc => isGap_eq_false_of_isNumeral (x.isNumeral_interchangeText hc)) hparse
  cases n with
  | int i =>
      have hplain := hl.plain_of_isInteger (Literal.isInteger_of_value hvalue)
      rcases x.marked_interchangeText with hmem | hmem <;>
        · have := hplain _ hmem
          simp [Char.isDigit] at this
  | real y =>
      obtain rfl : y = x := hn
      intro rest hrest
      exact ⟨l, (hl.append rest).readLiteral_eq hrest.ends, hvalue⟩

theorem Number.text_ne_empty (n : Number) : n.text ≠ "" := by
  cases n with
  | int i =>
      cases i with
      | ofNat n =>
          intro h
          have hdigits : Nat.toDigits 10 n = [] := by
            rw [← Nat.toList_repr]
            exact congrArg String.toList h
          exact Nat.toDigits_ne_nil hdigits
      | negSucc n =>
          intro h
          have hchars := congrArg String.toList h
          simp [text, toString, Int.repr] at hchars
  | real x =>
      intro h
      have h : x.interchangeText = "" := h
      have hmarked := x.marked_interchangeText
      simp [h] at hmarked

/-! ### Integers of 64 bits -/

/-- An integer that fits 64 bits, signed or not. -/
def FitsWord (i : Int) : Prop := -2 ^ 63 ≤ i ∧ i < 2 ^ 64

instance (i : Int) : Decidable (FitsWord i) := inferInstanceAs (Decidable (_ ∧ _))

/-- Integers that fit are read back, so they have different texts. -/
theorem eq_of_toString_eq {i j : Int} (hi : FitsWord i) (hj : FitsWord j)
    (h : toString i = toString j) : i = j := by
  obtain ⟨l, hread, hvalue⟩ := Number.isReread_int hi.1 hi.2 [] .nothing
  obtain ⟨l', hread', hvalue'⟩ := Number.isReread_int hj.1 hj.2 [] .nothing
  have htext : (Number.int i).text = (Number.int j).text := h
  rw [htext, hread'] at hread
  obtain ⟨rfl, -⟩ := Prod.mk.inj (Option.some.inj hread)
  rw [hvalue'] at hvalue
  exact (Number.int.inj (Option.some.inj hvalue)).symm

/-- Digits only make a number larger. -/
theorem le_foldl_digits (n : Nat) (ds : List Char) :
    n ≤ ds.foldl (fun n c => n * 10 + digitValue c) n := by
  induction ds generalizing n with
  | nil => exact Nat.le_refl n
  | cons d ds ih =>
      have hstep := ih (n * 10 + digitValue d)
      rw [List.foldl_cons]
      omega

theorem appendDigits_of_le {n : Nat} {ds : List Char}
    (h : ds.foldl (fun n c => n * 10 + digitValue c) n ≤ maxNatural) :
    appendDigits n ds = (ds.foldl (fun n c => n * 10 + digitValue c) n, []) := by
  induction ds generalizing n with
  | nil => rfl
  | cons d ds ih =>
      rw [List.foldl_cons] at h ⊢
      have hfits : n * 10 + digitValue d ≤ maxNatural := Nat.le_trans (le_foldl_digits _ ds) h
      rw [appendDigits, if_pos hfits, ih h]

/-- Of a number that is too large, digits are left over. -/
theorem appendDigits_of_lt {n : Nat} {ds : List Char} (hn : n ≤ maxNatural)
    (h : maxNatural < ds.foldl (fun n c => n * 10 + digitValue c) n) :
    (appendDigits n ds).2 ≠ [] := by
  induction ds generalizing n with
  | nil => exact absurd h (Nat.not_lt.mpr hn)
  | cons d ds ih =>
      rw [appendDigits]
      split
      · exact ih ‹_› h
      · exact List.cons_ne_nil d ds

/-- An integer other than zero is kept as it is if it fits, and as a real number otherwise. -/
theorem Literal.IsInteger.value_cases {l : Literal} (hl : l.IsInteger) (hne : l.integer ≠ 0)
    {n : Number} (hn : l.value = some n) :
    (FitsWord l.integer ∧ n = .int l.integer) ∨ (¬ FitsWord l.integer ∧ ∃ x, n = .real x) := by
  obtain ⟨negative, whole, fraction, exponent⟩ := l
  obtain ⟨rfl, rfl⟩ := hl
  have hmax : maxNatural = 2 ^ 64 - 1 := rfl
  by_cases hfits : digitsValue whole ≤ maxNatural
  · have hdigits : appendDigits 0 whole = (digitsValue whole, []) := appendDigits_of_le hfits
    simp only [Literal.value, hdigits, List.isEmpty_nil, if_true] at hn
    cases negative with
    | false =>
        simp only [Bool.not_false, if_true, Option.some.injEq] at hn
        simp only [integer, Bool.false_eq_true, if_false, FitsWord]
        left
        exact ⟨by omega, hn.symm⟩
    | true =>
        simp only [integer, if_true] at hne
        simp only [Bool.not_true, Bool.false_eq_true, if_false] at hn
        simp only [integer, if_true, FitsWord]
        split at hn
        · right
          exact ⟨by omega, _, (Option.some.inj hn).symm⟩
        · left
          exact ⟨by omega, (Option.some.inj hn).symm⟩
  · have hspilled : (appendDigits 0 whole).2 ≠ [] :=
      appendDigits_of_lt (Nat.zero_le _) (Nat.lt_of_not_le hfits)
    right
    constructor
    · simp only [integer, FitsWord]
      split <;> omega
    · simp only [Literal.value, List.isEmpty_iff, hspilled, if_false, Option.map_eq_some_iff] at hn
      obtain ⟨x, -, rfl⟩ := hn
      exact ⟨_, rfl⟩

/-! ### Numbers under a key -/

/-- The text spells members, the last of them under a key as a number literal that is in range. -/
inductive SpellsUnder (key : String) (l : Literal) : Bool → List Char → List Char → Prop where
  | here {cs quoted named value number mid ms rest} (hq : Gap cs ('"' :: quoted))
      (hk : SpellsChars quoted key.toList named) (hc : Gap named (':' :: value))
      (hg : Gap value number) (hl : SpellsLiteral number l mid) (hn : l.value.isSome = true)
      (hs : SpellsMembers false mid ms rest) (hlast : ms.lookup key = none) :
      SpellsUnder key l true cs rest
  | later {cs quoted other named value v mid rest} (hq : Gap cs ('"' :: quoted))
      (hk : SpellsChars quoted other named) (hc : Gap named (':' :: value))
      (hv : Spells value v mid) (hs : SpellsUnder key l false mid rest) :
      SpellsUnder key l true cs rest
  | comma {cs cs' rest} (hc : Gap cs (',' :: cs')) (h : SpellsUnder key l true cs' rest) :
      SpellsUnder key l false cs rest

theorem lookup_reverse_cons (key : String) (m : String × Value) (ms : List (String × Value)) :
    (m :: ms).reverse.lookup key = (ms.reverse.lookup key).or ([m].lookup key) := by
  rw [List.reverse_cons, List.lookup_append]

theorem lookup_reverse_eq_none {key : String} {ms : List (String × Value)} :
    ms.reverse.lookup key = none ↔ ms.lookup key = none := by
  simp only [List.lookup_eq_none_iff, List.mem_reverse]

/-- Members that are spelled so have the number of the literal under the key. -/
theorem SpellsUnder.exists_members {key : String} {l : Literal} {first : Bool}
    {cs rest : List Char} (h : SpellsUnder key l first cs rest) :
    ∃ ms n, SpellsMembers first cs ms rest ∧ l.value = some n ∧
      ms.reverse.lookup key = some (.num n) := by
  induction h with
  | @here cs quoted named value number mid ms rest hq hk hc hg hl hn hs hlast =>
      obtain ⟨n, hn⟩ := Option.isSome_iff_exists.mp hn
      refine ⟨_, n, .first hq hk hc (hg.spells (.num hl hn)) hs, hn, ?_⟩
      rw [lookup_reverse_cons, lookup_reverse_eq_none.mpr hlast, Option.none_or,
        String.ofList_toList, List.lookup_cons_self]
  | later hq hk hc hv _ ih =>
      obtain ⟨ms, n, hms, hn, hlookup⟩ := ih
      refine ⟨_, n, .first hq hk hc hv hms, hn, ?_⟩
      rw [lookup_reverse_cons, hlookup, Option.some_or]
  | comma hc _ ih =>
      obtain ⟨ms, n, hms, hn, hlookup⟩ := ih
      cases ms with
      | nil => simp at hlookup
      | cons m ms => exact ⟨_, n, .comma hc hms, hn, hlookup⟩

theorem Spells.exists_literal : ∀ {cs rest : List Char} {n : Number}, Spells cs (.num n) rest →
    ∃ number l, Gap cs number ∧ SpellsLiteral number l rest ∧ l.value = some n
  | _, _, _, .gap hc h => by
      obtain ⟨number, l, hg, hl, hn⟩ := h.exists_literal
      exact ⟨number, l, .cons hc hg, hl, hn⟩
  | cs, _, _, .num h hn => ⟨cs, _, .nil cs, h, hn⟩

/-- A number under a key is written there as a literal. -/
theorem SpellsMembers.exists_under : ∀ {first : Bool} {cs rest : List Char}
    {ms : List (String × Value)} {key : String} {n : Number},
    SpellsMembers first cs ms rest → ms.reverse.lookup key = some (.num n) →
      ∃ l, SpellsUnder key l first cs rest ∧ l.value = some n
  | _, _, _, _, _, _, .done _, h => by simp at h
  | _, _, _, _, key, n, @SpellsMembers.first _ _ _ _ _ _ _ ms _ hq hk hc hv hs, h => by
      rw [lookup_reverse_cons] at h
      cases hms : ms.reverse.lookup key with
      | some w =>
          rw [hms, Option.some_or] at h
          obtain ⟨l, hl, hn⟩ := hs.exists_under (hms.trans h)
          exact ⟨l, .later hq hk hc hv hl, hn⟩
      | none =>
          rw [hms, Option.none_or] at h
          have hmem := KeyedMap.mem_of_lookup h
          simp only [List.mem_singleton, Prod.mk.injEq] at hmem
          obtain ⟨rfl, rfl⟩ := hmem
          obtain ⟨number, l, hg, hl, hn⟩ := hv.exists_literal
          refine ⟨l, .here hq ?_ hc hg hl (by simp [hn]) hs (lookup_reverse_eq_none.mp hms), hn⟩
          rwa [String.toList_ofList]
  | _, _, _, _, _, _, .comma hc h, hlookup => by
      obtain ⟨l, hl, hn⟩ := h.exists_under hlookup
      exact ⟨l, .comma hc hl, hn⟩

/-- Under a key of an object the text has a number literal. -/
inductive Writes (text key : String) (l : Literal) : Prop where
  | mk {cs rest} (hopen : Gap text.toList ('\x7b' :: cs)) (h : SpellsUnder key l true cs rest)
      (hrest : Gap rest [])

theorem Spells.exists_members : ∀ {cs rest : List Char} {ms : List (String × Value)},
    Spells cs (.obj ms) rest → ∃ inner, Gap cs ('\x7b' :: inner) ∧ SpellsMembers true inner ms rest
  | _, _, _, .gap hc h => by
      obtain ⟨inner, hg, hms⟩ := h.exists_members
      exact ⟨inner, .cons hc hg, hms⟩
  | _, _, _, .obj h => ⟨_, .nil _, h⟩

theorem exists_obj_of_sorted {v : Value} {ms : List (String × Value)} (h : v.sorted = .obj ms) :
    ∃ raws, v = .obj raws := by
  cases v with
  | obj raws => exact ⟨raws, rfl⟩
  | null | bool | num | str | arr => simp [Value.sorted] at h

/-- What stands under a key of an object is a number exactly if it is written as a literal. -/
theorem Denotes.lookup_eq_num_iff {text key : String} {ms : List (String × Value)} {n : Number}
    (h : Denotes text (.obj ms)) :
    ms.lookup key = some (.num n) ↔ ∃ l, Writes text key l ∧ l.value = some n := by
  constructor
  · intro hn
    obtain ⟨raw, rest, hspells, hrest, hraw⟩ := h.exists_spells
    obtain ⟨raws, rfl⟩ := exists_obj_of_sorted hraw
    obtain ⟨inner, hopen, hms⟩ := hspells.exists_members
    have hlookup : (Value.obj raws).sorted.get? key = some (.num n) := by rw [hraw]; exact hn
    rw [get?_sorted_obj, Option.map_eq_some_iff] at hlookup
    obtain ⟨v, hv, hsorted⟩ := hlookup
    obtain rfl := eq_num_of_sorted hsorted
    obtain ⟨l, hl, hln⟩ := hms.exists_under hv
    exact ⟨l, .mk hopen hl hrest, hln⟩
  · rintro ⟨l, ⟨hopen, hl, hrest⟩, hn⟩
    obtain ⟨raws, m, hms, hm, hlookup⟩ := hl.exists_members
    obtain rfl : m = n := Option.some.inj (hm.symm.trans hn)
    obtain ⟨raw, rest', hspells, hrest', hraw⟩ := h.exists_spells
    have hwhole : Document.read text = ⟨raw.tree, true⟩ := read_eq_iff.mpr ⟨_, hspells, hrest'⟩
    have hagain : Document.read text = ⟨(Value.obj raws).tree, true⟩ :=
      read_eq_iff.mpr ⟨_, hopen.spells (.obj hms), hrest⟩
    have htree : raw.tree = (Value.obj raws).tree :=
      congrArg Document.root (hwhole.symm.trans hagain)
    have hvalue := congrArg (Tree.toValue raw.depth) htree
    rw [toValue_tree, toValue_tree, if_pos (Nat.le_refl _)] at hvalue
    have hsorted : raw.sorted = (Value.obj raws).sorted := by
      split at hvalue
      · exact Except.ok.inj hvalue
      · simp at hvalue
    have hget : (Value.obj ms).get? key = some (.num m) := by
      rw [← hraw, hsorted, get?_sorted_obj, hlookup]
      rfl
    exact hget

end ExerciseClient.Json
