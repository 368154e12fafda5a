import ExerciseClient.Proofs.Json.Sorting

/-! The texts of JSON. The rules say which value a text spells and do not invoke the reader; for
gaps, numbers and quoted texts they agree with it. -/

namespace ExerciseClient.Json

/-- Only gaps stand before the rest. -/
inductive Gap : List Char → List Char → Prop where
  | nil (rest) : Gap rest rest
  | cons {c cs rest} (hc : isGap c = true) (h : Gap cs rest) : Gap (c :: cs) rest

/-- Digits, at least one. -/
structure AreDigits (ds : List Char) : Prop where
  ne_nil : ds ≠ []
  isDigit : ∀ d ∈ ds, d.isDigit = true

/-- Whole digits: a zero, or digits that do not begin with one. -/
inductive SpellsWhole : List Char → List Char → List Char → Prop where
  | zero (rest) : SpellsWhole ('0' :: rest) ['0'] rest
  | digits {d ds} (h : AreDigits (d :: ds)) (hd : d ≠ '0') (rest) :
      SpellsWhole (d :: ds ++ rest) (d :: ds) rest

/-- A point and digits, or nothing. -/
inductive SpellsFraction : List Char → Option (List Char) → List Char → Prop where
  | absent (rest) : SpellsFraction rest none rest
  | present {ds} (h : AreDigits ds) (rest) : SpellsFraction ('.' :: (ds ++ rest)) (some ds) rest

/-- A mark and digits, perhaps with a sign before them, or nothing. -/
inductive SpellsExponent : List Char → Option (Bool × List Char) → List Char → Prop where
  | absent (rest) : SpellsExponent rest none rest
  | bare {e ds} (he : e = 'e' ∨ e = 'E') (h : AreDigits ds) (rest) :
      SpellsExponent (e :: (ds ++ rest)) (some (false, ds)) rest
  | plus {e ds} (he : e = 'e' ∨ e = 'E') (h : AreDigits ds) (rest) :
      SpellsExponent (e :: '+' :: (ds ++ rest)) (some (false, ds)) rest
  | minus {e ds} (he : e = 'e' ∨ e = 'E') (h : AreDigits ds) (rest) :
      SpellsExponent (e :: '-' :: (ds ++ rest)) (some (true, ds)) rest

/-- A number without its sign. -/
inductive SpellsUnsigned : List Char → Literal → List Char → Prop where
  | mk {cs whole a fraction b exponent rest} (hw : SpellsWhole cs whole a)
      (hf : SpellsFraction a fraction b) (he : SpellsExponent b exponent rest) :
      SpellsUnsigned cs ⟨false, whole, fraction, exponent⟩ rest

/-- A number with its sign. -/
inductive SpellsLiteral : List Char → Literal → List Char → Prop where
  | positive {cs l rest} (h : SpellsUnsigned cs l rest) : SpellsLiteral cs l rest
  | negative {cs l rest} (h : SpellsUnsigned cs l rest) :
      SpellsLiteral ('-' :: cs) { l with negative := true } rest

/-- The characters of a quoted text up to its closing quote. A code of four hexadecimal digits
stands for its character, and two codes stand for one character if they are a pair of
surrogates. -/
inductive SpellsChars : List Char → List Char → List Char → Prop where
  | close (rest) : SpellsChars ('"' :: rest) [] rest
  | plain {c cs s rest} (hquote : c ≠ '"') (hslash : c ≠ '\\') (hc : 0x20 ≤ c.toNat)
      (h : SpellsChars cs s rest) : SpellsChars (c :: cs) (c :: s) rest
  | short {e c cs s rest} (he : shortEscape e = some c) (h : SpellsChars cs s rest) :
      SpellsChars ('\\' :: e :: cs) (c :: s) rest
  | code {a b c d n cs s rest} (hn : hexFour? a b c d = some n) (hs : n < 0xD800 ∨ 0xE000 ≤ n)
      (h : SpellsChars cs s rest) :
      SpellsChars ('\\' :: 'u' :: a :: b :: c :: d :: cs) (Char.ofNat n :: s) rest
  | pair {a b c d high a' b' c' d' low cs s rest} (hhigh : hexFour? a b c d = some high)
      (hh : 0xD800 ≤ high ∧ high < 0xDC00) (hlow : hexFour? a' b' c' d' = some low)
      (hl : 0xDC00 ≤ low ∧ low < 0xE000) (h : SpellsChars cs s rest) :
      SpellsChars
        ('\\' :: 'u' :: a :: b :: c :: d :: '\\' :: 'u' :: a' :: b' :: c' :: d' :: cs)
        (pairChar high low :: s) rest

mutual

/-- The text spells the value, up to the rest. -/
inductive Spells : List Char → Value → List Char → Prop where
  | gap {c cs v rest} (hc : isGap c = true) (h : Spells cs v rest) : Spells (c :: cs) v rest
  | null (rest) : Spells ('n' :: 'u' :: 'l' :: 'l' :: rest) .null rest
  | yes (rest) : Spells ('t' :: 'r' :: 'u' :: 'e' :: rest) (.bool true) rest
  | no (rest) : Spells ('f' :: 'a' :: 'l' :: 's' :: 'e' :: rest) (.bool false) rest
  | num {cs l n rest} (h : SpellsLiteral cs l rest) (hn : l.value = some n) :
      Spells cs (.num n) rest
  | str {cs s rest} (h : SpellsChars cs s rest) : Spells ('"' :: cs) (.str (String.ofList s)) rest
  | arr {cs vs rest} (h : SpellsItems true cs vs rest) : Spells ('[' :: cs) (.arr vs) rest
  | obj {cs ms rest} (h : SpellsMembers true cs ms rest) : Spells ('\x7b' :: cs) (.obj ms) rest

/-- The text spells elements up to the end of their array; all but the first have a comma before
them. -/
inductive SpellsItems : Bool → List Char → List Value → List Char → Prop where
  | done {first cs rest} (h : Gap cs (']' :: rest)) : SpellsItems first cs [] rest
  | first {cs v mid vs rest} (hv : Spells cs v mid) (hs : SpellsItems false mid vs rest) :
      SpellsItems true cs (v :: vs) rest
  | comma {cs cs' v vs rest} (hc : Gap cs (',' :: cs')) (h : SpellsItems true cs' (v :: vs) rest) :
      SpellsItems false cs (v :: vs) rest

/-- The text spells members up to the end of their object; all but the first have a comma before
them. -/
inductive SpellsMembers : Bool → List Char → List (String × Value) → List Char → Prop where
  | done {first cs rest} (h : Gap cs ('\x7d' :: rest)) : SpellsMembers first cs [] rest
  | first {cs quoted key named value v mid ms rest} (hq : Gap cs ('"' :: quoted))
      (hk : SpellsChars quoted key named) (hc : Gap named (':' :: value))
      (hv : Spells value v mid) (hs : SpellsMembers false mid ms rest) :
      SpellsMembers true cs ((String.ofList key, v) :: ms) rest
  | comma {cs cs' m ms rest} (hc : Gap cs (',' :: cs'))
      (h : SpellsMembers true cs' (m :: ms) rest) : SpellsMembers false cs (m :: ms) rest

end

/-! ### Gaps -/

theorem gap_skipGap (cs : List Char) : Gap cs (skipGap cs) := by
  induction cs with
  | nil => exact .nil []
  | cons c cs ih =>
      cases hc : isGap c with
      | true => simpa [skipGap, hc] using Gap.cons hc ih
      | false =>
          rw [skipGap_of_not_gap hc]
          exact .nil _

theorem Gap.skipGap_eq {cs rest : List Char} (h : Gap cs rest) : skipGap cs = skipGap rest := by
  induction h with
  | nil => rfl
  | cons hc _ ih => simpa [skipGap, hc] using ih

theorem Gap.length_le {cs rest : List Char} (h : Gap cs rest) : rest.length ≤ cs.length := by
  induction h with
  | nil => exact Nat.le_refl _
  | cons _ _ ih => exact Nat.le_succ_of_le ih

theorem Gap.spells {cs cs' rest : List Char} {v : Value} (h : Gap cs cs')
    (hv : Spells cs' v rest) : Spells cs v rest := by
  induction h with
  | nil => exact hv
  | cons hc _ ih => exact .gap hc (ih hv)

/-! ### Numbers -/

/-- No digit comes next. -/
def NoDigit (cs : List Char) : Prop := ∀ c ∈ cs.head?, c.isDigit = false

/-- What ends a number: the end of the text, a gap, a comma, or the end of what is around it. -/
def Ends (cs : List Char) : Prop := ∀ c ∈ cs.head?, isGap c = true ∨ c ∈ [',', ']', '\x7d']

theorem spanDigits_append {ds rest : List Char} (hd : ∀ d ∈ ds, d.isDigit = true)
    (hrest : NoDigit rest) : spanDigits (ds ++ rest) = (ds, rest) := by
  rw [spanDigits, List.takeWhile_append_of_pos hd, List.dropWhile_append_of_pos hd]
  cases rest with
  | nil => simp
  | cons c rest =>
      have hc : c.isDigit = false := hrest c rfl
      simp [hc]

theorem spanDigits_eq {cs ds rest : List Char} (h : spanDigits cs = (ds, rest)) :
    cs = ds ++ rest ∧ ∀ d ∈ ds, d.isDigit = true := by
  obtain ⟨rfl, rfl⟩ := Prod.mk.inj h
  exact ⟨List.takeWhile_append_dropWhile.symm, List.all_eq_true.mp List.all_takeWhile⟩

theorem spellsWhole_of_readWhole {cs ds rest : List Char} (h : readWhole cs = some (ds, rest)) :
    SpellsWhole cs ds rest := by
  rw [readWhole] at h
  split at h
  case h_1 | h_2 => simp at h
  case h_3 hnil hzero hspan =>
    obtain ⟨rfl, rfl⟩ := Prod.mk.inj (Option.some.inj h)
    obtain ⟨rfl, hdigits⟩ := spanDigits_eq hspan
    rename_i ds rest
    cases ds with
    | nil => exact absurd rfl hnil
    | cons d ds =>
        by_cases hd : d = '0'
        · subst d
          cases ds with
          | nil => exact .zero rest
          | cons d ds => exact absurd rfl (hzero d ds)
        · exact .digits ⟨List.cons_ne_nil d ds, hdigits⟩ hd rest

/-- Digits that are asked for are there. -/
theorem exists_digits {α : Type} {f : List Char → α} {cs rest : List Char} {a : α}
    (h : (match spanDigits cs with
      | ([], _) => none
      | (ds, rest) => some (f ds, rest)) = some (a, rest)) :
    ∃ ds, AreDigits ds ∧ cs = ds ++ rest ∧ f ds = a := by
  split at h
  case h_1 => simp at h
  case h_2 ds _ hnil hspan =>
    obtain ⟨ha, rfl⟩ := Prod.mk.inj (Option.some.inj h)
    obtain ⟨hcs, hdigits⟩ := spanDigits_eq hspan
    exact ⟨ds, ⟨hnil, hdigits⟩, hcs, ha⟩

theorem spellsFraction_of_readFraction {cs rest : List Char} {f : Option (List Char)}
    (h : readFraction cs = some (f, rest)) : SpellsFraction cs f rest := by
  rw [readFraction.eq_def] at h
  split at h
  · obtain ⟨ds, hds, rfl, rfl⟩ := exists_digits h
    exact .present hds rest
  · obtain ⟨rfl, rfl⟩ := Prod.mk.inj (Option.some.inj h)
    exact .absent _

theorem spellsExponent_of_readExponent {cs rest : List Char} {e : Option (Bool × List Char)}
    (h : readExponent cs = some (e, rest)) : SpellsExponent cs e rest := by
  rw [readExponent.eq_def] at h
  split at h
  · split at h
    · rename_i he
      split at h
      rename_i down cs' hsign
      obtain ⟨ds, hds, rfl, rfl⟩ := exists_digits (f := fun ds => some (down, ds)) h
      split at hsign <;> obtain ⟨rfl, rfl⟩ := Prod.mk.inj hsign
      · exact .minus he hds rest
      · exact .plus he hds rest
      · exact .bare he hds rest
    · obtain ⟨rfl, rfl⟩ := Prod.mk.inj (Option.some.inj h)
      exact .absent _
  · obtain ⟨rfl, rfl⟩ := Prod.mk.inj (Option.some.inj h)
    exact .absent _

theorem spellsLiteral_of_readLiteral {cs rest : List Char} {l : Literal}
    (h : readLiteral cs = some (l, rest)) : SpellsLiteral cs l rest := by
  have htail {negative : Bool} {cs : List Char}
      (h : ((readWhole cs).bind fun w => (readFraction w.2).bind fun f =>
        (readExponent f.2).bind fun e => some (⟨negative, w.1, f.1, e.1⟩, e.2)) = some (l, rest)) :
      ∃ u, SpellsUnsigned cs u rest ∧ l = { u with negative } := by
    simp only [Option.bind_eq_some_iff, Option.some.injEq, Prod.exists, Prod.mk.injEq] at h
    obtain ⟨whole, a, hw, fraction, b, hf, exponent, c, he, rfl, rfl⟩ := h
    exact ⟨_, .mk (spellsWhole_of_readWhole hw) (spellsFraction_of_readFraction hf)
      (spellsExponent_of_readExponent he), rfl⟩
  rw [readLiteral.eq_def] at h
  split at h
  rename_i negative cs' hsign
  obtain ⟨u, hu, rfl⟩ := htail h
  split at hsign <;> obtain ⟨rfl, rfl⟩ := Prod.mk.inj hsign
  · exact .negative hu
  · cases hu with
    | mk hw hf he => exact .positive (.mk hw hf he)

theorem Ends.ne {c d : Char} {cs : List Char} (h : Ends (c :: cs)) (hgap : isGap d = false)
    (hd : d ∉ [',', ']', '\x7d']) : c ≠ d := by
  rintro rfl
  rcases h c rfl with hc | hc
  · simp [hgap] at hc
  · exact hd hc

theorem Ends.noDigit {cs : List Char} (h : Ends cs) : NoDigit cs := by
  intro c hc
  cases hdigit : c.isDigit with
  | false => rfl
  | true =>
      have hgap : isGap c = false := not_gap_of_begins (.inr hdigit)
      rcases h c hc with hc | hc
      · simp [hgap] at hc
      · simp only [List.mem_cons, List.not_mem_nil, or_false] at hc
        rcases hc with rfl | rfl | rfl <;> simp [Char.isDigit] at hdigit

theorem SpellsWhole.readWhole_eq {cs ds rest : List Char} (h : SpellsWhole cs ds rest)
    (hrest : NoDigit rest) : readWhole cs = some (ds, rest) := by
  cases h with
  | zero =>
      have hspan : spanDigits (['0'] ++ rest) = (['0'], rest) :=
        spanDigits_append (by simp) hrest
      simp only [List.singleton_append] at hspan
      simp [readWhole, hspan]
  | @digits d ds hds hd =>
      simp only [readWhole, spanDigits_append hds.isDigit hrest]
      split
      case h_1 heq => simp at heq
      case h_2 heq => exact absurd (List.cons.inj (Prod.mk.inj heq).1).1 hd
      case h_3 heq => exact congrArg some heq.symm

theorem SpellsFraction.readFraction_eq {cs rest : List Char} {f : Option (List Char)}
    (h : SpellsFraction cs f rest) (hrest : NoDigit rest) (hpoint : ∀ r, rest ≠ '.' :: r) :
    readFraction cs = some (f, rest) := by
  cases h with
  | absent =>
      rw [readFraction]
      exact hpoint
  | @present ds hds =>
      simp only [readFraction, spanDigits_append hds.isDigit hrest]
      cases ds with
      | nil => exact absurd rfl hds.ne_nil
      | cons d ds => rfl

theorem SpellsExponent.readExponent_eq {cs rest : List Char} {e : Option (Bool × List Char)}
    (h : SpellsExponent cs e rest) (hrest : Ends rest) : readExponent cs = some (e, rest) := by
  have hspan {ds : List Char} (hds : AreDigits ds) : spanDigits (ds ++ rest) = (ds, rest) :=
    spanDigits_append hds.isDigit hrest.noDigit
  cases h with
  | absent =>
      cases cs with
      | nil => rfl
      | cons c cs =>
          have hlow : c ≠ 'e' := hrest.ne rfl (by decide)
          have hhigh : c ≠ 'E' := hrest.ne rfl (by decide)
          simp [readExponent, hlow, hhigh]
  | @bare letter ds he hds =>
      cases ds with
      | nil => exact absurd rfl hds.ne_nil
      | cons d ds =>
          have hd : d.isDigit = true := hds.isDigit d List.mem_cons_self
          have hminus : d ≠ '-' := fun h => absurd (h ▸ hd) (by decide)
          have hplus : d ≠ '+' := fun h => absurd (h ▸ hd) (by decide)
          have := hspan hds
          rw [List.cons_append] at this ⊢
          simp [readExponent, he, hminus, hplus, this]
  | @plus letter ds he hds | @minus letter ds he hds =>
      cases ds with
      | nil => exact absurd rfl hds.ne_nil
      | cons d ds =>
          have := hspan hds
          rw [List.cons_append] at this ⊢
          simp [readExponent, he, this]

/-- After the digits before it, a power of ten or the end of a number comes as no digit. -/
theorem SpellsExponent.starts {cs rest : List Char} {e : Option (Bool × List Char)}
    (h : SpellsExponent cs e rest) (hrest : Ends rest) :
    NoDigit cs ∧ ∀ r, cs ≠ '.' :: r := by
  have hletter {c : Char} {cs : List Char} (hc : c = 'e' ∨ c = 'E') :
      NoDigit (c :: cs) ∧ ∀ r, c :: cs ≠ '.' :: r := by
    constructor
    · rintro c' hc'
      obtain rfl : c = c' := Option.some.inj hc'
      rcases hc with rfl | rfl <;> rfl
    · rintro r he
      obtain ⟨rfl, -⟩ := List.cons.inj he
      simp at hc
  cases h with
  | absent =>
      refine ⟨hrest.noDigit, ?_⟩
      rintro r rfl
      exact hrest.ne rfl (by decide) rfl
  | bare he | plus he | minus he => exact hletter he

theorem SpellsFraction.noDigit {cs rest : List Char} {f : Option (List Char)}
    (h : SpellsFraction cs f rest) (hrest : NoDigit rest) : NoDigit cs := by
  cases h with
  | absent => exact hrest
  | present =>
      intro c hc
      obtain rfl : '.' = c := Option.some.inj hc
      rfl

theorem SpellsUnsigned.begins {cs rest : List Char} {l : Literal} (h : SpellsUnsigned cs l rest) :
    ∃ c r, cs = c :: r ∧ c.isDigit = true := by
  cases h with
  | mk hw =>
      cases hw with
      | zero => exact ⟨_, _, rfl, rfl⟩
      | digits hds => exact ⟨_, _, rfl, hds.isDigit _ List.mem_cons_self⟩

theorem SpellsLiteral.begins {cs rest : List Char} {l : Literal} (h : SpellsLiteral cs l rest) :
    ∃ c r, cs = c :: r ∧ (c = '-' ∨ c.isDigit = true) := by
  cases h with
  | positive h =>
      obtain ⟨c, r, he, hc⟩ := h.begins
      exact ⟨c, r, he, .inr hc⟩
  | negative => exact ⟨_, _, rfl, .inl rfl⟩

/-- A number is read as long as it goes. -/
theorem SpellsLiteral.readLiteral_eq {cs rest : List Char} {l : Literal}
    (h : SpellsLiteral cs l rest) (hrest : Ends rest) : readLiteral cs = some (l, rest) := by
  have htail {cs : List Char} {u : Literal} (hu : SpellsUnsigned cs u rest) (negative : Bool) :
      ((readWhole cs).bind fun w => (readFraction w.2).bind fun f =>
        (readExponent f.2).bind fun e => some (⟨negative, w.1, f.1, e.1⟩, e.2)) =
          some ({ u with negative }, rest) := by
    cases hu with
    | mk hw hf he =>
        obtain ⟨hdigit, hpoint⟩ := he.starts hrest
        simp [hw.readWhole_eq (hf.noDigit hdigit), hf.readFraction_eq hdigit hpoint,
          he.readExponent_eq hrest]
  cases h with
  | negative hu => exact htail hu true
  | positive hu =>
      obtain ⟨c, r, rfl, hc⟩ := hu.begins
      have hminus : ∀ r', c :: r ≠ '-' :: r' := by
        rintro r' he
        obtain ⟨rfl, -⟩ := List.cons.inj he
        exact absurd hc (by decide)
      have hread := htail hu false
      rw [readLiteral]
      · cases hu
        exact hread
      · exact hminus

/-! ### Quoted texts -/

/-- What is left of a quoted text when a high surrogate may be waiting: then a low one comes
first. -/
inductive Resumes : Option Nat → List Char → List Char → List Char → Prop where
  | fresh {cs s rest} (h : SpellsChars cs s rest) : Resumes none cs s rest
  | paired {high a b c d low cs s rest} (hlow : hexFour? a b c d = some low)
      (hl : 0xDC00 ≤ low ∧ low < 0xE000) (h : SpellsChars cs s rest) :
      Resumes (some high) ('\\' :: 'u' :: a :: b :: c :: d :: cs) (pairChar high low :: s) rest

theorem settle_eq_some {pending : Option Nat} {r : Option (List Char) × List Char}
    {s rest : List Char} :
    settle pending r = (some s, rest) ↔ pending = none ∧ r = (some s, rest) := by
  cases pending <;> simp [settle]

theorem pushChar_eq_some {c : Char} {r : Option (List Char) × List Char} {s rest : List Char} :
    pushChar c r = (some s, rest) ↔ ∃ s', r = (some s', rest) ∧ c :: s' = s := by
  obtain ⟨o, cs⟩ := r
  cases o with
  | none => simp [pushChar]
  | some s' =>
      simp only [pushChar, Option.map_some, Prod.mk.injEq, Option.some.injEq, and_assoc,
        exists_eq_left']
      exact and_comm

theorem Resumes.spells {cs s rest : List Char} (h : Resumes none cs s rest) :
    SpellsChars cs s rest := by
  cases h
  assumption

/-- The characters that are read are spelled there. -/
theorem resumes_of_readQuoted {pending : Option Nat} {cs s rest : List Char}
    (h : readQuoted pending cs = some (some s, rest)) : Resumes pending cs s rest := by
  fun_induction readQuoted pending cs generalizing s
  all_goals
    simp only [Option.map_eq_some_iff, settle_eq_some, pushChar_eq_some, Option.some.injEq,
      Prod.mk.injEq, reduceCtorEq, false_and, and_false, exists_false] at h
  case case2 =>
    obtain ⟨rfl, rfl, rfl⟩ := h
    exact .fresh (.close _)
  case case4 hn hhigh ih =>
    obtain ⟨_, hread, rfl, rfl⟩ := h
    cases ih hread with
    | paired hlow hl hs => exact .fresh (.pair hn hhigh hlow hl hs)
  case case5 hn _ hlow _ ih =>
    obtain ⟨_, hread, s', rfl, rfl⟩ := h
    exact .paired hn hlow (ih hread).spells
  case case7 hn hhigh hlow ih =>
    obtain ⟨_, hread, rfl, s', rfl, rfl⟩ := h
    exact .fresh (.code hn (by omega) (ih hread).spells)
  case case9 he ih =>
    obtain ⟨_, hread, rfl, s', rfl, rfl⟩ := h
    exact .fresh (.short he (ih hread).spells)
  case case11 hquote _ _ hc ih =>
    obtain ⟨_, hread, rfl, s', rfl, rfl⟩ := h
    obtain ⟨hslash, hcontrol⟩ := not_or.mp hc
    exact .fresh (.plain hquote hslash (Nat.le_of_not_lt hcontrol) (ih hread).spells)

/-- Characters are read as they are spelled. -/
theorem SpellsChars.readQuoted_eq {cs s rest : List Char} (h : SpellsChars cs s rest) :
    readQuoted none cs = some (some s, rest) := by
  induction h with
  | close => rfl
  | @plain c cs s rest hquote hslash hc _ ih =>
      have hcontrol : ¬ c.toNat < 0x20 := by omega
      rw [readQuoted]
      · simp [hslash, hcontrol, ih, settle, pushChar]
      · exact hquote
      · exact fun _ _ _ _ _ he => absurd he hslash
      · exact fun _ _ he => absurd he hslash
  | @short e c cs s rest he _ ih =>
      have hu : e ≠ 'u' := by
        rintro rfl
        simp [shortEscape] at he
      rw [readQuoted]
      · simp [he, ih, settle, pushChar]
      · exact fun _ _ _ _ _ he => absurd he hu
  | @code _ _ _ _ n _ _ _ hn hs _ ih =>
      have hhigh : ¬ (0xD800 ≤ n ∧ n < 0xDC00) := by omega
      have hlow : ¬ (0xDC00 ≤ n ∧ n < 0xE000) := by omega
      simp only [readQuoted, hn, hhigh, hlow, ih, if_false, Option.map_some]
      rfl
  | @pair _ _ _ _ high _ _ _ _ low _ _ _ hhigh hh hlow hl _ ih =>
      have hn : ¬ (0xD800 ≤ low ∧ low < 0xDC00) := by omega
      simp only [readQuoted, hhigh, hh, and_self, if_true, hlow, hn, if_false, hl, ih,
        Option.map_some]
      rfl

end ExerciseClient.Json
