import ExerciseClient.Json.Decode

/-! What is printed is read back. Whatever stands in the texts of a value, its quotes, commas and
brackets are found where they were written. Of a number it is asked that its own text is read back;
an integer of 64 bits is. -/

namespace ExerciseClient.Json

section

variable {ε α β : Type}

@[simp] theorem ok_bind (a : α) (f : α → Except ε β) : (Except.ok a >>= f) = f a := rfl

@[simp] theorem error_bind (e : ε) (f : α → Except ε β) :
    (Except.error e >>= f) = Except.error e := rfl

@[simp] theorem map_ok (f : α → β) (a : α) :
    (f <$> Except.ok a : Except ε β) = Except.ok (f a) := rfl

@[simp] theorem map_error (f : α → β) (e : ε) :
    (f <$> Except.error e : Except ε β) = Except.error e := rfl

end

/-- What may follow a value: the end of the text, a comma, or the end of what is around it. -/
inductive Follows : List Char → Prop where
  | nothing : Follows []
  | comma (rest) : Follows (',' :: rest)
  | bracket (rest) : Follows (']' :: rest)
  | brace (rest) : Follows ('\x7d' :: rest)

/-- The text of a number is read back, up to what follows it. -/
def Number.IsReread (n : Number) : Prop :=
  ∀ rest, Follows rest →
    ∃ l, readLiteral (n.text.toList ++ rest) = some (l, rest) ∧ l.value = some n

mutual

/-- The numbers in a value are read back. -/
def Value.IsReread : Value → Prop
  | .num n => n.IsReread
  | .arr items => Value.ItemsReread items
  | .obj members => Value.MembersReread members
  | _ => True

def Value.ItemsReread : List Value → Prop
  | [] => True
  | v :: vs => v.IsReread ∧ Value.ItemsReread vs

def Value.MembersReread : List (String × Value) → Prop
  | [] => True
  | (_, v) :: ms => v.IsReread ∧ Value.MembersReread ms

end

@[simp] theorem Value.membersReread_append (ms ns : List (String × Value)) :
    Value.MembersReread (ms ++ ns) ↔ Value.MembersReread ms ∧ Value.MembersReread ns := by
  induction ms with
  | nil => simp [MembersReread]
  | cons m ms ih => simp [MembersReread, ih, and_assoc]

/-! ### Quoted texts -/

theorem hexFour?_control {n : Nat} (h : n < 0x20) :
    hexFour? '0' '0' (Text.hexDigit (n / 16)) (Text.hexDigit (n % 16)) = some n := by
  have hhigh : Text.hexValue? (Text.hexDigit (n / 16)) = some (n / 16) :=
    Text.hexValue?_hexDigit (by omega)
  have hlow : Text.hexValue? (Text.hexDigit (n % 16)) = some (n % 16) :=
    Text.hexValue?_hexDigit (Nat.mod_lt _ (by omega))
  have hzero : Text.hexValue? '0' = some 0 := rfl
  simp only [hexFour?, Text.hexNumber?, List.foldl_cons, List.foldl_nil, hhigh, hlow, hzero,
    Option.bind_eq_bind, Option.bind_some, Option.pure_def]
  congr 1
  omega

/-- However a character is written, it is read as itself. -/
theorem readQuoted_escapeChar (c : Char) (rest : List Char) :
    readQuoted none (escapeChar c ++ rest) = (readQuoted none rest).map (pushChar c) := by
  have hsettle : ∀ r, settle none r = r := fun _ => rfl
  by_cases hshort : c ∈ ['"', '\\', '\x08', '\x0c', '\n', '\r', '\t']
  · simp only [List.mem_cons, List.not_mem_nil, or_false] at hshort
    rcases hshort with rfl | rfl | rfl | rfl | rfl | rfl | rfl <;> rfl
  · simp only [List.mem_cons, List.not_mem_nil, or_false, not_or] at hshort
    obtain ⟨hquote, hslash, hb, hf, hn, hr, ht⟩ := hshort
    by_cases hc : c.toNat < 0x20
    · have hlow : ¬ (0xD800 ≤ c.toNat ∧ c.toNat < 0xDC00) := by omega
      have hhigh : ¬ (0xDC00 ≤ c.toNat ∧ c.toNat < 0xE000) := by omega
      simp only [escapeChar, hquote, hslash, hb, hf, hn, hr, ht, hc, if_true, if_false,
        List.cons_append, List.nil_append, readQuoted, hexFour?_control hc, hlow, hhigh,
        hsettle, Char.ofNat_toNat]
    · simp only [escapeChar, hquote, hslash, hb, hf, hn, hr, ht, hc, if_false,
        List.cons_append, List.nil_append]
      rw [readQuoted]
      · simp [hslash, hc, hsettle]
      · exact hquote
      · exact fun _ _ _ _ _ he => absurd he hslash
      · exact fun _ _ he => absurd he hslash

/-- A quoted text is read up to its closing quote. -/
theorem readQuoted_quoteChars (cs rest : List Char) :
    readQuoted none (cs.flatMap escapeChar ++ '"' :: rest) = some (some cs, rest) := by
  induction cs with
  | nil => rfl
  | cons c cs ih =>
      rw [List.flatMap_cons, List.append_assoc, readQuoted_escapeChar, ih]
      rfl

/-! ### How a value begins -/

theorem readLiteral_begins {cs : List Char} {r : Literal × List Char}
    (h : readLiteral cs = some r) :
    ∃ c rest, cs = c :: rest ∧ (c = '-' ∨ c.isDigit = true) := by
  cases cs with
  | nil => simp [readLiteral, readWhole, spanDigits] at h
  | cons c rest =>
      refine ⟨c, rest, rfl, ?_⟩
      by_cases hminus : c = '-'
      · exact .inl hminus
      · by_cases hdigit : c.isDigit = true
        · exact .inr hdigit
        · simp [readLiteral, readWhole, spanDigits, hminus, hdigit] at h

/-- The text of a number begins as no other value and no token does. -/
theorem ne_of_begins {c d : Char} (hc : c = '-' ∨ c.isDigit = true) (hminus : d ≠ '-')
    (hdigit : d.isDigit = false) : c ≠ d := by
  rintro rfl
  rcases hc with hc | hc
  · exact hminus hc
  · simp [hc] at hdigit

theorem not_gap_of_begins {c : Char} (hc : c = '-' ∨ c.isDigit = true) : isGap c = false := by
  have hne {d : Char} (hminus : d ≠ '-') (hdigit : d.isDigit = false) : c ≠ d :=
    ne_of_begins hc hminus hdigit
  simp only [isGap, Bool.or_eq_false_iff, beq_eq_false_iff_ne]
  exact ⟨⟨⟨hne (by decide) rfl, hne (by decide) rfl⟩, hne (by decide) rfl⟩, hne (by decide) rfl⟩

theorem Number.IsReread.begins {n : Number} (hn : n.IsReread) :
    ∃ c rest, n.text.toList = c :: rest ∧ (c = '-' ∨ c.isDigit = true) := by
  obtain ⟨l, hl, -⟩ := hn [] .nothing
  rw [List.append_nil] at hl
  exact readLiteral_begins hl

/-- A value begins with neither a gap nor a closing bracket. -/
theorem Value.chars_begin {v : Value} (hv : v.IsReread) :
    ∃ c rest, v.chars = c :: rest ∧ isGap c = false ∧ c ≠ ']' := by
  cases v with
  | null | str | arr | obj => exact ⟨_, _, rfl, rfl, by decide⟩
  | bool b => cases b <;> exact ⟨_, _, rfl, rfl, by decide⟩
  | num n =>
      obtain ⟨c, rest, hcs, hc⟩ := Number.IsReread.begins hv
      exact ⟨c, rest, hcs, not_gap_of_begins hc, ne_of_begins hc (by decide) rfl⟩

theorem skipGap_of_not_gap {c : Char} (hc : isGap c = false) (cs : List Char) :
    skipGap (c :: cs) = c :: cs := by
  simp [skipGap, hc]

/-! ### Values -/

/-- After the first piece, each has a comma before it. -/
theorem joinComma_cons (x : List Char) (xs : List (List Char)) :
    joinComma (x :: xs) = x ++ xs.flatMap (',' :: ·) := by
  induction xs generalizing x with
  | nil => simp [joinComma]
  | cons y ys ih => simp [joinComma, ih y]

/-- What follows a value inside an array or object. -/
theorem follows_pieces {rest : List Char} (h : Follows rest) (pieces : List (List Char)) :
    Follows (pieces.flatMap (',' :: ·) ++ rest) := by
  cases pieces with
  | nil => exact h
  | cons => exact .comma _

theorem readTree_number {n : Number} (hn : n.IsReread) {rest : List Char} (h : Follows rest)
    (fuel : Nat) :
    readTree (fuel + 1) (n.text.toList ++ rest) = (.num (some n), rest) := by
  obtain ⟨l, hl, hvalue⟩ := hn rest h
  obtain ⟨c, cs, hcs, hc⟩ := hn.begins
  have hne {d : Char} (hminus : d ≠ '-') (hdigit : d.isDigit = false) : c ≠ d :=
    ne_of_begins hc hminus hdigit
  rw [hcs, List.cons_append] at hl ⊢
  simp only [readTree, skipGap_of_not_gap (not_gap_of_begins hc), hl, hvalue,
    hne (show 'n' ≠ '-' by decide) rfl, hne (show 't' ≠ '-' by decide) rfl,
    hne (show 'f' ≠ '-' by decide) rfl, hne (show '"' ≠ '-' by decide) rfl,
    hne (show '[' ≠ '-' by decide) rfl, hne (show '\x7b' ≠ '-' by decide) rfl, if_false]

theorem readItems_first {v : Value} (hv : v.IsReread) (fuel : Nat) {more rest after : List Char}
    {items : Items} (hitem : readTree fuel (v.chars ++ more) = (v.tree, rest))
    (hitems : readItems fuel false rest = (items, after)) :
    readItems (fuel + 1) true (v.chars ++ more) = (.cons v.tree items, after) := by
  obtain ⟨c, cs, hcs, hgap, hbracket⟩ := Value.chars_begin hv
  rw [hcs, List.cons_append] at hitem ⊢
  simp [readItems, skipGap_of_not_gap hgap, hbracket, hitem, hitems]

theorem readItems_comma {v : Value} (hv : v.IsReread) (fuel : Nat) {more rest after : List Char}
    {items : Items} (hitem : readTree fuel (v.chars ++ more) = (v.tree, rest))
    (hitems : readItems fuel false rest = (items, after)) :
    readItems (fuel + 1) false (',' :: (v.chars ++ more)) = (.cons v.tree items, after) := by
  obtain ⟨c, cs, hcs, hgap, hbracket⟩ := Value.chars_begin hv
  have hcomma : isGap ',' = false := rfl
  rw [hcs, List.cons_append] at hitem ⊢
  simp [readItems, skipGap_of_not_gap hcomma, skipGap_of_not_gap hgap, hbracket, hitem, hitems]

theorem readMembers_first (k : String) (v : Value) (fuel : Nat) {more rest after : List Char}
    {members : Members} (hvalue : readTree fuel (v.chars ++ more) = (v.tree, rest))
    (hmembers : readMembers fuel false rest = (members, after)) :
    readMembers (fuel + 1) true (quoteChars k.toList ++ ':' :: (v.chars ++ more)) =
      (.cons (some k) v.tree members, after) := by
  have hcolon : isGap ':' = false := rfl
  simp [readMembers, quoteChars, skipGap_of_not_gap, isGap, readQuoted_quoteChars, hvalue,
    hmembers]

theorem readMembers_comma (k : String) (v : Value) (fuel : Nat) {more rest after : List Char}
    {members : Members} (hvalue : readTree fuel (v.chars ++ more) = (v.tree, rest))
    (hmembers : readMembers fuel false rest = (members, after)) :
    readMembers (fuel + 1) false (',' :: quoteChars k.toList ++ ':' :: (v.chars ++ more)) =
      (.cons (some k) v.tree members, after) := by
  simp [readMembers, quoteChars, skipGap_of_not_gap, isGap, readQuoted_quoteChars, hvalue,
    hmembers]

mutual

/-- A printed value is read back with what follows it untouched. -/
theorem readTree_chars : ∀ (v : Value) (fuel : Nat) {rest : List Char}, v.IsReread →
    v.chars.length ≤ fuel → Follows rest → readTree fuel (v.chars ++ rest) = (v.tree, rest)
  | v, 0, _, hv, hfuel, _ => by
      obtain ⟨c, cs, hcs, -⟩ := Value.chars_begin hv
      simp [hcs] at hfuel
  | .null, fuel + 1, rest, _, _, _ => rfl
  | .bool true, fuel + 1, rest, _, _, _ => rfl
  | .bool false, fuel + 1, rest, _, _, _ => rfl
  | .num n, fuel + 1, rest, hv, _, h => readTree_number hv h fuel
  | .str s, fuel + 1, rest, _, _, _ => by
      have hs : readQuoted none (s.toList.flatMap escapeChar ++ ('"' :: rest)) =
          some (some s.toList, rest) := readQuoted_quoteChars _ _
      simp [Value.chars, quoteChars, readTree, skipGap, isGap, hs, Value.tree]
  | .arr [], fuel + 1, rest, _, hfuel, _ => by
      obtain ⟨f, rfl⟩ : ∃ f, fuel = f + 1 := ⟨fuel - 1, by simp [Value.chars] at hfuel; omega⟩
      rfl
  | .arr (v :: vs), fuel + 1, rest, hv, hfuel, _ => by
      obtain ⟨c, cs, hcs, -⟩ := Value.chars_begin hv.1
      have hlength : 0 < v.chars.length := by simp [hcs]
      simp only [Value.chars, Value.itemChars, joinComma_cons, List.length_append,
        List.length_cons, List.length_nil] at hfuel
      obtain ⟨f, rfl⟩ : ∃ f, fuel = f + 1 := ⟨fuel - 1, by omega⟩
      have hitem := readTree_chars v f hv.1 (by omega)
        (follows_pieces (.bracket rest) (Value.itemChars vs))
      have hitems := readItems_chars vs f rest hv.2 (by omega)
      have hread := readItems_first hv.1 f hitem hitems
      simp [Value.chars, Value.itemChars, joinComma_cons, readTree, skipGap, isGap, hread,
        Value.tree, Value.treeItems]
  | .obj [], fuel + 1, rest, _, hfuel, _ => by
      obtain ⟨f, rfl⟩ : ∃ f, fuel = f + 1 := ⟨fuel - 1, by simp [Value.chars] at hfuel; omega⟩
      rfl
  | .obj ((k, v) :: ms), fuel + 1, rest, hv, hfuel, _ => by
      simp only [Value.chars, Value.memberChars, joinComma_cons, List.length_append,
        List.length_cons, List.length_nil] at hfuel
      obtain ⟨f, rfl⟩ : ∃ f, fuel = f + 1 := ⟨fuel - 1, by omega⟩
      have hvalue := readTree_chars v f hv.1 (by omega)
        (follows_pieces (.brace rest) (Value.memberChars ms))
      have hmembers := readMembers_chars ms f rest hv.2 (by omega)
      have hread := readMembers_first k v f hvalue hmembers
      simp [Value.chars, Value.memberChars, joinComma_cons, readTree, skipGap, isGap, hread,
        Value.tree, Value.treeMembers]

theorem readItems_chars : ∀ (vs : List Value) (fuel : Nat) (rest : List Char),
    Value.ItemsReread vs → ((Value.itemChars vs).flatMap (',' :: ·)).length < fuel →
    readItems fuel false ((Value.itemChars vs).flatMap (',' :: ·) ++ ']' :: rest) =
      (Value.treeItems vs, rest)
  | _, 0, _, _, hfuel => absurd hfuel (Nat.not_lt_zero _)
  | [], fuel + 1, rest, _, _ => rfl
  | v :: vs, fuel + 1, rest, hv, hfuel => by
      simp only [Value.itemChars, List.flatMap_cons, List.length_append,
        List.length_cons] at hfuel
      have hitem := readTree_chars v fuel hv.1 (by omega)
        (follows_pieces (.bracket rest) (Value.itemChars vs))
      have hitems := readItems_chars vs fuel rest hv.2 (by omega)
      simpa [Value.itemChars, Value.treeItems] using readItems_comma hv.1 fuel hitem hitems

theorem readMembers_chars : ∀ (ms : List (String × Value)) (fuel : Nat) (rest : List Char),
    Value.MembersReread ms → ((Value.memberChars ms).flatMap (',' :: ·)).length < fuel →
    readMembers fuel false ((Value.memberChars ms).flatMap (',' :: ·) ++ '\x7d' :: rest) =
      (Value.treeMembers ms, rest)
  | _, 0, _, _, hfuel => absurd hfuel (Nat.not_lt_zero _)
  | [], fuel + 1, rest, _, _ => rfl
  | (k, v) :: ms, fuel + 1, rest, hv, hfuel => by
      simp only [Value.memberChars, List.flatMap_cons, List.length_append,
        List.length_cons] at hfuel
      have hvalue := readTree_chars v fuel hv.1 (by omega)
        (follows_pieces (.brace rest) (Value.memberChars ms))
      have hmembers := readMembers_chars ms fuel rest hv.2 (by omega)
      simpa [Value.memberChars, Value.treeMembers] using
        readMembers_comma k v fuel hvalue hmembers

end

/-- A whole printed text is read, and nothing is left of it. -/
theorem Document.read_text {v : Value} (hv : v.IsReread) :
    Document.read v.text = ⟨v.tree, true⟩ := by
  have htree : readTree (2 * v.chars.length + 2) (v.chars ++ []) = (v.tree, []) :=
    readTree_chars v _ hv (by omega) .nothing
  rw [List.append_nil] at htree
  simp [Document.read, Value.text, htree, skipGap]

/-- To read a text is to read its tree to its end. -/
theorem decodeText_eq_ok {α : Type} {d : Decoder α} {text : String} {a : α} :
    decodeText d text = .ok a ↔
      d ⟨.text, maxDepth⟩ (Document.read text).root = .ok a ∧
        (Document.read text).complete = true := by
  simp only [decodeText]
  cases d ⟨.text, maxDepth⟩ (Document.read text).root <;>
    cases (Document.read text).complete <;> simp

/-- To read a printed text is to read its value. -/
theorem decodeText_text {α : Type} (d : Decoder α) {v : Value} (hv : v.IsReread) :
    decodeText d v.text = d ⟨.text, maxDepth⟩ v.tree := by
  simp only [decodeText, Document.read_text hv]
  cases d ⟨.text, maxDepth⟩ v.tree <;> rfl

/-! ### Integers -/

theorem digitValue_digitChar {d : Nat} (h : d < 10) : digitValue d.digitChar = d := by
  have : ∀ d : Fin 10, digitValue d.val.digitChar = d.val := by decide
  exact this ⟨d, h⟩

theorem appendDigits_append {n m : Nat} {ds : List Char} (h : appendDigits n ds = (m, []))
    (es : List Char) : appendDigits n (ds ++ es) = appendDigits m es := by
  induction ds generalizing n with
  | nil =>
      obtain ⟨rfl, -⟩ := Prod.mk.inj h
      rfl
  | cons d ds ih =>
      rw [appendDigits] at h
      split at h
      · simp only [List.cons_append, appendDigits, ‹_ ≤ _›, if_true, ih h]
      · simp at h

theorem toDigits_begins (n : Nat) :
    ∃ d ds, Nat.toDigits 10 n = d :: ds ∧ d.isDigit = true := by
  cases hds : Nat.toDigits 10 n with
  | nil => exact absurd hds Nat.toDigits_ne_nil
  | cons d ds =>
      refine ⟨d, ds, rfl, ?_⟩
      apply Nat.isDigit_of_mem_toDigits (b := 10) (n := n) (by omega) (by omega)
      simp [hds]

/-- The digits of a number that fits are all taken in. -/
theorem appendDigits_toDigits {n : Nat} (hn : n ≤ maxNatural) :
    appendDigits 0 (Nat.toDigits 10 n) = (n, []) := by
  induction n using Nat.strongRecOn with
  | ind n ih =>
      rw [Nat.toDigits_eq_if (by omega)]
      split
      case isTrue h => simp [appendDigits, digitValue_digitChar h, hn]
      case isFalse h =>
        have hlast : digitValue (n % 10).digitChar = n % 10 :=
          digitValue_digitChar (Nat.mod_lt _ (by omega))
        have hsum : n / 10 * 10 + n % 10 = n := by omega
        rw [appendDigits_append (ih (n / 10) (by omega) (by omega))]
        simp [appendDigits, hlast, hsum, hn]

/-- Only zero is written with a zero in front. -/
theorem head?_toDigits {n : Nat} (hn : 0 < n) : (Nat.toDigits 10 n).head? ≠ some '0' := by
  induction n using Nat.strongRecOn with
  | ind n ih =>
      rw [Nat.toDigits_eq_if (by omega)]
      split
      case isTrue h =>
        have : ∀ d : Fin 10, 0 < d.val → d.val.digitChar ≠ '0' := by decide
        simpa using this ⟨n, h⟩ hn
      case isFalse h =>
        have hhead := ih (n / 10) (by omega) (by omega)
        obtain ⟨d, ds, hds, -⟩ := toDigits_begins (n / 10)
        simpa [hds] using hhead

theorem spanDigits_toDigits (n : Nat) {rest : List Char} (h : Follows rest) :
    spanDigits (Nat.toDigits 10 n ++ rest) = (Nat.toDigits 10 n, rest) := by
  have hdigits : ∀ c ∈ Nat.toDigits 10 n, c.isDigit = true := fun c hc =>
    Nat.isDigit_of_mem_toDigits (by omega) (by omega) hc
  rw [spanDigits, List.takeWhile_append_of_pos hdigits, List.dropWhile_append_of_pos hdigits]
  cases h <;> simp [Char.isDigit]

theorem readWhole_toDigits (n : Nat) {rest : List Char} (h : Follows rest) :
    readWhole (Nat.toDigits 10 n ++ rest) = some (Nat.toDigits 10 n, rest) := by
  rw [readWhole, spanDigits_toDigits n h]
  rcases Nat.eq_zero_or_pos n with rfl | hn
  · rfl
  · have hhead := head?_toDigits hn
    split
    · rename_i heq
      exact absurd (Prod.mk.inj heq).1 Nat.toDigits_ne_nil
    · rename_i heq
      simp [(Prod.mk.inj heq).1] at hhead
    · rename_i heq
      exact congrArg some heq.symm

/-- After the whole digits of an integer, its literal is complete. -/
theorem readTail_follows {rest : List Char} (h : Follows rest) :
    readFraction rest = some (none, rest) ∧ readExponent rest = some (none, rest) := by
  cases h <;> exact ⟨rfl, by simp [readExponent]⟩

theorem readLiteral_natural (n : Nat) {rest : List Char} (h : Follows rest) :
    readLiteral (Nat.toDigits 10 n ++ rest) =
      some (⟨false, Nat.toDigits 10 n, none, none⟩, rest) := by
  have hminus : ∀ r, Nat.toDigits 10 n ++ rest ≠ '-' :: r := by
    intro r he
    obtain ⟨d, ds, hds, hd⟩ := toDigits_begins n
    rw [hds, List.cons_append] at he
    rw [(List.cons.inj he).1] at hd
    exact absurd hd (by decide)
  obtain ⟨hfraction, hexponent⟩ := readTail_follows h
  rw [readLiteral]
  · simp [readWhole_toDigits n h, hfraction, hexponent]
  · exact hminus

theorem readLiteral_negative (n : Nat) {rest : List Char} (h : Follows rest) :
    readLiteral ('-' :: (Nat.toDigits 10 n ++ rest)) =
      some (⟨true, Nat.toDigits 10 n, none, none⟩, rest) := by
  obtain ⟨hfraction, hexponent⟩ := readTail_follows h
  simp [readLiteral, readWhole_toDigits n h, hfraction, hexponent]

/-- An integer of 64 bits, signed or not, is read back. -/
theorem Number.isReread_int {i : Int} (hlow : -2 ^ 63 ≤ i) (hhigh : i < 2 ^ 64) :
    (Number.int i).IsReread := by
  intro rest h
  cases i with
  | ofNat n =>
      have hn : n ≤ maxNatural := by simp [maxNatural] at hhigh ⊢; omega
      refine ⟨⟨false, Nat.toDigits 10 n, none, none⟩, ?_, ?_⟩
      · have htext : (Number.int (Int.ofNat n)).text.toList = Nat.toDigits 10 n :=
          Nat.toList_repr
        rw [htext, readLiteral_natural n h]
      · simp [Literal.value, appendDigits_toDigits hn]
  | negSucc n =>
      have hn : n + 1 ≤ 2 ^ 63 := by omega
      have hfits : n + 1 ≤ maxNatural := by simp [maxNatural]; omega
      refine ⟨⟨true, Nat.toDigits 10 (n + 1), none, none⟩, ?_, ?_⟩
      · have htext : (Number.int (Int.negSucc n)).text.toList =
            '-' :: Nat.toDigits 10 (n + 1) := by
          simp [Number.text, toString, Int.repr]
        rw [htext, List.cons_append, readLiteral_negative (n + 1) h]
      · have hnot : ¬ (n + 1 = 0 ∨ 2 ^ 63 < n + 1) := by omega
        have hint : -((n + 1 : Nat) : Int) = Int.negSucc n := by omega
        simp only [Literal.value, appendDigits_toDigits hfits, List.isEmpty_nil, Bool.not_true,
          Bool.false_eq_true, hnot, hint, if_true, if_false]

end ExerciseClient.Json
