import ExerciseClient.Proofs.Json.Grammar

/-! What is read is what was spelled. Main statement: the reader takes exactly the texts that spell
a value of not too many levels, and gives this value with its members ascending, of repeated keys
the last. -/

namespace ExerciseClient.Json

/-! ### Trees without faults -/

theorem tree_ne_broken (v : Value) : v.tree ≠ .broken := by
  cases v <;> simp [Value.tree]

theorem treeItems_ne_broken (vs : List Value) : Value.treeItems vs ≠ .broken := by
  cases vs <;> simp [Value.treeItems]

theorem treeMembers_ne_broken (ms : List (String × Value)) : Value.treeMembers ms ≠ .broken := by
  cases ms <;> simp [Value.treeMembers]

mutual

/-- Only a tree without faults is read as a value. -/
theorem exists_tree_of_toValue : ∀ {t : Tree} {room : Nat} {v : Value},
    t.toValue room = .ok v → ∃ raw : Value, raw.tree = t
  | .null, _, _, _ => ⟨.null, rfl⟩
  | .bool b, _, _, _ => ⟨.bool b, rfl⟩
  | .num (some n), _, _, _ => ⟨.num n, rfl⟩
  | .str (some s), _, _, _ => ⟨.str s, rfl⟩
  | .arr items, room + 1, _, h => by
      cases hitems : items.toValues room with
      | error e => simp [Tree.toValue, hitems] at h
      | ok vs =>
          obtain ⟨raws, rfl⟩ := exists_treeItems_of_toValues hitems
          exact ⟨.arr raws, rfl⟩
  | .obj members, room + 1, _, h => by
      cases hmembers : members.toEntries room [] with
      | error e => simp [Tree.toValue, hmembers] at h
      | ok es =>
          obtain ⟨raws, rfl⟩ := exists_treeMembers_of_toEntries hmembers
          exact ⟨.obj raws, rfl⟩
  | .arr _, 0, _, h | .obj _, 0, _, h | .num none, _, _, h | .str none, _, _, h
  | .foreign _, _, _, h | .broken, _, _, h => by simp [Tree.toValue] at h

theorem exists_treeItems_of_toValues : ∀ {items : Items} {room : Nat} {vs : List Value},
    items.toValues room = .ok vs → ∃ raws, Value.treeItems raws = items
  | .done, _, _, _ => ⟨[], rfl⟩
  | .broken, _, _, h => by simp [Items.toValues] at h
  | .cons item rest, room, _, h => by
      cases hitem : item.toValue room with
      | error e => simp [Items.toValues, hitem] at h
      | ok v =>
          cases hrest : rest.toValues room with
          | error e => simp [Items.toValues, hitem, hrest] at h
          | ok vs =>
              obtain ⟨raw, rfl⟩ := exists_tree_of_toValue hitem
              obtain ⟨raws, rfl⟩ := exists_treeItems_of_toValues hrest
              exact ⟨raw :: raws, rfl⟩

theorem exists_treeMembers_of_toEntries : ∀ {members : Members} {room : Nat}
    {acc es : List (String × Value)},
    members.toEntries room acc = .ok es → ∃ raws, Value.treeMembers raws = members
  | .done, _, _, _, _ => ⟨[], rfl⟩
  | .broken, _, _, _, h | .cons none _ _, _, _, _, h => by simp [Members.toEntries] at h
  | .cons (some key) value rest, room, _, _, h => by
      cases hvalue : value.toValue room with
      | error e => simp [Members.toEntries, hvalue] at h
      | ok v =>
          obtain ⟨raw, rfl⟩ := exists_tree_of_toValue hvalue
          obtain ⟨raws, rfl⟩ := exists_treeMembers_of_toEntries
            (by simpa [Members.toEntries, hvalue] using h)
          exact ⟨(key, raw) :: raws, rfl⟩

end

/-- What is read without a schema is a value that is not too deep, in order. -/
theorem toValue_eq_ok {t : Tree} {room : Nat} {v : Value} :
    t.toValue room = .ok v ↔ ∃ raw : Value, t = raw.tree ∧ raw.depth ≤ room ∧ v = raw.sorted := by
  constructor
  · intro h
    obtain ⟨raw, rfl⟩ := exists_tree_of_toValue h
    rw [toValue_tree] at h
    by_cases hdepth : raw.depth ≤ room
    · rw [if_pos hdepth] at h
      exact ⟨raw, rfl, hdepth, (Except.ok.inj h).symm⟩
    · simp [if_neg hdepth] at h
  · rintro ⟨raw, rfl, hdepth, rfl⟩
    rw [toValue_tree, if_pos hdepth]

/-! ### What is read is spelled -/

theorem dropWord?_eq_some : ∀ {word cs rest : List Char},
    dropWord? word cs = some rest → cs = word ++ rest
  | [], _, _, h => Option.some.inj h
  | _ :: _, [], _, h => by simp [dropWord?] at h
  | w :: ws, c :: cs, rest, h => by
      by_cases hw : w = c
      · subst c
        have hdrop : dropWord? ws cs = some rest := by simpa [dropWord?] using h
        rw [dropWord?_eq_some hdrop, List.cons_append]
      · simp [dropWord?, hw] at h

theorem readWord_eq {t : Tree} {word cs rest : List Char} {v : Value}
    (h : readWord t word cs = (v.tree, rest)) : cs = word ++ rest ∧ v.tree = t := by
  rw [readWord] at h
  split at h
  · exact absurd (Prod.mk.inj h).1.symm (tree_ne_broken v)
  · rename_i hword
    obtain ⟨rfl, rfl⟩ := Prod.mk.inj h
    exact ⟨dropWord?_eq_some hword, rfl⟩

theorem tree_eq_null {v : Value} (h : v.tree = .null) : v = .null := by
  cases v <;> simp_all [Value.tree]

theorem tree_eq_bool {v : Value} {b : Bool} (h : v.tree = .bool b) : v = .bool b := by
  cases v <;> simp_all [Value.tree]

theorem tree_eq_num {v : Value} {n : Option Number} (h : v.tree = .num n) :
    ∃ m, n = some m ∧ v = .num m := by
  cases v <;> simp_all [Value.tree]

theorem tree_eq_str {v : Value} {s : Option String} (h : v.tree = .str s) :
    ∃ t, s = some t ∧ v = .str t := by
  cases v <;> simp_all [Value.tree]

theorem tree_eq_arr {v : Value} {items : Items} (h : v.tree = .arr items) :
    ∃ vs, items = Value.treeItems vs ∧ v = .arr vs := by
  cases v <;> simp_all [Value.tree]

theorem tree_eq_obj {v : Value} {members : Members} (h : v.tree = .obj members) :
    ∃ ms, members = Value.treeMembers ms ∧ v = .obj ms := by
  cases v <;> simp_all [Value.tree]

theorem treeItems_eq_done {vs : List Value} (h : Value.treeItems vs = .done) : vs = [] := by
  cases vs <;> simp_all [Value.treeItems]

theorem treeItems_eq_cons {vs : List Value} {item : Tree} {items : Items}
    (h : Value.treeItems vs = .cons item items) :
    ∃ v vs', item = v.tree ∧ items = Value.treeItems vs' ∧ vs = v :: vs' := by
  cases vs <;> simp_all [Value.treeItems]

theorem treeMembers_eq_done {ms : List (String × Value)} (h : Value.treeMembers ms = .done) :
    ms = [] := by
  cases ms <;> simp_all [Value.treeMembers]

theorem treeMembers_eq_cons {ms : List (String × Value)} {key : Option String} {value : Tree}
    {members : Members} (h : Value.treeMembers ms = .cons key value members) :
    ∃ k v ms', key = some k ∧ value = v.tree ∧ members = Value.treeMembers ms' ∧
      ms = (k, v) :: ms' := by
  cases ms with
  | nil => simp [Value.treeMembers] at h
  | cons m ms =>
      obtain ⟨k, v⟩ := m
      obtain ⟨rfl, rfl, rfl⟩ := Members.cons.inj h
      exact ⟨k, v, ms, rfl, rfl, rfl, rfl⟩

mutual

/-- A value that is read is spelled there. -/
theorem spells_of_readTree : ∀ {fuel : Nat} {cs rest : List Char} {v : Value},
    readTree fuel cs = (v.tree, rest) → Spells cs v rest
  | 0, _, _, v, h => absurd (Prod.mk.inj h).1.symm (tree_ne_broken v)
  | fuel + 1, cs, rest, v, h => by
      rw [readTree] at h
      apply (gap_skipGap cs).spells
      split at h
      case h_1 => exact absurd (Prod.mk.inj h).1.symm (tree_ne_broken v)
      case h_2 c cs' hcs =>
        rw [hcs]
        split at h
        case isTrue hc =>
          obtain ⟨rfl, ht⟩ := readWord_eq h
          rw [hc, tree_eq_null ht]
          exact .null rest
        split at h
        case isTrue hc =>
          obtain ⟨rfl, ht⟩ := readWord_eq h
          rw [hc, tree_eq_bool ht]
          exact .yes rest
        split at h
        case isTrue hc =>
          obtain ⟨rfl, ht⟩ := readWord_eq h
          rw [hc, tree_eq_bool ht]
          exact .no rest
        split at h
        case isTrue hc =>
          split at h
          case h_1 => exact absurd (Prod.mk.inj h).1.symm (tree_ne_broken v)
          case h_2 s _ hquoted =>
            obtain ⟨ht, rfl⟩ := Prod.mk.inj h
            obtain ⟨t, hs, rfl⟩ := tree_eq_str ht.symm
            obtain ⟨chars, rfl, rfl⟩ := Option.map_eq_some_iff.mp hs
            rw [hc]
            exact .str (resumes_of_readQuoted hquoted).spells
        split at h
        case isTrue hc =>
          obtain ⟨ht, rfl⟩ := Prod.mk.inj h
          obtain ⟨vs, hvs, rfl⟩ := tree_eq_arr ht.symm
          rw [hc]
          exact .arr (spellsItems_of_readItems (Prod.ext hvs rfl))
        split at h
        case isTrue hc =>
          obtain ⟨ht, rfl⟩ := Prod.mk.inj h
          obtain ⟨ms, hms, rfl⟩ := tree_eq_obj ht.symm
          rw [hc]
          exact .obj (spellsMembers_of_readMembers (Prod.ext hms rfl))
        split at h
        case h_1 => exact absurd (Prod.mk.inj h).1.symm (tree_ne_broken v)
        case h_2 l _ hl =>
          obtain ⟨ht, rfl⟩ := Prod.mk.inj h
          obtain ⟨n, hn, rfl⟩ := tree_eq_num ht.symm
          exact .num (spellsLiteral_of_readLiteral hl) hn

theorem spellsItems_of_readItems : ∀ {fuel : Nat} {first : Bool} {cs rest : List Char}
    {vs : List Value}, readItems fuel first cs = (Value.treeItems vs, rest) →
    SpellsItems first cs vs rest
  | 0, _, _, _, vs, h => absurd (Prod.mk.inj h).1.symm (treeItems_ne_broken vs)
  | fuel + 1, first, cs, rest, vs, h => by
      rw [readItems] at h
      split at h
      case h_1 => exact absurd (Prod.mk.inj h).1.symm (treeItems_ne_broken vs)
      case h_2 c cs' hcs =>
        have hgap : Gap cs (c :: cs') := hcs ▸ gap_skipGap cs
        split at h
        case isTrue hc =>
          obtain ⟨ht, rfl⟩ := Prod.mk.inj h
          rw [treeItems_eq_done ht.symm]
          exact .done (hc ▸ hgap)
        split at h
        case isTrue hfirst =>
          obtain ⟨ht, rfl⟩ := Prod.mk.inj h
          obtain ⟨v, vs, hv, hvs, rfl⟩ := treeItems_eq_cons ht.symm
          rw [hfirst]
          exact .first (hgap.spells (spells_of_readTree (Prod.ext hv rfl)))
            (spellsItems_of_readItems (Prod.ext hvs rfl))
        case isFalse hfirst =>
        rw [eq_false_of_ne_true hfirst]
        split at h
        case isFalse => exact absurd (Prod.mk.inj h).1.symm (treeItems_ne_broken vs)
        case isTrue hc =>
          split at h
          case h_1 | h_2 => exact absurd (Prod.mk.inj h).1.symm (treeItems_ne_broken vs)
          case h_3 =>
            obtain ⟨ht, rfl⟩ := Prod.mk.inj h
            obtain ⟨v, vs, hv, hvs, rfl⟩ := treeItems_eq_cons ht.symm
            refine .comma (hc ▸ hgap) (.first ?_ (spellsItems_of_readItems (Prod.ext hvs rfl)))
            exact (gap_skipGap cs').spells (spells_of_readTree (Prod.ext hv rfl))

theorem spellsMembers_of_readMembers : ∀ {fuel : Nat} {first : Bool} {cs rest : List Char}
    {ms : List (String × Value)}, readMembers fuel first cs = (Value.treeMembers ms, rest) →
    SpellsMembers first cs ms rest
  | 0, _, _, _, ms, h => absurd (Prod.mk.inj h).1.symm (treeMembers_ne_broken ms)
  | fuel + 1, first, cs, rest, ms, h => by
      rw [readMembers] at h
      split at h
      case h_1 => exact absurd (Prod.mk.inj h).1.symm (treeMembers_ne_broken ms)
      case h_2 c cs' hcs =>
        have hgap : Gap cs (c :: cs') := hcs ▸ gap_skipGap cs
        split at h
        case isTrue hc =>
          obtain ⟨ht, rfl⟩ := Prod.mk.inj h
          rw [treeMembers_eq_done ht.symm]
          exact .done (hc ▸ hgap)
        simp only at h
        split at h
        case h_2 => exact absurd (Prod.mk.inj h).1.symm (treeMembers_ne_broken ms)
        case h_1 quoted hstart =>
          split at h
          case h_2 => exact absurd (Prod.mk.inj h).1.symm (treeMembers_ne_broken ms)
          case h_1 key named hquoted =>
            split at h
            case h_2 =>
              obtain ⟨k, v, ms, -, -, hms, rfl⟩ := treeMembers_eq_cons (Prod.mk.inj h).1.symm
              exact absurd hms.symm (treeMembers_ne_broken ms)
            case h_1 value hcolon =>
              obtain ⟨ht, rfl⟩ := Prod.mk.inj h
              obtain ⟨k, v, ms, hk, hv, hms, rfl⟩ := treeMembers_eq_cons ht.symm
              obtain ⟨chars, rfl, rfl⟩ := Option.map_eq_some_iff.mp hk
              have hmember {cs : List Char} (hq : Gap cs ('"' :: quoted)) :
                  SpellsMembers true cs ((String.ofList chars, v) :: ms) _ :=
                .first hq (resumes_of_readQuoted hquoted).spells (hcolon ▸ gap_skipGap named)
                  (spells_of_readTree (Prod.ext hv rfl))
                  (spellsMembers_of_readMembers (Prod.ext hms rfl))
              split at hstart
              case isTrue hfirst =>
                rw [hfirst]
                exact hmember (hstart ▸ hgap)
              case isFalse hfirst =>
                rw [eq_false_of_ne_true hfirst]
                split at hstart
                case isTrue hc => exact .comma (hc ▸ hgap) (hmember (hstart ▸ gap_skipGap cs'))
                case isFalse => simp at hstart

end

/-! ### What is spelled is read -/

theorem SpellsChars.length_lt {cs s rest : List Char} (h : SpellsChars cs s rest) :
    rest.length < cs.length := by
  induction h with
  | close => simp
  | _ => simp only [List.length_cons]; omega

theorem SpellsUnsigned.length_lt {cs rest : List Char} {l : Literal}
    (h : SpellsUnsigned cs l rest) : rest.length < cs.length := by
  obtain ⟨hw, hf, he⟩ := h
  cases hw <;> cases hf <;> cases he <;>
    simp only [List.length_cons, List.length_append] <;> omega

mutual

/-- Every value takes up some of the text. -/
theorem Spells.length_lt : ∀ {cs rest : List Char} {v : Value}, Spells cs v rest →
    rest.length < cs.length
  | _, _, _, .gap _ h => Nat.lt_succ_of_lt h.length_lt
  | _, _, _, .null _ | _, _, _, .yes _ | _, _, _, .no _ => by
      simp only [List.length_cons]
      omega
  | _, _, _, .num (.positive h) _ => h.length_lt
  | _, _, _, .num (.negative h) _ => Nat.lt_succ_of_lt h.length_lt
  | _, _, _, .str h => Nat.lt_succ_of_lt h.length_lt
  | _, _, _, .arr h => Nat.lt_succ_of_lt h.length_lt
  | _, _, _, .obj h => Nat.lt_succ_of_lt h.length_lt

theorem SpellsItems.length_lt : ∀ {first : Bool} {cs rest : List Char} {vs : List Value},
    SpellsItems first cs vs rest → rest.length < cs.length
  | _, _, _, _, .done h => h.length_le
  | _, _, _, _, .first hv hs => Nat.lt_trans hs.length_lt hv.length_lt
  | _, _, _, _, .comma hc h => Nat.lt_trans h.length_lt hc.length_le

theorem SpellsMembers.length_lt : ∀ {first : Bool} {cs rest : List Char}
    {ms : List (String × Value)}, SpellsMembers first cs ms rest → rest.length < cs.length
  | _, _, _, _, .done h => h.length_le
  | _, _, _, _, .first hq hk hc hv hs => by
      have := hq.length_le
      have := hk.length_lt
      have := hc.length_le
      have := hv.length_lt
      have := hs.length_lt
      simp only [List.length_cons] at *
      omega
  | _, _, _, _, .comma hc h => Nat.lt_trans h.length_lt hc.length_le

end

theorem Ends.of_mem {c : Char} (h : c ∈ [',', ']', '\x7d']) (cs : List Char) : Ends (c :: cs) := by
  rintro c' hc'
  obtain rfl : c = c' := Option.some.inj hc'
  exact .inr h

theorem Gap.ends {cs rest : List Char} (h : Gap cs rest) (hrest : Ends rest) : Ends cs := by
  cases h with
  | nil => exact hrest
  | @cons c _ _ hc =>
      rintro c' hc'
      obtain rfl : c = c' := Option.some.inj hc'
      exact .inl hc

theorem SpellsItems.ends {cs rest : List Char} {vs : List Value}
    (h : SpellsItems false cs vs rest) : Ends cs := by
  cases h with
  | done h => exact h.ends (.of_mem (by decide) _)
  | comma hc => exact hc.ends (.of_mem (by decide) _)

theorem SpellsMembers.ends {cs rest : List Char} {ms : List (String × Value)}
    (h : SpellsMembers false cs ms rest) : Ends cs := by
  cases h with
  | done h => exact h.ends (.of_mem (by decide) _)
  | comma hc => exact hc.ends (.of_mem (by decide) _)

theorem skipGap_gap {c : Char} (hc : isGap c = true) (cs : List Char) :
    skipGap (c :: cs) = skipGap cs := by
  simp [skipGap, hc]

/-- A value begins after its gap, and not with a closing bracket. -/
theorem Spells.begins : ∀ {cs rest : List Char} {v : Value}, Spells cs v rest →
    ∃ c r, skipGap cs = c :: r ∧ c ≠ ']'
  | _, _, _, .gap hc h => by
      rw [skipGap_gap hc]
      exact h.begins
  | _, _, _, .null _ | _, _, _, .yes _ | _, _, _, .no _ | _, _, _, .str _ | _, _, _, .arr _
  | _, _, _, .obj _ => ⟨_, _, skipGap_of_not_gap rfl _, by decide⟩
  | _, _, _, .num h _ => by
      obtain ⟨c, r, rfl, hc⟩ := h.begins
      exact ⟨c, r, skipGap_of_not_gap (not_gap_of_begins hc) r, ne_of_begins hc (by decide) rfl⟩

theorem Gap.readTree_eq {cs rest : List Char} (h : Gap cs rest) (fuel : Nat) :
    readTree fuel cs = readTree fuel rest := by
  cases fuel with
  | zero => rfl
  | succ fuel => simp only [readTree, h.skipGap_eq]

theorem SpellsLiteral.readTree_eq {cs rest : List Char} {l : Literal} {n : Number}
    (h : SpellsLiteral cs l rest) (hn : l.value = some n) (hrest : Ends rest) (fuel : Nat) :
    readTree (fuel + 1) cs = (.num (some n), rest) := by
  obtain ⟨c, r, rfl, hc⟩ := h.begins
  have hne {d : Char} (hminus : d ≠ '-') (hdigit : d.isDigit = false) : c ≠ d :=
    ne_of_begins hc hminus hdigit
  simp only [readTree, skipGap_of_not_gap (not_gap_of_begins hc), h.readLiteral_eq hrest, hn,
    hne (show 'n' ≠ '-' by decide) rfl, hne (show 't' ≠ '-' by decide) rfl,
    hne (show 'f' ≠ '-' by decide) rfl, hne (show '"' ≠ '-' by decide) rfl,
    hne (show '[' ≠ '-' by decide) rfl, hne (show '\x7b' ≠ '-' by decide) rfl, if_false]

theorem Gap.readItems_done {cs rest : List Char} (h : Gap cs (']' :: rest)) (fuel : Nat)
    (first : Bool) : readItems (fuel + 1) first cs = (.done, rest) := by
  have hskip : skipGap (']' :: rest) = ']' :: rest := skipGap_of_not_gap rfl rest
  simp only [readItems, h.skipGap_eq, hskip, if_true]

theorem Gap.readItems_comma {cs cs' : List Char} (h : Gap cs (',' :: cs')) {c : Char}
    {r : List Char} (hcs : skipGap cs' = c :: r) (hc : c ≠ ']') (fuel : Nat) :
    readItems (fuel + 1) false cs = readItems (fuel + 1) true cs' := by
  have hskip : skipGap (',' :: cs') = ',' :: cs' := skipGap_of_not_gap rfl cs'
  simp [readItems, h.skipGap_eq, hskip, hcs, hc]

theorem Gap.readMembers_done {cs rest : List Char} (h : Gap cs ('\x7d' :: rest)) (fuel : Nat)
    (first : Bool) : readMembers (fuel + 1) first cs = (.done, rest) := by
  have hskip : skipGap ('\x7d' :: rest) = '\x7d' :: rest := skipGap_of_not_gap rfl rest
  simp only [readMembers, h.skipGap_eq, hskip, if_true]

theorem Gap.readMembers_comma {cs cs' quoted : List Char} (h : Gap cs (',' :: cs'))
    (hq : Gap cs' ('"' :: quoted)) (fuel : Nat) :
    readMembers (fuel + 1) false cs = readMembers (fuel + 1) true cs' := by
  have hskip : skipGap (',' :: cs') = ',' :: cs' := skipGap_of_not_gap rfl cs'
  have hquote : skipGap ('"' :: quoted) = '"' :: quoted := skipGap_of_not_gap rfl quoted
  simp [readMembers, h.skipGap_eq, hskip, hq.skipGap_eq, hquote]

mutual

/-- A value is read as it is spelled. -/
theorem Spells.readTree_eq : ∀ {cs rest : List Char} {v : Value} {fuel : Nat},
    Spells cs v rest → Ends rest → cs.length ≤ rest.length + fuel →
    readTree fuel cs = (v.tree, rest)
  | _, _, _, 0, h, _, hfuel => absurd h.length_lt (Nat.not_lt.mpr hfuel)
  | _, _, _, fuel + 1, .gap hc h, hrest, hfuel => by
      -- the reader passes over the whole gap before it spends any fuel
      rw [(Gap.cons hc (.nil _)).readTree_eq]
      exact h.readTree_eq hrest (Nat.le_of_succ_le hfuel)
  | _, _, _, _ + 1, .null _, _, _ | _, _, _, _ + 1, .yes _, _, _ | _, _, _, _ + 1, .no _, _, _ =>
      rfl
  | _, _, _, fuel + 1, .num h hn, hrest, _ => h.readTree_eq hn hrest fuel
  | _, _, _, _ + 1, .str h, _, _ => by
      simp [readTree, skipGap_of_not_gap, isGap, h.readQuoted_eq, Value.tree]
  | _, _, _, fuel + 1, .arr h, _, hfuel => by
      simp only [List.length_cons] at hfuel
      have hitems := @SpellsItems.readItems_eq _ _ _ _ fuel h (by omega)
      simp [readTree, skipGap_of_not_gap, isGap, hitems, Value.tree]
  | _, _, _, fuel + 1, .obj h, _, hfuel => by
      simp only [List.length_cons] at hfuel
      have hmembers := @SpellsMembers.readMembers_eq _ _ _ _ fuel h (by omega)
      simp [readTree, skipGap_of_not_gap, isGap, hmembers, Value.tree]

theorem SpellsItems.readItems_eq : ∀ {first : Bool} {cs rest : List Char} {vs : List Value}
    {fuel : Nat}, SpellsItems first cs vs rest → cs.length ≤ rest.length + fuel →
    readItems fuel first cs = (Value.treeItems vs, rest)
  | _, _, _, _, 0, h, hfuel => absurd h.length_lt (Nat.not_lt.mpr hfuel)
  | first, _, _, _, fuel + 1, .done h, _ => h.readItems_done fuel first
  | _, _, _, _, fuel + 1, .first hv hs, hfuel => by
      have := hv.length_lt
      have := hs.length_lt
      obtain ⟨c, r, hcs, hc⟩ := hv.begins
      have hitem := @Spells.readTree_eq _ _ _ fuel hv hs.ends (by omega)
      have hitems := @SpellsItems.readItems_eq _ _ _ _ fuel hs (by omega)
      rw [(gap_skipGap _).readTree_eq, hcs] at hitem
      simp [readItems, hcs, hc, hitem, hitems, Value.treeItems]
  | _, _, _, _, fuel + 1, .comma hc h, hfuel => by
      have hlength := hc.length_le
      simp only [List.length_cons] at hlength
      -- the comma spends no fuel: what follows it is read as a first element
      have hread := @SpellsItems.readItems_eq _ _ _ _ (fuel + 1) h (by omega)
      cases h with
      | first hv =>
          obtain ⟨c, r, hcs, hne⟩ := hv.begins
          rw [hc.readItems_comma hcs hne, hread]

theorem SpellsMembers.readMembers_eq : ∀ {first : Bool} {cs rest : List Char}
    {ms : List (String × Value)} {fuel : Nat}, SpellsMembers first cs ms rest →
    cs.length ≤ rest.length + fuel → readMembers fuel first cs = (Value.treeMembers ms, rest)
  | _, _, _, _, 0, h, hfuel => absurd h.length_lt (Nat.not_lt.mpr hfuel)
  | first, _, _, _, fuel + 1, .done h, _ => h.readMembers_done fuel first
  | _, _, _, _, fuel + 1, .first hq hk hc hv hs, hfuel => by
      have := hq.length_le
      have := hk.length_lt
      have := hc.length_le
      have := hv.length_lt
      have := hs.length_lt
      simp only [List.length_cons] at *
      have hvalue := @Spells.readTree_eq _ _ _ fuel hv hs.ends (by omega)
      have hmembers := @SpellsMembers.readMembers_eq _ _ _ _ fuel hs (by omega)
      have hquote (cs : List Char) : skipGap ('"' :: cs) = '"' :: cs := skipGap_of_not_gap rfl cs
      have hcolon (cs : List Char) : skipGap (':' :: cs) = ':' :: cs := skipGap_of_not_gap rfl cs
      simp [readMembers, hq.skipGap_eq, hquote, hk.readQuoted_eq, hc.skipGap_eq, hcolon, hvalue,
        hmembers, Value.treeMembers]
  | _, _, _, _, fuel + 1, .comma hc h, hfuel => by
      have hlength := hc.length_le
      simp only [List.length_cons] at hlength
      have hread := @SpellsMembers.readMembers_eq _ _ _ _ (fuel + 1) h (by omega)
      cases h with
      | first hq => rw [hc.readMembers_comma hq, hread]

end

/-! ### Whole texts -/

/-- The text is a value with nothing but gaps after it, in at most 127 levels, and this value in
order is `v`: every object has its keys ascending, and of a repeated key the last value. -/
inductive Denotes (text : String) : Value → Prop where
  | mk {raw rest} (h : Spells text.toList raw rest) (hrest : Gap rest [])
      (hdepth : raw.depth ≤ maxDepth) : Denotes text raw.sorted

theorem sortedMembers_eq_map (ms : List (String × Value)) :
    Value.sortedMembers ms = ms.map fun m => (m.1, m.2.sorted) := by
  induction ms with
  | nil => rfl
  | cons m ms ih => rw [Value.sortedMembers, ih, List.map_cons]

theorem lookup_map_sorted (ms : List (String × Value)) (key : String) :
    (ms.map fun m => (m.1, m.2.sorted)).lookup key = (ms.lookup key).map Value.sorted := by
  induction ms with
  | nil => rfl
  | cons m ms ih =>
      obtain ⟨k, v⟩ := m
      by_cases hk : key = k
      · subst hk
        rw [List.map_cons, List.lookup_cons_self, List.lookup_cons_self, Option.map_some]
      · rw [List.map_cons, KeyedMap.lookup_cons_of_ne hk, KeyedMap.lookup_cons_of_ne hk, ih]

/-- Of a repeated key the last value is kept, in order itself. -/
theorem get?_sorted_obj (ms : List (String × Value)) (key : String) :
    (Value.obj ms).sorted.get? key = (ms.reverse.lookup key).map Value.sorted := by
  have hfold (es acc : List (String × Value)) :
      (es.foldl (fun acc e => KeyedMap.insertEntry e.1 e.2 acc) acc).lookup key =
        (es.reverse.lookup key).or (acc.lookup key) := by
    induction es generalizing acc with
    | nil => rfl
    | cons e es ih =>
        rw [List.foldl_cons, ih, List.reverse_cons, List.lookup_append, Option.or_assoc]
        by_cases hk : key = e.1
        · obtain ⟨k, v⟩ := e
          obtain rfl : key = k := hk
          rw [KeyedMap.lookup_insertEntry_self, List.lookup_cons_self, Option.some_or]
        · rw [KeyedMap.lookup_insertEntry_of_ne hk, KeyedMap.lookup_cons_of_ne hk,
            List.lookup_nil, Option.none_or]
  rw [Value.sorted, Value.get?, KeyedMap.ofList, KeyedMap.entries_foldl, hfold,
    sortedMembers_eq_map, ← List.map_reverse, lookup_map_sorted]
  exact Option.or_none

/-- In an object that is put in order, the last value under a key is in order too. -/
theorem lookup_sorted {ms es : List (String × Value)} (h : (Value.obj ms).sorted = .obj es)
    (key : String) : es.lookup key = (ms.reverse.lookup key).map Value.sorted := by
  rw [← get?_sorted_obj, h]
  rfl

/-- A text is read as what it spells. -/
theorem read_eq_iff {text : String} {raw : Value} :
    Document.read text = ⟨raw.tree, true⟩ ↔
      ∃ rest, Spells text.toList raw rest ∧ Gap rest [] := by
  simp only [Document.read, Document.mk.injEq, List.isEmpty_iff]
  constructor
  · rintro ⟨hroot, hrest⟩
    exact ⟨_, spells_of_readTree (Prod.ext hroot rfl), hrest ▸ gap_skipGap _⟩
  · rintro ⟨rest, h, hrest⟩
    have hends : Ends rest := hrest.ends (by simp [Ends])
    rw [h.readTree_eq hends (by omega)]
    exact ⟨rfl, hrest.skipGap_eq⟩

/-- The texts of JSON: a text is read without a schema as what it denotes. -/
theorem parse_eq_ok_iff {text : String} {v : Value} : parse text = .ok v ↔ Denotes text v := by
  simp only [parse, decodeText_eq_ok, Decoder.value, toValue_eq_ok]
  constructor
  · rintro ⟨⟨raw, hroot, hdepth, rfl⟩, hcomplete⟩
    have hread : Document.read text = ⟨raw.tree, true⟩ := by rw [← hroot, ← hcomplete]
    obtain ⟨rest, h, hrest⟩ := read_eq_iff.mp hread
    exact .mk h hrest hdepth
  · rintro ⟨h, hrest, hdepth⟩
    have hread := read_eq_iff.mpr ⟨_, h, hrest⟩
    exact ⟨⟨_, congrArg Document.root hread, hdepth, rfl⟩, congrArg Document.complete hread⟩

end ExerciseClient.Json
