import ExerciseClient.Proofs.Url.Percent

/-! Segments that are put behind a path. An encoded segment is a dot or two only where the text is,
so a text that names no place in the path, and has no character that URLs pass over, becomes one
more segment, which is decoded to the text. No other text does. -/

namespace ExerciseClient.Url.Path

open Text

/-! ### Dots -/

theorem isSingleDot_cases {cs : List Char} (h : isSingleDot cs = true) :
    cs = ['.'] ∨ ∃ e, cs = ['%', '2', e] ∧ hexValue? e = some 14 := by
  simp only [isSingleDot, lowerAscii, Bool.or_eq_true, beq_iff_eq] at h
  rcases h with h | h
  · obtain ⟨c, rfl, hc⟩ := List.map_eq_singleton_iff.mp h
    rw [eq_of_toLower hc (by decide)]
    exact .inl rfl
  · obtain ⟨a, rest, rfl, ha, h⟩ := List.map_eq_cons_iff.mp h
    obtain ⟨b, rest, rfl, hb, h⟩ := List.map_eq_cons_iff.mp h
    obtain ⟨e, rfl, he⟩ := List.map_eq_singleton_iff.mp h
    rw [eq_of_toLower ha (by decide), eq_of_toLower hb (by decide)]
    have hvalue : hexValue? e = some 14 := by
      rw [← hexValue?_toLower, he]
      decide
    exact .inr ⟨e, rfl, hvalue⟩

/-- A dot in any spelling is decoded to a dot. -/
theorem percentDecode_dot {cs : List Char} (h : isSingleDot cs = true) (rest : List Char) :
    percentDecode (cs ++ rest) = 0x2E :: percentDecode rest := by
  rcases isSingleDot_cases h with rfl | ⟨e, rfl, he⟩
  · exact percentDecode_cons (by decide) rest
  · have htwo : hexValue? '2' = some 2 := by decide
    simp only [List.cons_append, List.nil_append, percentDecode, htwo, he]
    rfl

/-- Two dots are one dot and another one. -/
theorem isDoubleDot_split {cs : List Char} (h : isDoubleDot cs = true) :
    ∃ as bs, cs = as ++ bs ∧ isSingleDot as = true ∧ isSingleDot bs = true := by
  have hsplit {x y : List Char} (hx : x ∈ [['.'], ['%', '2', 'e']])
      (hy : y ∈ [['.'], ['%', '2', 'e']]) (hl : lowerAscii cs = x ++ y) :
      ∃ as bs, cs = as ++ bs ∧ isSingleDot as = true ∧ isSingleDot bs = true := by
    obtain ⟨as, bs, rfl, ha, hb⟩ := List.map_eq_append_iff.mp hl
    refine ⟨as, bs, rfl, ?_, ?_⟩
    · simpa [isSingleDot, lowerAscii, ha] using hx
    · simpa [isSingleDot, lowerAscii, hb] using hy
  simp only [isDoubleDot, Bool.or_eq_true, beq_iff_eq] at h
  rcases h with ((h | h) | h) | h
  · exact hsplit (x := ['.']) (y := ['.']) (by decide) (by decide) h
  · exact hsplit (x := ['.']) (y := ['%', '2', 'e']) (by decide) (by decide) h
  · exact hsplit (x := ['%', '2', 'e']) (y := ['.']) (by decide) (by decide) h
  · exact hsplit (x := ['%', '2', 'e']) (y := ['%', '2', 'e']) (by decide) (by decide) h

section

variable (special : Bool)

theorem segment_percent : EncodeSet.segment special '%' = true := by
  cases special <;> decide

theorem percentEncode_dot : percentEncode (.segment special) ['.'] = ['.'] := by
  cases special <;> decide

theorem percentEncode_dots : percentEncode (.segment special) ['.', '.'] = ['.', '.'] := by
  cases special <;> decide

theorem isSingleDot_percentEncode (cs : List Char) :
    isSingleDot (percentEncode (.segment special) cs) = true ↔ cs = ['.'] := by
  constructor
  · intro h
    have hdecoded := percentDecode_dot h []
    rw [List.append_nil, percentDecode_percentEncode (segment_percent special)] at hdecoded
    exact Utf8.encode_injective hdecoded
  · rintro rfl
    rw [percentEncode_dot]
    decide

theorem isDoubleDot_percentEncode (cs : List Char) :
    isDoubleDot (percentEncode (.segment special) cs) = true ↔ cs = ['.', '.'] := by
  constructor
  · intro h
    obtain ⟨as, bs, he, ha, hb⟩ := isDoubleDot_split h
    have hdecoded := percentDecode_dot ha bs
    rw [← he, percentDecode_percentEncode (segment_percent special), ← List.append_nil bs,
      percentDecode_dot hb] at hdecoded
    exact Utf8.encode_injective hdecoded
  · rintro rfl
    rw [percentEncode_dots]
    decide

end

/-! ### One more segment -/

/-- A text that can stand as a segment: it is no place in the path, and it has no character that
URLs pass over. -/
structure IsPlain (segment : String) : Prop where
  not_here : segment ≠ "."
  not_parent : segment ≠ ".."
  kept : ∀ c ∈ segment.toList, isSkipped c = false

theorem isPlain_iff {segment : String} : IsPlain segment ↔
    segment ≠ "." ∧ segment ≠ ".." ∧ segment.toList.all (!isSkipped ·) = true := by
  constructor
  · intro h
    refine ⟨h.not_here, h.not_parent, List.all_eq_true.mpr fun c hc => ?_⟩
    simp [h.kept c hc]
  · rintro ⟨hhere, hparent, hkept⟩
    refine ⟨hhere, hparent, fun c hc => ?_⟩
    simpa using List.all_eq_true.mp hkept c hc

instance (segment : String) : Decidable (IsPlain segment) := decidable_of_iff' _ isPlain_iff

/-- What a path keeps of a segment. -/
def keptChars (segment : String) : List Char :=
  segment.toList.filter (!isSkipped ·)

/-- A segment as it stands in a URL of a special scheme. -/
def encodedSegment (cs : List Char) : String :=
  String.ofList (percentEncode (.segment true) cs)

/-- The path of a URL of a special scheme that a segment is put behind. Where nothing but dots is
kept of a segment, they are the path itself or its parent, with a slash at the end. -/
def behind (path : List String) (segment : String) : List String :=
  if segment = "." ∨ segment = ".." then path
  else if keptChars segment = ['.', '.'] then parent path ++ [""]
  else if keptChars segment = ['.'] then path ++ [""]
  else path ++ [encodedSegment (keptChars segment)]

theorem length_parent_le (path : List String) : (parent path).length ≤ path.length := by
  rw [parent]
  split
  · exact Nat.le_refl _
  · simp

/-- What stands last alone is taken off. -/
theorem parent_append {names : List String} (hne : names ≠ []) (path : List String) :
    parent (path ++ names) = path ++ parent names := by
  have hlast : (path ++ names).getLast? = names.getLast? := by
    rw [List.getLast?_append, List.getLast?_eq_some_getLast hne, Option.some_or]
  rw [parent, parent, hlast]
  split
  · rfl
  · exact List.dropLast_append_of_ne_nil hne

/-- A path of the root alone has no segment yet. -/
def unrooted (path : List String) : List String :=
  if path = [""] then [] else path

theorem unrooted_of_ne {path : List String} (h : path ≠ [""]) : unrooted path = path :=
  if_neg h

theorem extend_eq (path : List String) (segment : String) :
    extend true false path segment =
      if segment = "." ∨ segment = ".." then path else behind (unrooted path) segment := by
  by_cases hdots : segment = "." ∨ segment = ".."
  · rw [extend, if_pos hdots, if_pos hdots]
  · rw [extend, if_neg hdots, if_neg hdots, behind, if_neg hdots]
    simp only [put, isDoubleDot_percentEncode, isSingleDot_percentEncode, Bool.false_and,
      Bool.false_eq_true, if_false, if_true]
    rfl

theorem extend_eq_behind {path : List String} (hroot : path ≠ [""]) (segment : String) :
    extend true false path segment = behind path segment := by
  rw [extend_eq, unrooted_of_ne hroot]
  by_cases hdots : segment = "." ∨ segment = ".."
  · rw [if_pos hdots, behind, if_pos hdots]
  · rw [if_neg hdots]

/-- A segment is put behind the segments that stand last, and no other is touched. -/
theorem behind_append {names : List String} (hne : names ≠ []) (path : List String)
    (segment : String) : behind (path ++ names) segment = path ++ behind names segment := by
  simp only [behind, parent_append hne, List.append_assoc]
  split
  · rfl
  · split
    · rfl
    · split <;> rfl

/-- What is kept of a text alone decides where it goes, but for dots by themselves. -/
theorem behind_congr {a b : String} (ha : ¬(a = "." ∨ a = "..")) (hb : ¬(b = "." ∨ b = ".."))
    (h : keptChars a = keptChars b) (path : List String) : behind path a = behind path b := by
  rw [behind, if_neg ha, h, behind, if_neg hb]

theorem behind_of_dots {a : String} (ha : a = "." ∨ a = "..") (path : List String) :
    behind path a = path :=
  if_pos ha

/-- No text has what it becomes for itself: dots by themselves go nowhere, and another text may have
one more character that is passed over. -/
theorem exists_same_behind (segment : String) :
    ∃ other, other ≠ segment ∧ ¬IsPlain other ∧
      ∀ path, behind path other = behind path segment := by
  by_cases hdots : segment = "." ∨ segment = ".."
  · have hother : ∃ other, other ≠ segment ∧ (other = "." ∨ other = "..") ∧ ¬IsPlain other := by
      rcases hdots with rfl | rfl
      · exact ⟨"..", by decide⟩
      · exact ⟨".", by decide⟩
    obtain ⟨other, hne, ho, hplain⟩ := hother
    exact ⟨other, hne, hplain, fun path => by rw [behind_of_dots ho, behind_of_dots hdots]⟩
  · have hchars : ("\t" ++ segment).toList = '\t' :: segment.toList := by
      rw [String.toList_append]
      rfl
    have hne {text : String} (h : text.toList ≠ '\t' :: segment.toList) :
        "\t" ++ segment ≠ text := by
      rintro rfl
      exact h hchars
    have hmem : '\t' ∈ ("\t" ++ segment).toList := by
      rw [hchars]
      exact List.mem_cons_self
    have hkept : keptChars ("\t" ++ segment) = keptChars segment := by
      rw [keptChars, hchars, List.filter_cons_of_neg (by decide), keptChars]
    refine ⟨"\t" ++ segment, hne (by simp), fun h => ?_, behind_congr ?_ hdots hkept⟩
    · exact absurd (h.kept '\t' hmem) (by decide)
    · rintro (h | h)
      · exact hne (by simp) h
      · exact hne (by simp) h

/-- A segment goes nowhere, or it leaves a slash where only dots are kept of it, or it is put behind
the path. -/
theorem behind_cases (path : List String) (segment : String) :
    behind path segment = path ∨
    (∃ front : List String, front.length ≤ path.length ∧ keptChars segment ≠ [] ∧
      behind path segment = front ++ [""]) ∨
    ¬(segment = "." ∨ segment = "..") ∧
      behind path segment = path ++ [encodedSegment (keptChars segment)] := by
  by_cases hdots : segment = "." ∨ segment = ".."
  · exact .inl (behind_of_dots hdots path)
  · rw [behind, if_neg hdots]
    by_cases hparent : keptChars segment = ['.', '.']
    · exact .inr (.inl ⟨parent path, length_parent_le path, by simp [hparent], if_pos hparent⟩)
    · rw [if_neg hparent]
      by_cases hhere : keptChars segment = ['.']
      · exact .inr (.inl ⟨path, Nat.le_refl _, by simp [hhere], if_pos hhere⟩)
      · exact .inr (.inr ⟨hdots, if_neg hhere⟩)

theorem length_behind_le (path : List String) (segment : String) :
    (behind path segment).length ≤ path.length + 1 := by
  rcases behind_cases path segment with he | ⟨front, hlength, -, he⟩ | ⟨-, he⟩
  · rw [he]
    exact Nat.le_succ _
  · rw [he, List.length_append]
    exact Nat.succ_le_succ hlength
  · rw [he, List.length_append]
    exact Nat.le_refl _

theorem IsPlain.keptChars_eq {segment : String} (h : IsPlain segment) :
    keptChars segment = segment.toList := by
  apply List.filter_eq_self.mpr
  intro c hc
  simp [h.kept c hc]

theorem IsPlain.behind_eq {segment : String} (h : IsPlain segment) (path : List String) :
    behind path segment = path ++ [encodedSegment segment.toList] := by
  have hparent : segment.toList ≠ ['.', '.'] := by
    intro he
    exact h.not_parent (String.toList_injective he)
  have hhere : segment.toList ≠ ['.'] := by
    intro he
    exact h.not_here (String.toList_injective he)
  rw [behind, h.keptChars_eq, if_neg (by simp [h.not_here, h.not_parent]), if_neg hparent,
    if_neg hhere]

theorem percentDecode_encodedSegment (cs : List Char) :
    percentDecode (encodedSegment cs).toList = Utf8.encode cs := by
  rw [encodedSegment, String.toList_ofList, percentDecode_percentEncode (segment_percent true)]

/-- Different texts are different segments. -/
theorem encodedSegment_injective {cs ds : List Char} (h : encodedSegment cs = encodedSegment ds) :
    cs = ds :=
  percentEncode_injective (segment_percent true) (String.ofList_injective h)

/-- No slash begins another segment. -/
theorem slash_notMem_encodedSegment (cs : List Char) : '/' ∉ (encodedSegment cs).toList := by
  rw [encodedSegment, String.toList_ofList]
  intro hmem
  have hsign : IsSign '/' := ⟨by decide, by decide⟩
  have hkept := (hsign.of_mem_percentEncode hmem).2
  simp [EncodeSet.segment] at hkept

/-- A text becomes one more segment that is decoded to it only if it is plain. -/
theorem behind_eq_append_iff (path : List String) (segment : String) :
    (∃ s : String, behind path segment = path ++ [s] ∧
      percentDecode s.toList = Utf8.encode segment.toList) ↔ IsPlain segment := by
  constructor
  · rintro ⟨s, he, hdecoded⟩
    rcases behind_cases path segment with hnone | ⟨front, -, hkept, hslash⟩ | ⟨hdots, hput⟩
    · rw [hnone] at he
      simp at he
    · -- An empty segment is decoded to the empty text, of which no dot is kept.
      have hlast := List.append_inj_right' (hslash.symm.trans he) rfl
      obtain rfl : "" = s := List.singleton_inj.mp hlast
      have hnil : segment.toList = [] := Utf8.encode_injective hdecoded.symm
      exact absurd (by rw [keptChars, hnil, List.filter_nil]) hkept
    · have hlast := List.append_inj_right' (hput.symm.trans he) rfl
      obtain rfl := List.singleton_inj.mp hlast
      rw [percentDecode_encodedSegment] at hdecoded
      have hall := List.filter_eq_self.mp (Utf8.encode_injective hdecoded)
      refine ⟨fun h => hdots (.inl h), fun h => hdots (.inr h), fun c hc => ?_⟩
      simpa using hall c hc
  · intro h
    exact ⟨_, h.behind_eq path, percentDecode_encodedSegment _⟩

/-! ### Names -/

/-- A name that a path is written with as it is. -/
structure IsName (name : String) : Prop where
  plain : IsPlain name
  nonempty : name ≠ ""
  written : encodedSegment name.toList = name

instance (name : String) : Decidable (IsName name) :=
  decidable_of_iff (IsPlain name ∧ name ≠ "" ∧ encodedSegment name.toList = name)
    ⟨fun ⟨h, h', h''⟩ => ⟨h, h', h''⟩, fun ⟨h, h', h''⟩ => ⟨h, h', h''⟩⟩

theorem IsName.extend_eq {name : String} (h : IsName name) (path : List String) :
    extend true false path name = unrooted path ++ [name] := by
  rw [Path.extend_eq, if_neg (by simp [h.plain.not_here, h.plain.not_parent]), h.plain.behind_eq,
    h.written]

theorem ne_root_of_mem {path : List String} {name : String} (hmem : name ∈ path)
    (hne : name ≠ "") : path ≠ [""] := by
  rintro rfl
  exact hne (List.mem_singleton.mp hmem)

theorem foldl_extend {names : List String} (h : ∀ name ∈ names, IsName name) (hne : names ≠ [])
    (path : List String) : names.foldl (extend true false) path = unrooted path ++ names := by
  induction names generalizing path with
  | nil => exact absurd rfl hne
  | cons name names ih =>
      have hname := h name List.mem_cons_self
      rw [List.foldl_cons, hname.extend_eq]
      cases names with
      | nil => rfl
      | cons next names =>
          have hroot : unrooted path ++ [name] ≠ [""] :=
            ne_root_of_mem (by simp) hname.nonempty
          rw [ih (fun n hn => h n (List.mem_cons_of_mem _ hn)) (by simp), unrooted_of_ne hroot,
            List.append_assoc]
          rfl

/-! ### The text of a path -/

theorem text_segments (list : List String) :
    (Path.segments list).text.toList = list.flatMap fun s => '/' :: s.toList := by
  simp only [text, String.toList_join, List.flatMap_map, String.toList_append]
  rfl

end ExerciseClient.Url.Path
