import ExerciseClient.Http.Cookie
import ExerciseClient.Text.Utf8

/-! What headers hold, byte by byte. A header takes tabs and all bytes but control characters, so
all characters that are not ASCII. Where it is to be a text again, it holds no byte but ASCII. -/

namespace ExerciseClient

namespace Text

/-! ### The bytes of a character -/

theorem utf8EncodeChar_of_lt {c : Char} (h : c.toNat < 0x80) :
    String.utf8EncodeChar c = [UInt8.ofNat c.toNat] :=
  if_pos (Nat.le_of_lt_succ h)

/-- A character that is not ASCII has no byte that is. -/
theorem le_of_mem_utf8EncodeChar {c : Char} (h : 0x80 ≤ c.toNat) {b : UInt8}
    (hb : b ∈ String.utf8EncodeChar c) : 0x80 ≤ b.toNat := by
  have hge : ¬ c.val.toNat ≤ 0x7F := Nat.not_le_of_lt h
  simp only [String.utf8EncodeChar, hge, if_false] at hb
  split at hb
  · simp only [List.mem_cons, List.not_mem_nil, or_false] at hb
    rcases hb with rfl | rfl <;> rw [UInt8.toNat_ofNat'] <;> omega
  · split at hb <;> simp only [List.mem_cons, List.not_mem_nil, or_false] at hb
    · rcases hb with rfl | rfl | rfl <;> rw [UInt8.toNat_ofNat'] <;> omega
    · rcases hb with rfl | rfl | rfl | rfl <;> rw [UInt8.toNat_ofNat'] <;> omega

theorem exists_mem_utf8EncodeChar (c : Char) : ∃ b, b ∈ String.utf8EncodeChar c := by
  apply List.exists_mem_of_length_pos
  rw [String.length_utf8EncodeChar]
  exact c.utf8Size_pos

/-- A property of bytes that bytes other than ASCII have or lack all alike, told by the characters
of a text. -/
theorem Utf8.forall_mem_encode {P : UInt8 → Prop} {Q : Char → Prop} (other : Prop)
    (hascii : ∀ c : Char, c.toNat < 0x80 → (P (UInt8.ofNat c.toNat) ↔ Q c))
    (hbyte : ∀ b : UInt8, 0x80 ≤ b.toNat → (P b ↔ other))
    (hchar : ∀ c : Char, 0x80 ≤ c.toNat → (Q c ↔ other)) (cs : List Char) :
    (∀ b ∈ encode cs, P b) ↔ ∀ c ∈ cs, Q c := by
  have heach (c : Char) : (∀ b ∈ String.utf8EncodeChar c, P b) ↔ Q c := by
    by_cases h : c.toNat < 0x80
    · rw [utf8EncodeChar_of_lt h, List.forall_mem_singleton, hascii c h]
    · have hle : 0x80 ≤ c.toNat := Nat.le_of_not_lt h
      rw [hchar c hle]
      constructor
      · intro hall
        obtain ⟨b, hb⟩ := exists_mem_utf8EncodeChar c
        exact (hbyte b (le_of_mem_utf8EncodeChar hle hb)).mp (hall b hb)
      · exact fun ho b hb => (hbyte b (le_of_mem_utf8EncodeChar hle hb)).mpr ho
  simp only [encode, List.forall_mem_flatMap, heach]

end Text

namespace Http

open Text

/-! ### The texts that a header takes -/

/-- The bytes of a header. -/
def IsFieldByte (b : UInt8) : Prop := b = 9 ∨ 32 ≤ b.toNat ∧ b.toNat ≠ 127

/-- The bytes of a header that is a text. -/
def IsVisibleByte (b : UInt8) : Prop := b = 9 ∨ 32 ≤ b.toNat ∧ b.toNat < 127

/-- The text can be the value of a header. -/
def FitsHeader (text : String) : Prop := ∀ b ∈ Utf8.encode text.toList, IsFieldByte b

/-- The value of a header can be read as a text. -/
def IsVisible (text : String) : Prop := ∀ b ∈ Utf8.encode text.toList, IsVisibleByte b

theorem code_of_ascii {c : Char} (h : c.toNat < 0x80) :
    (UInt8.ofNat c.toNat).toNat = c.toNat ∧ (UInt8.ofNat c.toNat = 9 ↔ c = '\t') := by
  have hcode : (UInt8.ofNat c.toNat).toNat = c.toNat := by
    rw [UInt8.toNat_ofNat']
    omega
  refine ⟨hcode, ?_⟩
  rw [← UInt8.toNat_inj, hcode, ← Char.toNat_inj]
  rfl

theorem fitsHeader_iff (text : String) : FitsHeader text ↔
    ∀ c ∈ text.toList, c = '\t' ∨ 0x20 ≤ c.toNat ∧ c.toNat ≠ 0x7F := by
  apply Utf8.forall_mem_encode True
  · intro c h
    obtain ⟨hcode, htab⟩ := code_of_ascii h
    rw [IsFieldByte, hcode, htab]
  · intro b h
    simp only [IsFieldByte, iff_true]
    omega
  · intro c h
    simp only [iff_true]
    omega

theorem isVisible_iff (text : String) : IsVisible text ↔
    ∀ c ∈ text.toList, c = '\t' ∨ 0x20 ≤ c.toNat ∧ c.toNat < 0x7F := by
  apply Utf8.forall_mem_encode False
  · intro c h
    obtain ⟨hcode, htab⟩ := code_of_ascii h
    rw [IsVisibleByte, hcode, htab]
  · intro b h
    simp only [IsVisibleByte, ← UInt8.toNat_inj, iff_false]
    change ¬(b.toNat = 9 ∨ _)
    omega
  · intro c h
    simp only [← Char.toNat_inj, iff_false]
    change ¬(c.toNat = 9 ∨ _)
    omega

/-- What is checked of a header, character by character, is what its bytes are to be. -/
theorem isHeaderValue_iff (text : String) : isHeaderValue text = true ↔ FitsHeader text := by
  simp [isHeaderValue, fitsHeader_iff]

theorem isVisible_iff_ascii (text : String) :
    IsVisible text ↔ FitsHeader text ∧ ∀ c ∈ text.toList, c.toNat < 0x80 := by
  rw [isVisible_iff, fitsHeader_iff]
  constructor
  · intro h
    refine ⟨fun c hc => (h c hc).imp_right fun hr => ⟨hr.1, by omega⟩, fun c hc => ?_⟩
    rcases h c hc with rfl | hr
    · decide
    · omega
  · rintro ⟨hfits, hascii⟩ c hc
    have hlt := hascii c hc
    exact (hfits c hc).imp_right fun hr => ⟨hr.1, by omega⟩

theorem IsVisible.fitsHeader {text : String} (h : IsVisible text) : FitsHeader text :=
  ((isVisible_iff_ascii text).mp h).1

/-- A text without the end of a line. -/
def IsOneLine (text : String) : Prop :=
  13 ∉ Utf8.encode text.toList ∧ 10 ∉ Utf8.encode text.toList

theorem FitsHeader.isOneLine {text : String} (h : FitsHeader text) : IsOneLine text :=
  ⟨fun hm => absurd (h 13 hm) (by simp [IsFieldByte]),
    fun hm => absurd (h 10 hm) (by simp [IsFieldByte])⟩

/-! ### The cookie of a token -/

theorem fitsHeader_authCookie (token : String) :
    FitsHeader (authCookie token) ↔ FitsHeader token := by
  have hname : ∀ c ∈ (authCookieName ++ "=").toList,
      c = '\t' ∨ 0x20 ≤ c.toNat ∧ c.toNat ≠ 0x7F := by
    simp [authCookieName]
  rw [authCookie, fitsHeader_iff, fitsHeader_iff, String.toList_append, List.forall_mem_append,
    and_iff_right hname]

theorem isVisible_authCookie (token : String) :
    IsVisible (authCookie token) ↔ IsVisible token := by
  have hname : ∀ c ∈ (authCookieName ++ "=").toList, c.toNat < 0x80 := by simp [authCookieName]
  rw [isVisible_iff_ascii, isVisible_iff_ascii, fitsHeader_authCookie, authCookie,
    String.toList_append, List.forall_mem_append, and_iff_right hname]

end Http

end ExerciseClient
