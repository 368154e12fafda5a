import ExerciseClient.Url.Path

/-! Percent-encoded texts. Where the percent sign itself is encoded, decoding gives the bytes of a
text back, so different texts have different encodings. A sign that is encoded occurs in no encoded
text. -/

namespace ExerciseClient

open Text

/-- Texts with the same bytes are the same. -/
theorem Text.Utf8.encode_injective {cs ds : List Char} (h : Utf8.encode cs = Utf8.encode ds) :
    cs = ds := by
  have hbytes : cs.utf8Encode = ds.utf8Encode := congrArg List.toByteArray h
  rw [← String.toByteArray_ofList, ← String.toByteArray_ofList] at hbytes
  exact String.ofList_injective (String.toByteArray_inj.mp hbytes)

/-! ### Lower case -/

theorem Text.code_toLower (c : Char) :
    c.toLower.toNat = if 65 ≤ c.toNat ∧ c.toNat ≤ 90 then c.toNat + 32 else c.toNat := by
  by_cases h : c.val ≥ 'A'.val ∧ c.val ≤ 'Z'.val
  · have hle : 65 ≤ c.toNat ∧ c.toNat ≤ 90 := h
    have hlower : c.toLower.toNat = (c.val + 32).toNat := congrArg Char.toNat (dif_pos h)
    rw [if_pos hle, hlower, UInt32.toNat_add]
    change (c.toNat + 32) % 2 ^ 32 = _
    omega
  · have hle : ¬(65 ≤ c.toNat ∧ c.toNat ≤ 90) := h
    have hlower : c.toLower = c := dif_neg h
    rw [if_neg hle, hlower]

/-- A digit has the same value in either case. -/
theorem Text.hexValue?_toLower (c : Char) : hexValue? c.toLower = hexValue? c := by
  simp only [hexValue?, code_toLower]
  by_cases h : 65 ≤ c.toNat ∧ c.toNat ≤ 90
  · rw [if_pos h]
    grind
  · rw [if_neg h]

/-- Only letters are lowered to other characters. -/
theorem Text.eq_of_toLower {c x : Char} (h : c.toLower = x)
    (hx : ¬(97 ≤ x.toNat ∧ x.toNat ≤ 122)) : c = x := by
  have hcode := code_toLower c
  rw [h] at hcode
  apply Char.toNat_inj.mp
  split at hcode <;> omega

namespace Url

/-! ### Decoding an encoded text -/

theorem percentDecode_cons {c : Char} (h : c ≠ '%') (cs : List Char) :
    percentDecode (c :: cs) = String.utf8EncodeChar c ++ percentDecode cs := by
  rw [percentDecode]
  intro a b rest hc
  exact absurd hc h

theorem percentDecode_percentByte (b : UInt8) (cs : List Char) :
    percentDecode (percentByte b ++ cs) = b :: percentDecode cs := by
  have hb : b.toNat < 256 := b.toNat_lt
  have hhigh := hexValue?_upperHexDigit (n := b.toNat / 16) (by omega)
  have hlow := hexValue?_upperHexDigit (n := b.toNat % 16) (by omega)
  have hvalue : b.toNat / 16 * 16 + b.toNat % 16 = b.toNat := by omega
  simp only [percentByte, List.cons_append, List.nil_append, percentDecode, hhigh, hlow, hvalue,
    UInt8.ofNat_toNat]

theorem percentDecode_percentBytes (bs : List UInt8) (cs : List Char) :
    percentDecode (bs.flatMap percentByte ++ cs) = bs ++ percentDecode cs := by
  induction bs with
  | nil => rfl
  | cons b bs ih =>
      rw [List.flatMap_cons, List.append_assoc, percentDecode_percentByte, ih, List.cons_append]

section

variable {set : EncodeSet} (hpercent : set '%' = true)

include hpercent

/-- An encoded text is decoded to the bytes of the text. -/
theorem percentDecode_percentEncode (cs : List Char) :
    percentDecode (percentEncode set cs) = Utf8.encode cs := by
  induction cs with
  | nil => rfl
  | cons c cs ih =>
      rw [percentEncode, List.flatMap_cons, ← percentEncode, Utf8.encode, List.flatMap_cons,
        ← Utf8.encode, ← ih, percentChar]
      split
      · rename_i hkept
        have hc : c ≠ '%' := by
          rintro rfl
          simp [hpercent] at hkept
        exact percentDecode_cons hc _
      · exact percentDecode_percentBytes _ _

theorem percentEncode_injective {cs ds : List Char}
    (h : percentEncode set cs = percentEncode set ds) : cs = ds := by
  apply Utf8.encode_injective
  rw [← percentDecode_percentEncode hpercent, h, percentDecode_percentEncode hpercent]

end

/-! ### Signs that are encoded -/

/-- A sign that no encoded byte is written with. -/
def IsSign (x : Char) : Prop := x ≠ '%' ∧ hexValue? x = none

theorem IsSign.ne_upperHexDigit {x : Char} (h : IsSign x) {n : Nat} (hn : n < 16) :
    x ≠ upperHexDigit n := by
  rintro rfl
  have hvalue := h.2
  rw [hexValue?_upperHexDigit hn] at hvalue
  cases hvalue

theorem IsSign.not_mem_percentByte {x : Char} (h : IsSign x) (b : UInt8) : x ∉ percentByte b := by
  have hb : b.toNat < 256 := b.toNat_lt
  simp [percentByte, h.1, h.ne_upperHexDigit (n := b.toNat / 16) (by omega),
    h.ne_upperHexDigit (n := b.toNat % 16) (by omega)]

/-- A sign stands in an encoded text only where it is not encoded. -/
theorem IsSign.of_mem_percentEncode {set : EncodeSet} {x : Char} {cs : List Char} (h : IsSign x)
    (hmem : x ∈ percentEncode set cs) : x ∈ cs ∧ set x = false := by
  obtain ⟨c, hcs, hc⟩ := List.mem_flatMap.mp hmem
  rw [percentChar] at hc
  split at hc
  · rename_i hkept
    obtain rfl := List.mem_singleton.mp hc
    simp only [Bool.and_eq_true, Bool.not_eq_true'] at hkept
    exact ⟨hcs, hkept.2⟩
  · obtain ⟨b, -, hb⟩ := List.mem_flatMap.mp hc
    exact absurd hb (h.not_mem_percentByte b)

end Url

end ExerciseClient
