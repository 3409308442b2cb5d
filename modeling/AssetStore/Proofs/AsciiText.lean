import Mathlib
import AssetStore.Proofs.KeyText
/-!
# ASCII text and its UTF-8 bytes

The UTF-8 bytes of a text are the encodings of its characters laid end to end, and a text is
determined by its bytes. A character below 128 is one byte, its own code, so the bytes of an
ASCII text are its character codes one for one, and ASCII bytes are the text of the characters
with those codes (`Text.Ascii.asciiChar`). Changing the case of a letter moves its code by 32,
in characters and in bytes alike.
-/

namespace AssetStore.Text.Ascii

/-- The character whose code is a byte's value. -/
def asciiChar (b : UInt8) : Char := Char.ofNat b.toNat

/-- The lowercase of an ASCII byte: `A` to `Z` move to `a` to `z`, all others stay. -/
def lowerByte (c : UInt8) : UInt8 := if 65 ≤ c ∧ c ≤ 90 then c + 32 else c

theorem toNat_toUpper (c : Char) :
    c.toUpper.toNat = if 97 ≤ c.toNat ∧ c.toNat ≤ 122 then c.toNat - 32 else c.toNat := by
  have bound : c.toNat < 2 ^ 32 := c.val.toNat_lt
  unfold Char.toUpper
  split
  · rename_i lower
    have within : 97 ≤ c.toNat ∧ c.toNat ≤ 122 :=
      ⟨UInt32.le_iff_toNat_le.mp lower.1, UInt32.le_iff_toNat_le.mp lower.2⟩
    rw [if_pos within]
    show (c.val + (65 - 97)).toNat = c.toNat - 32
    rw [UInt32.toNat_add]
    change (c.toNat + 4294967264) % 4294967296 = c.toNat - 32
    omega
  · rename_i other
    rw [if_neg fun within => other
      ⟨UInt32.le_iff_toNat_le.mpr within.1, UInt32.le_iff_toNat_le.mpr within.2⟩]

theorem toNat_toLower (c : Char) :
    c.toLower.toNat = if 65 ≤ c.toNat ∧ c.toNat ≤ 90 then c.toNat + 32 else c.toNat := by
  have bound : c.toNat < 2 ^ 32 := c.val.toNat_lt
  unfold Char.toLower
  split
  · rename_i upper
    have within : 65 ≤ c.toNat ∧ c.toNat ≤ 90 :=
      ⟨UInt32.le_iff_toNat_le.mp upper.1, UInt32.le_iff_toNat_le.mp upper.2⟩
    rw [if_pos within]
    show (c.val + (97 - 65)).toNat = c.toNat + 32
    rw [UInt32.toNat_add]
    change (c.toNat + 32) % 4294967296 = c.toNat + 32
    omega
  · rename_i other
    rw [if_neg fun within => other
      ⟨UInt32.le_iff_toNat_le.mpr within.1, UInt32.le_iff_toNat_le.mpr within.2⟩]

theorem toNat_lowerByte (c : UInt8) :
    (lowerByte c).toNat = if 65 ≤ c.toNat ∧ c.toNat ≤ 90 then c.toNat + 32 else c.toNat := by
  unfold lowerByte
  simp only [UInt8.le_iff_toNat_le, UInt8.reduceToNat]
  split_ifs with upper
  · rw [UInt8.toNat_add]
    change (c.toNat + 32) % 256 = c.toNat + 32
    omega
  · rfl

theorem toNat_toUInt8 {c : Char} (ascii : c.toNat < 128) : c.toUInt8.toNat = c.toNat := by
  show (UInt8.ofNat c.toNat).toNat = c.toNat
  rw [UInt8.toNat_ofNat_of_lt' (by change c.toNat < 256; omega)]

theorem toNat_asciiChar {b : UInt8} (ascii : b.toNat < 128) : (asciiChar b).toNat = b.toNat := by
  unfold asciiChar Char.ofNat
  rw [dif_pos (by unfold Nat.isValidChar; omega)]
  simp [Char.ofNatAux, Char.toNat]

theorem toUInt8_asciiChar {b : UInt8} (ascii : b.toNat < 128) : (asciiChar b).toUInt8 = b := by
  apply UInt8.toNat_inj.mp
  rw [toNat_toUInt8 (by rw [toNat_asciiChar ascii]; exact ascii), toNat_asciiChar ascii]

/-- Lowering the case of an ASCII character lowers the case of its byte. -/
theorem lowerByte_toUInt8 {c : Char} (ascii : c.toNat < 128) :
    lowerByte c.toUInt8 = c.toLower.toUInt8 := by
  have lowered := toNat_toLower c
  have loweredAscii : c.toLower.toNat < 128 := by
    rw [lowered]
    split_ifs <;> omega
  apply UInt8.toNat_inj.mp
  rw [toNat_toUInt8 loweredAscii, lowered, toNat_lowerByte, toNat_toUInt8 ascii]

theorem toLower_asciiChar {b : UInt8} (ascii : b.toNat < 128) :
    (asciiChar b).toLower = asciiChar (lowerByte b) := by
  have lowered := toNat_lowerByte b
  apply Char.toNat_inj.mp
  rw [toNat_toLower, toNat_asciiChar ascii, toNat_asciiChar (by rw [lowered]; split_ifs <;> omega),
    lowered]

end AssetStore.Text.Ascii

namespace AssetStore.Text.Utf8

open Ascii

theorem encode_eq_flatMap (s : String) : encode s = s.toList.flatMap String.utf8EncodeChar := by
  rw [encode, String.toUTF8_eq_toByteArray, ← String.ofList_toList (s := s),
    String.toByteArray_ofList, ByteArray.toList_eq, List.utf8Encode, List.toList_data_toByteArray,
    String.toList_ofList]

theorem encode_append (s t : String) : encode (s ++ t) = encode s ++ encode t := by
  rw [encode_eq_flatMap, encode_eq_flatMap, encode_eq_flatMap, String.toList_append,
    List.flatMap_append]

theorem utf8EncodeChar_of_ascii {c : Char} (ascii : c.toNat < 128) :
    String.utf8EncodeChar c = [c.toUInt8] := by
  rw [String.utf8EncodeChar_eq_singleton (Char.utf8Size_eq_one_iff.mpr
    (UInt32.le_iff_toNat_le.mpr (by change c.toNat ≤ 127; omega)))]
  rfl

theorem flatMap_utf8EncodeChar_of_ascii {cs : List Char} (ascii : ∀ c ∈ cs, c.toNat < 128) :
    cs.flatMap String.utf8EncodeChar = cs.map Char.toUInt8 := by
  induction cs with
  | nil => rfl
  | cons c rest inductionHypothesis =>
    rw [List.flatMap_cons, utf8EncodeChar_of_ascii (ascii c List.mem_cons_self), List.map_cons,
      inductionHypothesis fun d member => ascii d (List.mem_cons_of_mem c member)]
    rfl

theorem encode_of_ascii {s : String} (ascii : ∀ c ∈ s.toList, c.toNat < 128) :
    encode s = s.toList.map Char.toUInt8 := by
  rw [encode_eq_flatMap, flatMap_utf8EncodeChar_of_ascii ascii]

/-- Two texts with the same bytes are the same text. -/
theorem eq_of_encode_eq {s t : String} (same : encode s = encode t) : s = t := by
  rw [encode, encode, String.toUTF8_eq_toByteArray, String.toUTF8_eq_toByteArray,
    ByteArray.toList_eq, ByteArray.toList_eq] at same
  apply String.toByteArray_inj.mp
  cases hs : s.toByteArray
  cases ht : t.toByteArray
  rw [hs, ht] at same
  simp_all

/-- ASCII bytes are the UTF-8 bytes of the text of their characters. -/
theorem encode_asciiChars {bytes : List UInt8} (ascii : ∀ b ∈ bytes, b.toNat < 128) :
    encode (String.ofList (bytes.map asciiChar)) = bytes := by
  have charsAscii : ∀ c ∈ bytes.map asciiChar, c.toNat < 128 := by
    intro c member
    obtain ⟨b, inside, rfl⟩ := List.mem_map.mp member
    rw [toNat_asciiChar (ascii b inside)]
    exact ascii b inside
  rw [encode_eq_flatMap, String.toList_ofList, flatMap_utf8EncodeChar_of_ascii charsAscii,
    List.map_map]
  conv => rhs; rw [← List.map_id' bytes]
  exact List.map_congr_left fun b inside => toUInt8_asciiChar (ascii b inside)

/-- The bytes of the lowercase of an ASCII text are its bytes lowered. -/
theorem encode_toLower {s : String} (ascii : ∀ c ∈ s.toList, c.toNat < 128) :
    encode s.toLower = (encode s).map lowerByte := by
  have lowerAscii : ∀ c ∈ s.toLower.toList, c.toNat < 128 := by
    intro c member
    rw [String.toLower, String.toList_map] at member
    obtain ⟨original, inside, rfl⟩ := List.mem_map.mp member
    have := ascii original inside
    rw [toNat_toLower]
    split_ifs <;> omega
  rw [encode_of_ascii lowerAscii, encode_of_ascii ascii, String.toLower, String.toList_map,
    List.map_map, List.map_map]
  exact List.map_congr_left fun c inside => (lowerByte_toUInt8 (ascii c inside)).symm

end AssetStore.Text.Utf8
