import Mathlib.Data.List.Forall2
import AssetStore.AssetPath
import AssetStore.Proofs.AsciiText
/-!
# Spellings of a path that share a filename hash

A path is normalised one character at a time, so what normalising forgets is said of single
characters: two characters are alike when they are equal, both separators (`/` and `\`), both
unknown (`?` and every character outside ASCII), or the two cases of one ASCII letter
(`AssetPath.Alike`). Two paths normalise to the same text exactly when they are alike position
by position, and then they share a filename hash (`AssetPath.normalize_spellings`).

A normalised path holds only ASCII characters other than `/` and the lowercase letters; such
characters normalise to themselves, so normalising twice changes nothing, and the UTF-8 text of
a normalised path has one byte for each character of the path.
-/

namespace AssetStore.AssetPath

open Text.Ascii

/-- A character that a normalised path may hold: ASCII, but neither `/` nor a lowercase
letter. -/
def IsNormalChar (c : Char) : Prop :=
  c.toNat < 128 ∧ c ≠ '/' ∧ c.isLower = false

/-- The two separators of a path. -/
def IsSeparator (c : Char) : Prop :=
  c = '/' ∨ c = '\\'

/-- The characters a path cannot tell apart from `?`: `?` itself and all outside ASCII. -/
def IsUnknown (c : Char) : Prop :=
  c = '?' ∨ 128 ≤ c.toNat

/-- Two characters that no filename hash tells apart. -/
def Alike (c d : Char) : Prop :=
  c = d ∨ (IsSeparator c ∧ IsSeparator d) ∨ (IsUnknown c ∧ IsUnknown d) ∨
    (c.isAlpha ∧ d.isAlpha ∧ c.toUpper = d.toUpper)

/-! ### Characters as numbers -/

theorem isLower_iff (c : Char) : c.isLower = true ↔ 97 ≤ c.toNat ∧ c.toNat ≤ 122 := by
  simp [Char.isLower, UInt32.le_iff_toNat_le, ← Char.toNat_val]

theorem isAlpha_iff (c : Char) :
    c.isAlpha = true ↔ (65 ≤ c.toNat ∧ c.toNat ≤ 90) ∨ (97 ≤ c.toNat ∧ c.toNat ≤ 122) := by
  simp [Char.isAlpha, Char.isUpper, Char.isLower, UInt32.le_iff_toNat_le, ← Char.toNat_val]

theorem toNat_normalizeChar (c : Char) :
    (normalizeChar c).toNat =
      if c.toNat = 47 then 92 else if 128 ≤ c.toNat then 63
      else if 97 ≤ c.toNat ∧ c.toNat ≤ 122 then c.toNat - 32 else c.toNat := by
  unfold normalizeChar
  by_cases slash : c = '/'
  · subst slash
    rfl
  · have notSlash : c.toNat ≠ 47 := fun same => slash (Char.toNat_inj.mp same)
    rw [if_neg (by simpa using slash), if_neg notSlash]
    by_cases wide : 128 ≤ c.toNat
    · rw [if_pos wide, if_pos wide]
      rfl
    · rw [if_neg wide, if_neg wide, toNat_toUpper]

/-- Whether two characters are alike, said of their numbers. -/
theorem alike_iff (c d : Char) :
    Alike c d ↔ c.toNat = d.toNat ∨
      ((c.toNat = 47 ∨ c.toNat = 92) ∧ (d.toNat = 47 ∨ d.toNat = 92)) ∨
      ((c.toNat = 63 ∨ 128 ≤ c.toNat) ∧ (d.toNat = 63 ∨ 128 ≤ d.toNat)) ∨
      (((65 ≤ c.toNat ∧ c.toNat ≤ 90) ∨ (97 ≤ c.toNat ∧ c.toNat ≤ 122)) ∧
        ((65 ≤ d.toNat ∧ d.toNat ≤ 90) ∨ (97 ≤ d.toNat ∧ d.toNat ≤ 122)) ∧
        (if 97 ≤ c.toNat ∧ c.toNat ≤ 122 then c.toNat - 32 else c.toNat) =
          (if 97 ≤ d.toNat ∧ d.toNat ≤ 122 then d.toNat - 32 else d.toNat)) := by
  rw [Alike, IsSeparator, IsSeparator, IsUnknown, IsUnknown, isAlpha_iff, isAlpha_iff,
    ← toNat_toUpper, ← toNat_toUpper, Char.toNat_inj, Char.toNat_inj]
  simp only [← Char.toNat_inj]
  rfl

/-! ### One character -/

theorem normalizeChar_normal (c : Char) : IsNormalChar (normalizeChar c) := by
  have number := toNat_normalizeChar c
  refine ⟨?_, fun slash => ?_, ?_⟩
  · rw [number]
    split_ifs <;> omega
  · rw [slash] at number
    change 47 = _ at number
    split_ifs at number <;> omega
  · rw [Bool.eq_false_iff, ne_eq, isLower_iff, number]
    split_ifs <;> omega

/-- A character that a normalised path may hold is its own normal form. -/
theorem normalizeChar_of_normal {c : Char} (normal : IsNormalChar c) : normalizeChar c = c := by
  obtain ⟨ascii, notSlash, notLower⟩ := normal
  have notSlash : c.toNat ≠ 47 := fun same => notSlash (Char.toNat_inj.mp same)
  have notLower : ¬(97 ≤ c.toNat ∧ c.toNat ≤ 122) := by
    rw [← isLower_iff, notLower]
    exact Bool.false_ne_true
  apply Char.toNat_inj.mp
  rw [toNat_normalizeChar, if_neg notSlash, if_neg (by omega), if_neg notLower]

theorem normalizeChar_eq_iff (c d : Char) : normalizeChar c = normalizeChar d ↔ Alike c d := by
  rw [← Char.toNat_inj, toNat_normalizeChar, toNat_normalizeChar, alike_iff]
  split_ifs <;> omega

/-! ### Whole paths -/

theorem toList_normalize (path : String) : (normalize path).toList = path.toList.map normalizeChar :=
  String.toList_ofList

theorem normalize_normal (path : String) : ∀ c ∈ (normalize path).toList, IsNormalChar c := by
  intro c member
  rw [toList_normalize, List.mem_map] at member
  obtain ⟨original, -, rfl⟩ := member
  exact normalizeChar_normal original

theorem normalize_normalize (path : String) : normalize (normalize path) = normalize path := by
  rw [normalize, List.map_congr_left fun c member => normalizeChar_of_normal
    (normalize_normal path c member), List.map_id', String.ofList_toList]

theorem length_encode_normalize (path : String) :
    (Text.Utf8.encode (normalize path)).length = path.length := by
  rw [Text.Utf8.encode_of_ascii fun c member => (normalize_normal path c member).1, List.length_map,
    toList_normalize, List.length_map, String.length_toList]

theorem normalize_eq_iff (p q : String) :
    normalize p = normalize q ↔ List.Forall₂ Alike p.toList q.toList := by
  rw [normalize, normalize, String.ofList_inj, ← List.forall₂_eq_eq_eq, List.forall₂_map_left_iff,
    List.forall₂_map_right_iff]
  exact ⟨List.Forall₂.imp fun c d => (normalizeChar_eq_iff c d).mp,
    List.Forall₂.imp fun c d => (normalizeChar_eq_iff c d).mpr⟩

theorem filenameHash_eq_of_alike {p q : String} (alike : List.Forall₂ Alike p.toList q.toList) :
    filenameHash p = filenameHash q := by
  rw [filenameHash, filenameHash, (normalize_eq_iff p q).mpr alike]

theorem filenameHash_normalize (path : String) : filenameHash (normalize path) = filenameHash path := by
  rw [filenameHash, filenameHash, normalize_normalize]

/-- Normalising a path gives an ASCII text with neither `/` nor a lowercase letter, one byte for
each character of the path, that normalises to itself. Two paths normalise to the same text
exactly when they are alike character by character, and then they share a filename hash: the
64-bit lookup3 hash of the normal form's bytes, which is also the filename hash of the normal
form. -/
theorem normalize_spellings :
    (∀ p : String, (∀ c ∈ (normalize p).toList, IsNormalChar c) ∧
      (Text.Utf8.encode (normalize p)).length = p.length ∧ normalize (normalize p) = normalize p) ∧
    (∀ p q : String, normalize p = normalize q ↔ List.Forall₂ Alike p.toList q.toList) ∧
    (∀ p q : String, normalize p = normalize q → filenameHash p = filenameHash q) ∧
    (∀ p : String, filenameHash p = Hash.Lookup3.hash64 (Text.Utf8.encode (normalize p)) ∧
      filenameHash p = filenameHash (normalize p)) := by
  refine ⟨fun p => ⟨normalize_normal p, length_encode_normalize p, normalize_normalize p⟩,
    normalize_eq_iff, fun p q same => filenameHash_eq_of_alike ((normalize_eq_iff p q).mp same),
    fun p => ⟨rfl, (filenameHash_normalize p).symm⟩⟩

example : normalize "data/file.txt" = "DATA\\FILE.TXT" := by decide

end AssetStore.AssetPath
