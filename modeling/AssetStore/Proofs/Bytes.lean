import Mathlib.Tactic.Ring
import AssetStore.Bytes
import AssetStore.Key
/-!
# Reading back what was written

The laws that let a reader's field accesses be evaluated on a writer's output: a big-endian
field reads back as its little-endian twin read backwards, a field of a concatenation splits at
the boundary, and a slice that starts where a prefix ends reads the suffix. Keys made from
non-empty byte strings keep those bytes.
-/

namespace AssetStore.Bytes

/-- A big-endian read continued from `acc` shifts `acc` past the bytes read. -/
theorem foldl_be (acc : Nat) (bytes : List UInt8) :
    bytes.foldl (fun acc b => acc * 256 + b.toNat) acc = acc * 256 ^ bytes.length + be bytes := by
  induction bytes generalizing acc with
  | nil => simp [be]
  | cons b bytes inductionHypothesis =>
    simp only [be, List.foldl_cons, List.length_cons]
    rw [inductionHypothesis, inductionHypothesis (0 * 256 + b.toNat)]
    ring

theorem be_append (front back : List UInt8) :
    be (front ++ back) = be front * 256 ^ back.length + be back := by
  rw [be, List.foldl_append, foldl_be]
  rfl

theorem be_reverse (bytes : List UInt8) : be bytes.reverse = le bytes := by
  induction bytes with
  | nil => rfl
  | cons b bytes inductionHypothesis =>
    rw [List.reverse_cons, be_append, inductionHypothesis, le_cons]
    simp [be]
    omega

theorem be_toBE (w n : Nat) : be (toBE w n) = n % 256 ^ w := by
  rw [toBE, be_reverse, le_toLE]

@[simp] theorem length_toBE (w n : Nat) : (toBE w n).length = w := by
  simp [toBE]

/-- Bytes denote a number below `256` to the power of their count. -/
theorem le_lt (bytes : List UInt8) : le bytes < 256 ^ bytes.length := by
  induction bytes with
  | nil => simp [le]
  | cons b rest inductionHypothesis =>
    rw [le_cons, List.length_cons, Nat.pow_succ]
    have := b.toNat_lt
    omega

theorem be_lt (bytes : List UInt8) : be bytes < 256 ^ bytes.length := by
  have reversed := le_lt bytes.reverse
  rwa [← be_reverse, List.reverse_reverse, List.length_reverse] at reversed

theorem le_lt_of_length_le_four {bytes : List UInt8} (short : bytes.length ≤ 4) : le bytes < 2 ^ 32 :=
  calc le bytes < 256 ^ bytes.length := le_lt bytes
    _ ≤ 256 ^ 4 := Nat.pow_le_pow_right (by decide) short
    _ = 2 ^ 32 := rfl

theorem be_lt_of_length_le_four {bytes : List UInt8} (short : bytes.length ≤ 4) : be bytes < 2 ^ 32 :=
  calc be bytes < 256 ^ bytes.length := be_lt bytes
    _ ≤ 256 ^ 4 := Nat.pow_le_pow_right (by decide) short
    _ = 2 ^ 32 := rfl

theorem length_slice_le (bytes : List UInt8) (start n : Nat) : (slice bytes start n).length ≤ n := by
  simp [slice]

theorem le_append (front back : List UInt8) :
    le (front ++ back) = le front + 256 ^ front.length * le back := by
  induction front with
  | nil => simp
  | cons b front inductionHypothesis =>
    simp only [List.cons_append, le_cons, inductionHypothesis, List.length_cons]
    ring

/-- A slice inside a prefix does not see what follows the prefix. -/
theorem slice_append_of_le (front back : List UInt8) {start n : Nat}
    (within : start + n ≤ front.length) :
    slice (front ++ back) start n = slice front start n := by
  rw [slice, slice, List.drop_append_of_le_length (by omega), List.take_append_of_le_length]
  rw [List.length_drop]
  omega

theorem slice_append (front back : List UInt8) (n : Nat) :
    slice (front ++ back) front.length n = back.take n := by
  simp [slice]

end AssetStore.Bytes

namespace AssetStore.Key

/-- Keys with the same bytes are the same key. -/
theorem ext {a b : Key} (same : a.bytes = b.bytes) : a = b := by
  cases a
  cases b
  cases same
  rfl

theorem prefixOf_eq (bytes : List UInt8) (n : Nat) (h : 0 < n ∧ n ≤ bytes.length) (k : Key)
    (front : bytes.take n = k.bytes) : prefixOf bytes n h = k :=
  ext front

theorem ofBytes?_of_ne_nil (bytes : List UInt8) (nonempty : bytes ≠ []) :
    ofBytes? bytes = some ⟨bytes, nonempty⟩ := by
  cases bytes with
  | nil => exact absurd rfl nonempty
  | cons b bytes => rfl

theorem ofBytes_of_ne_nil (bytes : List UInt8) (nonempty : bytes ≠ []) :
    ofBytes bytes = .ok ⟨bytes, nonempty⟩ := by
  rw [ofBytes, ofBytes?_of_ne_nil bytes nonempty]

/-- Only no bytes are refused as a key. -/
theorem eq_nil_of_ofBytes_eq_error {bytes : List UInt8} {e : Error}
    (refused : ofBytes bytes = .error e) : bytes = [] := by
  cases bytes with
  | nil => rfl
  | cons b bytes => cases refused

theorem bytes_of_ofBytes {bytes : List UInt8} {key : Key} (made : ofBytes bytes = .ok key) :
    key.bytes = bytes := by
  cases bytes with
  | nil => cases made
  | cons b rest =>
    cases made
    rfl

theorem trim_of_length_le (k : Key) {n : Nat} (short : k.length ≤ n) : k.trim n = k :=
  dif_pos (Or.inr short)

/-- Trimming to a positive length keeps that many bytes, or all of a shorter key. -/
theorem bytes_trim (k : Key) {n : Nat} (positive : 0 < n) : (k.trim n).bytes = k.bytes.take n := by
  unfold trim
  split
  · next kept =>
    have short : k.bytes.length ≤ n := by
      rcases kept with zero | short
      · omega
      · exact short
    rw [List.take_of_length_le short]
  · rfl

end AssetStore.Key
