import Mathlib.Data.List.Basic
import AssetStore.Bytes
import AssetStore.Hash.Lookup3
/-!
# Lookup3 against its byte-oriented reference

Bob Jenkins' `lookup3.c` reads its input as little-endian words while more than twelve bytes
remain, and adds the last one to twelve bytes one at a time through a fall-through `switch`,
byte `j` into lane `j / 4` shifted left by `8 * (j % 4)` bits. The lanes start from the length
taken modulo `2 ^ 32`. `reference` is that algorithm.

`run` instead zero-pads the last block and reads it as words, and its length word saturates at
`2 ^ 32 - 1`. The two agree on every input shorter than `2 ^ 32` bytes
(`Lookup3.hash2_eq_reference`): a padded byte adds nothing, and a word built by `|||` from its
bytes is their sum.
-/

namespace AssetStore.Hash.Lookup3

/-! ### The reference -/

/-- Adds byte `j` of the last block to lane `a`, `b` or `c` by `j / 4`, shifted left by
`8 * (j % 4)` bits. -/
def addByte (s : Lanes) (j : Nat) (x : UInt8) : Lanes :=
  let v := x.toUInt32 <<< (8 * (j % 4)).toUInt32
  match j / 4 with
  | 0 => { s with a := s.a + v }
  | 1 => { s with b := s.b + v }
  | _ => { s with c := s.c + v }

/-- Adds the bytes of the last block one at a time, the first of them being byte `j`. -/
def addBytes (s : Lanes) (j : Nat) : List UInt8 → Lanes
  | [] => s
  | x :: rest => addBytes (addByte s j x) (j + 1) rest

/-- Stirs in three little-endian words by `mix` while more than twelve bytes remain, then adds
the last one to twelve bytes one at a time and finishes by `final`. -/
def referenceRun (s : Lanes) (data : List UInt8) : Lanes :=
  if 12 < data.length then
    referenceRun (mix ⟨s.a + UInt32.ofNat (Bytes.le (data.take 4)),
      s.b + UInt32.ofNat (Bytes.le ((data.drop 4).take 4)),
      s.c + UInt32.ofNat (Bytes.le ((data.drop 8).take 4))⟩) (data.drop 12)
  else final (addBytes s 0 data)
termination_by data.length

/-- The reference `hashlittle2`: the lanes `(c, b)`, starting from `0xdeadbeef`, the length
modulo `2 ^ 32` and the seeds; an empty input is not mixed at all. -/
def reference (data : List UInt8) (pc pb : UInt32) : UInt32 × UInt32 :=
  let start := 0xdeadbeef + UInt32.ofNat data.length + pc
  let s : Lanes := ⟨start, start, start + pb⟩
  if data = [] then (s.c, s.b)
  else
    let t := referenceRun s data
    (t.c, t.b)

/-! ### Words -/

theorem or_mul_two_pow {low : Nat} {i : Nat} (below : low < 2 ^ i) (high : Nat) :
    low ||| high * 2 ^ i = low + high * 2 ^ i := by
  rw [← Nat.shiftLeft_eq, Nat.or_comm, ← Nat.shiftLeft_add_eq_or_of_lt below, Nat.add_comm]

theorem toNat_word (x0 x1 x2 x3 : UInt8) :
    (word x0 x1 x2 x3).toNat = x0.toNat + x1.toNat * 2 ^ 8 + x2.toNat * 2 ^ 16 + x3.toNat * 2 ^ 24 := by
  have b0 := x0.toNat_lt
  have b1 := x1.toNat_lt
  have b2 := x2.toNat_lt
  have b3 := x3.toNat_lt
  simp only [word, UInt32.toNat_or, UInt32.toNat_shiftLeft, UInt8.toNat_toUInt32]
  show x0.toNat ||| (x1.toNat <<< 8) % 2 ^ 32 ||| (x2.toNat <<< 16) % 2 ^ 32 |||
    (x3.toNat <<< 24) % 2 ^ 32 = _
  simp only [Nat.shiftLeft_eq] at *
  rw [Nat.mod_eq_of_lt (by omega), Nat.mod_eq_of_lt (by omega), Nat.mod_eq_of_lt (by omega)]
  rw [or_mul_two_pow (i := 8), or_mul_two_pow (i := 16), or_mul_two_pow (i := 24)] <;> omega

/-- A word is its little-endian number. -/
theorem word_eq_ofNat_le (x0 x1 x2 x3 : UInt8) :
    word x0 x1 x2 x3 = UInt32.ofNat (Bytes.le [x0, x1, x2, x3]) := by
  apply UInt32.toNat_inj.mp
  rw [toNat_word, UInt32.toNat_ofNat']
  have b0 := x0.toNat_lt
  have b1 := x1.toNat_lt
  have b2 := x2.toNat_lt
  have b3 := x3.toNat_lt
  simp only [Bytes.le_cons, Bytes.le_nil]
  omega

/-- Adding a word is adding its bytes one at a time, each shifted to its place. -/
theorem add_word_bytewise (t : UInt32) (x0 x1 x2 x3 : UInt8) :
    t + word x0 x1 x2 x3 = t + x0.toUInt32 <<< Nat.toUInt32 0 + x1.toUInt32 <<< Nat.toUInt32 8 +
      x2.toUInt32 <<< Nat.toUInt32 16 + x3.toUInt32 <<< Nat.toUInt32 24 := by
  apply UInt32.toNat_inj.mp
  have b0 := x0.toNat_lt
  have b1 := x1.toNat_lt
  have b2 := x2.toNat_lt
  have b3 := x3.toNat_lt
  simp [toNat_word, UInt32.toNat_add, UInt32.toNat_shiftLeft, Nat.shiftLeft_eq]
  omega

/-- Twelve bytes added one at a time are the three words they make. -/
theorem addBytes_twelve (s : Lanes) (f : Nat → UInt8) : addBytes s 0 ((List.range 12).map f) =
    ⟨s.a + word (f 0) (f 1) (f 2) (f 3), s.b + word (f 4) (f 5) (f 6) (f 7),
      s.c + word (f 8) (f 9) (f 10) (f 11)⟩ := by
  rw [show (List.range 12).map f = [f 0, f 1, f 2, f 3, f 4, f 5, f 6, f 7, f 8, f 9, f 10, f 11]
    from rfl]
  simp only [addBytes, addByte, Nat.reduceAdd, Nat.reduceMod, Nat.reduceMul, Nat.reduceDiv,
    add_word_bytewise]

/-! ### The last block -/

theorem addByte_zero (s : Lanes) (j : Nat) : addByte s j 0 = s := by
  unfold addByte
  split <;> simp

theorem addBytes_append (s : Lanes) (j : Nat) (first second : List UInt8) :
    addBytes s j (first ++ second) = addBytes (addBytes s j first) (j + first.length) second := by
  induction first generalizing s j with
  | nil => rfl
  | cons x rest inductionHypothesis =>
    simp only [List.cons_append, addBytes, inductionHypothesis, List.length_cons]
    rw [Nat.add_assoc, Nat.add_comm 1]

theorem addBytes_zeros (s : Lanes) (j n : Nat) : addBytes s j (List.replicate n 0) = s := by
  induction n generalizing j with
  | zero => rfl
  | succ n inductionHypothesis => rw [List.replicate_succ, addBytes, addByte_zero, inductionHypothesis]

/-- The last block padded with zero bytes to twelve. -/
theorem padded_eq {block : List UInt8} (short : block.length ≤ 12) :
    (List.range 12).map (block.getD · 0) = block ++ List.replicate (12 - block.length) 0 := by
  apply List.ext_getElem (by simp; omega)
  intro i inRange _
  simp only [List.length_map, List.length_range] at inRange
  simp only [List.getElem_map, List.getElem_range, List.getD_eq_getElem?_getD, List.getElem_append]
  split
  · simp [*]
  · simp [List.getElem?_eq_none (by omega : block.length ≤ i)]

/-- Zero-padding the last block to three words adds what adding its bytes one at a time adds. -/
theorem absorb_eq_addBytes (s : Lanes) {block : List UInt8} (short : block.length ≤ 12) :
    absorb s block = addBytes s 0 block := calc
  absorb s block = addBytes s 0 ((List.range 12).map (block.getD · 0)) := by
    rw [addBytes_twelve]
    rfl
  _ = addBytes s 0 (block ++ List.replicate (12 - block.length) 0) := by rw [padded_eq short]
  _ = addBytes s 0 block := by rw [addBytes_append, addBytes_zeros]

/-! ### Agreement -/

/-- An input of more than twelve bytes starts with a full block and a byte more. -/
theorem exists_block {data : List UInt8} (long : 12 < data.length) :
    ∃ (x0 x1 x2 x3 x4 x5 x6 x7 x8 x9 x10 x11 x12 : UInt8) (rest : List UInt8),
      data = x0 :: x1 :: x2 :: x3 :: x4 :: x5 :: x6 :: x7 :: x8 :: x9 :: x10 :: x11 :: x12 :: rest := by
  refine ⟨data[0], data[1], data[2], data[3], data[4], data[5], data[6], data[7], data[8], data[9],
    data[10], data[11], data[12], data.drop 13, ?_⟩
  simp only [← List.drop_eq_getElem_cons, List.drop_zero]

theorem run_of_length_le (s : Lanes) {data : List UInt8} (short : data.length ≤ 12) :
    run s data = final (absorb s data) := by
  unfold run
  split
  · simp only [List.length_cons] at short
    omega
  · rfl

theorem run_eq_referenceRun (s : Lanes) (data : List UInt8) : data ≠ [] → run s data = referenceRun s data := by
  fun_induction referenceRun s data with
  | case1 s data long inductionHypothesis =>
    intro _
    obtain ⟨x0, x1, x2, x3, x4, x5, x6, x7, x8, x9, x10, x11, x12, rest, rfl⟩ := exists_block long
    have block : absorb s [x0, x1, x2, x3, x4, x5, x6, x7, x8, x9, x10, x11] =
        ⟨s.a + word x0 x1 x2 x3, s.b + word x4 x5 x6 x7, s.c + word x8 x9 x10 x11⟩ := rfl
    rw [run, ← inductionHypothesis (by simp), block]
    simp only [List.take, List.drop, word_eq_ofNat_le]
  | case2 s data short =>
    intro _
    rw [run_of_length_le s (by omega), absorb_eq_addBytes s (by omega)]

theorem lengthWord_of_lt {data : List UInt8} (short : data.length < 2 ^ 32) :
    lengthWord data = UInt32.ofNat data.length := by
  unfold lengthWord
  rw [Nat.min_eq_left (by omega)]

theorem hash2_eq_reference {data : List UInt8} (short : data.length < 2 ^ 32) (pc pb : UInt32) :
    hash2 data pc pb = reference data pc pb := by
  cases data with
  | nil => rfl
  | cons x rest =>
    simp only [hash2, reference, seed, lengthWord_of_lt short, reduceCtorEq, if_false]
    rw [run_eq_referenceRun _ _ (List.cons_ne_nil x rest)]

/-- On every input shorter than `2 ^ 32` bytes, `hashlittle2`, `hashlittle` and the 64-bit hash
are those of the reference. -/
theorem agrees_with_reference {data : List UInt8} (short : data.length < 2 ^ 32) :
    (∀ pc pb, hash2 data pc pb = reference data pc pb) ∧
    (∀ initval, hash data initval = (reference data initval 0).1) ∧
    hash64 data = ((reference data 0 0).1.toUInt64 <<< 32) ||| (reference data 0 0).2.toUInt64 := by
  refine ⟨hash2_eq_reference short, fun initval => ?_, ?_⟩
  · rw [hash, hash2_eq_reference short]
  · rw [hash64, hash2_eq_reference short]

theorem agrees_with_reference_thirteen :
    (List.replicate 13 (7 : UInt8)).length < 2 ^ 32 ∧
    ((∀ pc pb, hash2 (List.replicate 13 7) pc pb = reference (List.replicate 13 7) pc pb) ∧
      (∀ initval, hash (List.replicate 13 7) initval = (reference (List.replicate 13 7) initval 0).1) ∧
      hash64 (List.replicate 13 7) = ((reference (List.replicate 13 7) 0 0).1.toUInt64 <<< 32) |||
        (reference (List.replicate 13 7) 0 0).2.toUInt64) :=
  ⟨by decide, agrees_with_reference (by decide)⟩

end AssetStore.Hash.Lookup3
