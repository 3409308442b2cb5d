import Mathlib.Algebra.Group.Prod
import Mathlib.Algebra.Ring.Periodic
import Mathlib.Data.UInt
import Mathlib.Tactic.Abel
import AssetStore.Proofs.Lookup3Reference
/-!
# Lookup3 on inputs of `2 ^ 32` bytes

`seed` saturates the length word at `2 ^ 32 - 1` where `lookup3.c` takes the length modulo
`2 ^ 32`, so on an input of exactly `2 ^ 32` bytes the lanes start one apart from the
reference's, and some such input hashes differently (`Lookup3.differs_from_reference`).

The input is zero blocks, one chosen block and four zero bytes (`longInput`). `mix` is a
bijection, so after the zero blocks the two runs' lanes still differ, by some `e ≠ 0`; the chosen
block then moves them to any lanes `v` and `v + e`. Were the hashes always equal, `answer` would
have period `e`, hence every doubling of `e`; one doubling is nonzero with each word `0` or
`2 ^ 31`, and none of the seven such lanes is a period at zero.
-/

namespace AssetStore.Hash.Lookup3

/-! ### `mix` is a bijection -/

/-- Undoes `mix`, its steps taken back from the last. -/
def unmix (t : Lanes) : Lanes :=
  let b := t.b - t.a
  let c := (t.c ^^^ rot b 4) + b
  let a := t.a - c
  let b := (b ^^^ rot a 19) + a
  let c := c - b
  let a := (a ^^^ rot c 16) + c
  let b := b - a
  let c := (c ^^^ rot b 8) + b
  let a := a - c
  let b := (b ^^^ rot a 6) + a
  let c := c - b
  let a := (a ^^^ rot c 4) + c
  ⟨a, b, c⟩

theorem unmix_mix (s : Lanes) : unmix (mix s) = s := by
  simp only [mix, unmix, UInt32.add_sub_cancel, UInt32.xor_assoc, UInt32.xor_self, UInt32.xor_zero,
    UInt32.sub_add_cancel]

theorem mix_injective : Function.Injective mix := Function.LeftInverse.injective unmix_mix

/-! ### Lanes as a triple of words -/

/-- The lanes as a triple of words, which add word by word. -/
def Lanes.words (s : Lanes) : UInt32 × UInt32 × UInt32 := (s.a, s.b, s.c)

/-- The lanes holding a triple of words. -/
def Lanes.ofWords (w : UInt32 × UInt32 × UInt32) : Lanes := ⟨w.1, w.2.1, w.2.2⟩

theorem Lanes.words_injective : Function.Injective Lanes.words := by
  intro s t same
  cases s
  cases t
  simp_all [Lanes.words]

/-- The four little-endian bytes of a word. -/
def wordBytes (w : UInt32) : List UInt8 :=
  [w.toUInt8, (w >>> 8).toUInt8, (w >>> 16).toUInt8, (w >>> 24).toUInt8]

theorem word_wordBytes (w : UInt32) :
    word w.toUInt8 (w >>> 8).toUInt8 (w >>> 16).toUInt8 (w >>> 24).toUInt8 = w := by
  apply UInt32.toNat_inj.mp
  rw [toNat_word]
  have := w.toNat_lt
  simp [UInt32.toNat_toUInt8, UInt32.toNat_shiftRight, Nat.shiftRight_eq_div_pow]
  omega

/-- A block of twelve bytes that adds the words `d` to the lanes. -/
def blockOf (d : UInt32 × UInt32 × UInt32) : List UInt8 :=
  wordBytes d.1 ++ wordBytes d.2.1 ++ wordBytes d.2.2

theorem absorb_blockOf (s : Lanes) (d : UInt32 × UInt32 × UInt32) :
    absorb s (blockOf d) = Lanes.ofWords (s.words + d) := by
  simp only [absorb, blockOf, wordBytes, List.cons_append, List.nil_append, List.getD_cons_succ,
    List.getD_cons_zero, word_wordBytes]
  rfl

theorem absorb_zeros (s : Lanes) {n : Nat} (short : n ≤ 12) : absorb s (List.replicate n 0) = s := by
  rw [absorb_eq_addBytes s (by simpa using short), addBytes_zeros]

/-! ### Runs over zero blocks -/

/-- A full block followed by more bytes is mixed in. -/
theorem run_block_append (s : Lanes) {block rest : List UInt8} (twelve : block.length = 12)
    (more : rest ≠ []) : run s (block ++ rest) = run (mix (absorb s block)) rest := by
  have long : 12 < (block ++ rest).length := by
    rw [List.length_append, twelve]
    have := List.length_pos_of_ne_nil more
    omega
  obtain ⟨x0, x1, x2, x3, x4, x5, x6, x7, x8, x9, x10, x11, x12, tail, whole⟩ := exists_block long
  have blockEq : block = [x0, x1, x2, x3, x4, x5, x6, x7, x8, x9, x10, x11] := by
    have := congrArg (List.take 12) whole
    rwa [List.take_left' twelve] at this
  have restEq : rest = x12 :: tail := by
    have := congrArg (List.drop 12) whole
    rwa [List.drop_left' twelve] at this
  rw [whole, run, blockEq, restEq]

theorem run_zeros_append (s : Lanes) (q : Nat) {rest : List UInt8} (more : rest ≠ []) :
    run s (List.replicate (12 * q) 0 ++ rest) = run (mix^[q] s) rest := by
  -- induction on the zero blocks, for all lanes: a zero block adds nothing before its `mix`
  induction q generalizing s with
  | zero => rfl
  | succ q inductionHypothesis =>
    have zeros : List.replicate (12 * (q + 1)) (0 : UInt8) =
        List.replicate 12 0 ++ List.replicate (12 * q) 0 := by
      rw [← List.replicate_add]
      congr 1
      omega
    rw [zeros, List.append_assoc, run_block_append s (List.length_replicate ..)
      (List.append_ne_nil_of_right_ne_nil _ more), absorb_zeros s (by omega), inductionHypothesis,
      Function.iterate_succ_apply]

/-- Zero blocks, a block adding the words `d`, and four zero bytes. -/
def longInput (q : Nat) (d : UInt32 × UInt32 × UInt32) : List UInt8 :=
  List.replicate (12 * q) 0 ++ (blockOf d ++ List.replicate 4 0)

theorem length_longInput (q : Nat) (d : UInt32 × UInt32 × UInt32) :
    (longInput q d).length = 12 * q + 16 := by
  simp [longInput, blockOf, wordBytes]

theorem run_longInput (s : Lanes) (q : Nat) (d : UInt32 × UInt32 × UInt32) :
    run s (longInput q d) = final (mix (Lanes.ofWords ((mix^[q] s).words + d))) := by
  rw [longInput, run_zeros_append s q (List.append_ne_nil_of_right_ne_nil _ (by simp)),
    run_block_append _ (by simp [blockOf, wordBytes]) (by simp), run_of_length_le _ (by simp),
    absorb_zeros _ (by omega), absorb_blockOf]

theorem hash2_of_ne_nil {data : List UInt8} (nonempty : data ≠ []) (pc pb : UInt32) :
    hash2 data pc pb = ((run (seed data pc pb) data).c, (run (seed data pc pb) data).b) := by
  cases data with
  | nil => contradiction
  | cons x rest => rfl

theorem reference_of_ne_nil {data : List UInt8} (nonempty : data ≠ []) (pc pb : UInt32) :
    reference data pc pb =
      let start := 0xdeadbeef + UInt32.ofNat data.length + pc
      ((run ⟨start, start, start + pb⟩ data).c, (run ⟨start, start, start + pb⟩ data).b) := by
  rw [reference, if_neg nonempty, ← run_eq_referenceRun _ _ nonempty]

theorem longInput_ne_nil (q : Nat) (d : UInt32 × UInt32 × UInt32) : longInput q d ≠ [] :=
  List.ne_nil_of_length_pos (by rw [length_longInput]; omega)

/-! ### Periods of the last rounds -/

/-- The lanes `(c, b)` a hash answers when the lanes before the last `mix` are `w` and what
follows adds nothing. -/
def answer (w : UInt32 × UInt32 × UInt32) : UInt32 × UInt32 :=
  ((final (mix (Lanes.ofWords w))).c, (final (mix (Lanes.ofWords w))).b)

/-- Doubling a word `k` times multiplies it by `2 ^ k`. -/
theorem toNat_double_iterate (x : UInt32) (k : Nat) :
    ((fun y : UInt32 => y + y)^[k] x).toNat = 2 ^ k * x.toNat % 2 ^ 32 := by
  induction k with
  | zero => simp [Nat.mod_eq_of_lt x.toNat_lt]
  | succ k inductionHypothesis =>
    have double : 2 ^ (k + 1) * x.toNat = 2 * (2 ^ k * x.toNat) := by
      rw [Nat.pow_succ, Nat.mul_comm (2 ^ k) 2, Nat.mul_assoc]
    rw [Function.iterate_succ_apply', UInt32.toNat_add, inductionHypothesis, double]
    generalize 2 ^ k * x.toNat = m
    omega

theorem double_iterate (e : UInt32 × UInt32 × UInt32) (k : Nat) :
    (fun c => c + c)^[k] e = ((fun y : UInt32 => y + y)^[k] e.1, (fun y : UInt32 => y + y)^[k] e.2.1,
      (fun y : UInt32 => y + y)^[k] e.2.2) := by
  induction k with
  | zero => rfl
  | succ k inductionHypothesis =>
    rw [Function.iterate_succ_apply', inductionHypothesis, Function.iterate_succ_apply',
      Function.iterate_succ_apply', Function.iterate_succ_apply']
    rfl

/-- Thirty-two doublings clear every word. -/
theorem double_iterate_32 (e : UInt32 × UInt32 × UInt32) : (fun c => c + c)^[32] e = 0 := by
  have clears : ∀ x : UInt32, (fun y : UInt32 => y + y)^[32] x = 0 := fun x => by
    apply UInt32.toNat_inj.mp
    rw [toNat_double_iterate, Nat.mul_mod_right]
    rfl
  rw [double_iterate, clears, clears, clears]
  rfl

/-- A nonzero period doubles into a nonzero period of order two. -/
theorem exists_period_of_order_two {g : UInt32 × UInt32 × UInt32 → UInt32 × UInt32}
    {e : UInt32 × UInt32 × UInt32} (periodic : Function.Periodic g e) (apart : e ≠ 0) :
    ∃ f, f ≠ 0 ∧ f + f = 0 ∧ Function.Periodic g f := by
  have doubled : ∀ k, Function.Periodic g ((fun c => c + c)^[k] e) := by
    intro k
    induction k with
    | zero => exact periodic
    | succ k inductionHypothesis =>
      rw [Function.iterate_succ_apply']
      exact inductionHypothesis.add_period inductionHypothesis
  have vanishes : ∃ k, (fun c => c + c)^[k] e = 0 := ⟨32, double_iterate_32 e⟩
  have first := Nat.find_spec vanishes
  have positive : 0 < Nat.find vanishes := by
    rw [Nat.pos_iff_ne_zero]
    intro zero
    rw [zero] at first
    exact apart first
  refine ⟨(fun c => c + c)^[Nat.find vanishes - 1] e, Nat.find_min vanishes (by omega), ?_,
    doubled _⟩
  rw [← Nat.sub_add_cancel positive, Function.iterate_succ_apply'] at first
  exact first

theorem hash2_longInput (q : Nat) (d : UInt32 × UInt32 × UInt32) :
    hash2 (longInput q d) 0 0 = answer ((mix^[q] (seed (longInput q d) 0 0)).words + d) := by
  rw [hash2_of_ne_nil (longInput_ne_nil q d), run_longInput]
  rfl

/-- The reference's hash of a long input, whose lanes start from the length modulo `2 ^ 32`. -/
theorem reference_longInput (q : Nat) (d : UInt32 × UInt32 × UInt32) :
    reference (longInput q d) 0 0 =
      let start := 0xdeadbeef + UInt32.ofNat (12 * q + 16)
      answer ((mix^[q] ⟨start, start, start⟩).words + d) := by
  rw [reference_of_ne_nil (longInput_ne_nil q d), length_longInput]
  dsimp only
  rw [UInt32.add_zero, UInt32.add_zero, run_longInput]
  rfl

/-- Where the lanes `y` and `y'` always answer alike after the same words are added, their
difference is a period. -/
theorem periodic_of_agree {y y' : UInt32 × UInt32 × UInt32}
    (same : ∀ d, answer (y + d) = answer (y' + d)) : Function.Periodic answer (y' - y) := by
  intro v
  calc answer (v + (y' - y)) = answer (y' + (v - y)) := by congr 1; abel
    _ = answer (y + (v - y)) := (same _).symm
    _ = answer v := by congr 1; abel

/-- A word that doubles to zero is `0` or `2 ^ 31`. -/
theorem eq_zero_or_of_add_self {x : UInt32} (twice : x + x = 0) : x = 0 ∨ x = 0x80000000 := by
  have sum := congrArg UInt32.toNat twice
  rw [UInt32.toNat_add, UInt32.toNat_zero] at sum
  have := x.toNat_lt
  rcases (by omega : x.toNat = 0 ∨ x.toNat = 2 ^ 31) with zero | half
  · exact .inl (UInt32.toNat_inj.mp zero)
  · exact .inr (UInt32.toNat_inj.mp half)

/-- No nonzero lanes of order two are a period of `answer`: each of the seven is checked at zero. -/
theorem not_periodic_of_order_two {f : UInt32 × UInt32 × UInt32} (nonzero : f ≠ 0)
    (twice : f + f = 0) : ¬ Function.Periodic answer f := by
  intro periodic
  obtain ⟨a, b, c⟩ := f
  have lanes : a + a = 0 ∧ b + b = 0 ∧ c + c = 0 := by simpa [Prod.ext_iff] using twice
  obtain ⟨ha, hb, hc⟩ := lanes
  rcases eq_zero_or_of_add_self ha with rfl | rfl <;> rcases eq_zero_or_of_add_self hb with rfl | rfl <;>
    rcases eq_zero_or_of_add_self hc with rfl | rfl
  · exact nonzero rfl
  all_goals exact absurd (periodic 0) (by decide)

/-! ### The divergence -/

/-- Some input of `2 ^ 32` bytes hashes differently from the reference: its saturated length word
starts the lanes one below the reference's, and `mix` keeps them apart. -/
theorem differs_from_reference :
    ∃ data : List UInt8, data.length = 2 ^ 32 ∧ hash2 data 0 0 ≠ reference data 0 0 := by
  by_contra agree
  push Not at agree
  -- 357913940 zero blocks, a chosen block and four zero bytes make `2 ^ 32` bytes, which the
  -- length word saturates to `2 ^ 32 - 1` and the reference takes as `0`
  have long : ∀ d, (longInput 357913940 d).length = 2 ^ 32 := fun d => by
    rw [length_longInput]
    rfl
  have saturated : ∀ d, seed (longInput 357913940 d) 0 0 = ⟨0xdeadbeee, 0xdeadbeee, 0xdeadbeee⟩ :=
    fun d => by
      rw [seed, lengthWord, long]
      rfl
  have wrapped : (0xdeadbeef + UInt32.ofNat (12 * 357913940 + 16) : UInt32) = 0xdeadbeef := by decide
  have same : ∀ d, answer ((mix^[357913940] ⟨0xdeadbeee, 0xdeadbeee, 0xdeadbeee⟩).words + d) =
      answer ((mix^[357913940] ⟨0xdeadbeef, 0xdeadbeef, 0xdeadbeef⟩).words + d) := fun d => by
    have agrees := agree _ (long d)
    rw [hash2_longInput, saturated, reference_longInput] at agrees
    simpa only [wrapped] using agrees
  have periodic := periodic_of_agree same
  have apart : (mix^[357913940] ⟨0xdeadbeef, 0xdeadbeef, 0xdeadbeef⟩).words -
      (mix^[357913940] ⟨0xdeadbeee, 0xdeadbeee, 0xdeadbeee⟩).words ≠ 0 := by
    rw [sub_ne_zero]
    intro same
    exact absurd ((mix_injective.iterate 357913940) (Lanes.words_injective same)) (by decide)
  obtain ⟨f, nonzero, twice, periodicF⟩ := exists_period_of_order_two periodic apart
  exact not_periodic_of_order_two nonzero twice periodicF

end AssetStore.Hash.Lookup3
