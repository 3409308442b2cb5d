import AssetStore.Prelude
/-!
# Byte strings and fixed-width numbers

Byte strings are lists of bytes. A number of fixed width is read from its bytes in little-endian
order (least significant byte first) or big-endian order (most significant first), and written
back the same way; reading what was written gives the number back below `256 ^ width`.

* `le`, `be` — the number that bytes denote.
* `toLE w n`, `toBE w n` — the `w` bytes of `n` modulo `256 ^ w`.
* `slice bytes start n` — the `n` bytes from `start` on, fewer at the end.
-/

namespace AssetStore.Bytes

/-- The number that bytes denote, least significant first. -/
def le (bytes : List UInt8) : Nat :=
  bytes.foldr (fun b acc => b.toNat + 256 * acc) 0

/-- The number that bytes denote, most significant first. -/
def be (bytes : List UInt8) : Nat :=
  bytes.foldl (fun acc b => acc * 256 + b.toNat) 0

/-- The `width` bytes of `n`, least significant first. -/
def toLE : Nat → Nat → List UInt8
  | 0, _ => []
  | w + 1, n => UInt8.ofNat (n % 256) :: toLE w (n / 256)

/-- The `width` bytes of `n`, most significant first. -/
def toBE (width n : Nat) : List UInt8 :=
  (toLE width n).reverse

/-- The `n` bytes from position `start` on; fewer where the bytes end. -/
def slice (bytes : List UInt8) (start n : Nat) : List UInt8 :=
  (bytes.drop start).take n

@[simp] theorem le_nil : le [] = 0 := rfl

@[simp] theorem le_cons (b : UInt8) (bytes : List UInt8) :
    le (b :: bytes) = b.toNat + 256 * le bytes := rfl

@[simp] theorem length_toLE (w n : Nat) : (toLE w n).length = w := by
  induction w generalizing n with
  | zero => rfl
  | succ w inductionHypothesis => simp [toLE, inductionHypothesis]

/-- Little-endian bytes read back to the number modulo `256 ^ width`. -/
theorem le_toLE (w n : Nat) : le (toLE w n) = n % 256 ^ w := by
  induction w generalizing n with
  | zero => simp [toLE, Nat.mod_one]
  | succ w inductionHypothesis =>
    simp only [toLE, le_cons, inductionHypothesis]
    rw [Nat.pow_succ', Nat.mod_mul, UInt8.toNat_ofNat', Nat.mod_mod_of_dvd _ (by decide)]

end AssetStore.Bytes
