import AssetStore.Prelude
/-!
# Binary64 values

A finite binary64 value is a sign and a magnitude `m * 2 ^ q` with `m < 2 ^ 53` and
`-1074 ≤ q ≤ 971`; in canonical form `m ≥ 2 ^ 52` unless `q = -1074` (the subnormal range).
Every operation here is exact arithmetic on naturals followed by one rounding to the nearest
value, ties to the even significand, as binary64 arithmetic demands. A magnitude that rounds to
`2 ^ 1024` or more does not exist; `round?` answers `none` for it.

* `Binary64.round?` — the nearest value to a non-negative fraction.
* `Binary64.ofNat?`, `add?`, `mul?`, `div?` — conversion and the operations, each rounded once.
* `Binary64.lt` — the order of the values (the two zeros are equal).
-/

namespace AssetStore

/-- A finite binary64 value: `(-1) ^ negative * m * 2 ^ q`. -/
structure Binary64 where
  negative : Bool
  m : Nat
  q : Int
  deriving DecidableEq, Repr

namespace Binary64

def zero : Binary64 := ⟨false, 0, -1074⟩

def isZero (x : Binary64) : Bool := x.m == 0

def neg (x : Binary64) : Binary64 := { x with negative := !x.negative }

/-- `num / den` rounded to the nearest natural, ties to the even one. -/
def roundHalfEven (num den : Nat) : Nat :=
  let quotient := num / den
  let twice := 2 * (num % den)
  if twice < den then quotient
  else if den < twice then quotient + 1
  else if quotient % 2 == 0 then quotient else quotient + 1

/-- `num * 2 ^ shift` as a pair of naturals whose quotient it is. -/
def scaled (num den : Nat) (shift : Int) : Nat × Nat :=
  if 0 ≤ shift then (num * 2 ^ shift.toNat, den) else (num, den * 2 ^ (-shift).toNat)

/-- The greatest `t` with `2 ^ t ≤ num / den`, for positive `num` and `den`. -/
def floorLog2 (num den : Nat) : Int :=
  let t : Int := (num.log2 : Int) - den.log2
  let (a, b) := scaled den 1 t
  -- `den * 2 ^ t ≤ num` decides between `t` and `t - 1`
  if num * b < a then t - 1 else t

/-- The nearest binary64 magnitude to `num / den`, or `none` when it overflows. -/
def round? (negative : Bool) (num den : Nat) : Option Binary64 :=
  if num == 0 || den == 0 then some ⟨negative, 0, -1074⟩
  else
    let q := max (-1074) (floorLog2 num den - 52)
    let (a, b) := scaled num den (-q)
    let m := roundHalfEven a b
    let (m, q) := if m == 2 ^ 53 then (2 ^ 52, q + 1) else (m, q)
    if 971 < q then none else some ⟨negative, m, q⟩

/-- The exact value as a fraction `num / den` of naturals, without its sign. -/
def fraction (x : Binary64) : Nat × Nat := scaled x.m 1 x.q

def ofNat? (n : Nat) : Option Binary64 := round? false n 1

/-- The signed value `x` as a numerator over the denominator of `fraction`. -/
def numerator (x : Binary64) : Int :=
  if x.negative then -(x.fraction.1 : Int) else x.fraction.1

/-- The sum, rounded once; an exact zero is negative only when both terms are. -/
def add? (x y : Binary64) : Option Binary64 :=
  let (_, b) := x.fraction
  let (_, d) := y.fraction
  let s := x.numerator * d + y.numerator * b
  if s == 0 then some ⟨x.negative && y.negative, 0, -1074⟩
  else round? (s < 0) s.natAbs (b * d)

/-- Whether `x` is below `y`. -/
def lt (x y : Binary64) : Bool :=
  x.numerator * y.fraction.2 < y.numerator * x.fraction.2

/-- The product, rounded once. -/
def mul? (x y : Binary64) : Option Binary64 :=
  let (a, b) := x.fraction
  let (c, d) := y.fraction
  round? (x.negative != y.negative) (a * c) (b * d)

/-- The quotient, rounded once; `none` also for a zero divisor. -/
def div? (x y : Binary64) : Option Binary64 :=
  if y.isZero then none
  else
    let (a, b) := x.fraction
    let (c, d) := y.fraction
    round? (x.negative != y.negative) (a * d) (b * c)

def powerOfTen (k : Nat) : Binary64 := (round? false (10 ^ k) 1).getD zero

end Binary64

end AssetStore
