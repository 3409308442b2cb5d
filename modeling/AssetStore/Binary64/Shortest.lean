import AssetStore.Binary64.Basic
/-!
# Shortest decimals of binary64 values

A finite value stands for the interval of reals that round to it: from halfway to the value
below to halfway to the value above, ends included exactly when the significand is even. Below
a power of two the value below is half as far as the value above.

`Binary64.shortest` picks, among the decimals with the fewest significant digits that lie in that
interval, the one nearest to the value, and of two equally near the one whose last digit is
even. The search tries one digit, then two, and so on: on each grid `10 ^ e` it tests the two
grid points around the value. If any point of a grid lies in the interval then one of those two
does, so the first grid with a hit has the fewest digits.

`Binary64.text` lays the digits out: positionally, with `.0` after a whole number, when the
magnitude is at least `1e-4` and below `1e16`; otherwise in scientific form with a signed
exponent, `d.ddde-7` or `d.ddde+16`, without a fraction for one digit (`1e+100`).
-/

namespace AssetStore

/-- `digits * 10 ^ exponent`. -/
structure Decimal where
  digits : Nat
  exponent : Int
  deriving DecidableEq, Repr

/-- Moves trailing zeros of the digits into the exponent, for at most `fuel` digits. -/
def Decimal.strip : Decimal → Nat → Decimal
  | d, 0 => d
  | d, fuel + 1 =>
    if d.digits != 0 && d.digits % 10 == 0 then Decimal.strip ⟨d.digits / 10, d.exponent + 1⟩ fuel
    else d

namespace Binary64

/-- Compares `a * 10 ^ i` with `n * 2 ^ j`, exactly. -/
def compareScaled (a : Nat) (i : Int) (n : Nat) (j : Int) : Ordering :=
  compare (a * 10 ^ i.toNat * 2 ^ (-j).toNat) (n * 2 ^ j.toNat * 10 ^ (-i).toNat)

/-- Whether a decimal lies among the reals that round to the magnitude of `x`. -/
def readsBack (x : Binary64) (d : Decimal) : Bool :=
  let narrow := x.m == 2 ^ 52 && -1074 < x.q
  let lo := if narrow then 4 * x.m - 1 else 4 * x.m - 2
  let hi := 4 * x.m + 2
  let inclusive := x.m % 2 == 0
  let below := compareScaled d.digits d.exponent lo (x.q - 2)
  let above := compareScaled d.digits d.exponent hi (x.q - 2)
  (below == .gt || (inclusive && below == .eq)) && (above == .lt || (inclusive && above == .eq))

/-- Whether `10 ^ k` exceeds the magnitude of `x`. -/
def belowPowerOfTen (x : Binary64) (k : Int) : Bool :=
  compareScaled 1 k x.m x.q == .gt

/-- The least `k` with magnitude below `10 ^ k`, searched upwards from `start` for at most
`fuel` steps. -/
def scaleFrom (x : Binary64) (start : Int) : Nat → Int
  | 0 => start
  | fuel + 1 => if x.belowPowerOfTen start then start else x.scaleFrom (start + 1) fuel

/-- The least `k` with magnitude below `10 ^ k`, for a positive magnitude. The binary
logarithm puts it within a few steps above `(log2 m + q) * 3 / 10 - 3`. -/
def scale (x : Binary64) : Int :=
  let log2 : Int := (x.m.log2 : Int) + x.q
  x.scaleFrom (log2 * 3 / 10 - 3) 10

/-- The nearer of the grid points `a * 10 ^ e` and `(a + 1) * 10 ^ e` to the magnitude of `x`
that reads back, the even one on a tie. -/
def pick (x : Binary64) (a : Nat) (e : Int) : Option Nat :=
  let low := x.readsBack ⟨a, e⟩
  let high := x.readsBack ⟨a + 1, e⟩
  if low && high then
    -- twice the magnitude against the sum of the two points
    match compareScaled (2 * a + 1) e (2 * x.m) x.q with
    | .gt => some a
    | .lt => some (a + 1)
    | .eq => if a % 2 == 0 then some a else some (a + 1)
  else if low then some a
  else if high then some (a + 1)
  else none

/-- The grid point at or below the magnitude of `x` on the grid `10 ^ e`. -/
def floorOnGrid (x : Binary64) (e : Int) : Nat :=
  let (num, den) := x.fraction
  if 0 ≤ e then num / (den * 10 ^ e.toNat) else num * 10 ^ (-e).toNat / den

/-- The first grid, with `n`, `n + 1`, … significant digits, that has a point reading back. -/
def search (x : Binary64) (k : Int) (n : Nat) : Nat → Option Decimal
  | 0 => none
  | fuel + 1 =>
    let e := k - n
    match x.pick (x.floorOnGrid e) e with
    | some digits => some ⟨digits, e⟩
    | none => x.search k (n + 1) fuel

/-- The shortest decimal of the magnitude of a non-zero value, nearest of those; the exact
value should no grid within seventeen digits have a hit. -/
def shortest (x : Binary64) : Decimal :=
  let found := match x.search x.scale 1 17 with
    | some d => d
    | none => ⟨x.m * 5 ^ (-x.q).toNat * 2 ^ x.q.toNat, min x.q 0⟩
  Decimal.strip found 20

def digitText (n : Nat) : String := toString n

def zeros (n : Nat) : String := String.ofList (List.replicate n '0')

/-- The exponent of a scientific form: `+` before one that is not negative. -/
def exponentText (e : Int) : String :=
  if 0 ≤ e then "+" ++ toString e else toString e

/-- The text of a value: shortest digits, positional or scientific as described above. The
first digit stands for `10 ^ (kk - 1)`, so the magnitude lies in `[1e-4, 1e16)` exactly when
`-3 ≤ kk ≤ 16`. -/
def text (x : Binary64) : String :=
  let sign := if x.negative then "-" else ""
  if x.isZero then sign ++ "0.0"
  else
    let d := x.shortest
    let ds := digitText d.digits
    let length : Int := ds.length
    let k := d.exponent
    let kk := length + k
    let body :=
      if 0 ≤ k ∧ kk ≤ 16 then ds ++ zeros k.toNat ++ ".0"
      else if 0 < kk ∧ kk ≤ 16 then
        String.ofList (ds.toList.take kk.toNat) ++ "." ++ String.ofList (ds.toList.drop kk.toNat)
      else if -3 ≤ kk ∧ kk ≤ 0 then "0." ++ zeros (-kk).toNat ++ ds
      else if ds.length == 1 then ds ++ "e" ++ exponentText (kk - 1)
      else
        String.ofList (ds.toList.take 1) ++ "." ++ String.ofList (ds.toList.drop 1) ++ "e" ++
          exponentText (kk - 1)
    sign ++ body

end Binary64

end AssetStore
