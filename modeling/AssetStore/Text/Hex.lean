import AssetStore.Prelude
/-!
# Lowercase hexadecimal text

Bytes are written as two lowercase hex digits each. Reading hex text works on its bytes: an odd
number of bytes is refused first; then each byte must be an ASCII hex digit of either case, and
the first that is not is reported with its byte position. The refused byte is shown as the
character of the same number (Latin-1), so the first byte of `é` shows as `Ã`.

* `encode`, `decode` — bytes to text and back.
* `padded w n` — `n` in lowercase hex, zero-padded to at least `w` digits.
-/

namespace AssetStore.Text.Hex

/-- The lowercase hex digit of a number below sixteen. -/
def digit (n : Nat) : Char :=
  if n < 10 then Char.ofNat (48 + n) else Char.ofNat (87 + n)

/-- The lowercase hex digits of `n`, most significant first, without leading zeros. -/
def digits (n : Nat) : List Char :=
  if n < 16 then [digit n] else digits (n / 16) ++ [digit (n % 16)]
termination_by n
decreasing_by omega

/-- `n` in lowercase hex, with at least `width` digits. -/
def padded (width : Nat) (n : Nat) : String :=
  let ds := digits n
  String.ofList (List.replicate (width - ds.length) '0' ++ ds)

/-- `n` in lowercase hex without padding. -/
def natural (n : Nat) : String :=
  String.ofList (digits n)

/-- The two lowercase hex digits of a byte. -/
def byte (b : UInt8) : String :=
  padded 2 b.toNat

/-- Bytes as lowercase hex text, two digits per byte. -/
def encode (bytes : List UInt8) : String :=
  String.join (bytes.map byte)

/-- Why hex text was refused. -/
inductive DecodeError
  /-- The text has an odd number of bytes. -/
  | oddLength
  /-- The byte at `position` is not a hex digit. -/
  | invalidCharacter (value : UInt8) (position : Nat)
  deriving DecidableEq, Repr

/-- The value of an ASCII hex digit of either case. -/
def digitValue? (b : UInt8) : Option UInt8 :=
  if 48 ≤ b ∧ b ≤ 57 then some (b - 48)
  else if 97 ≤ b ∧ b ≤ 102 then some (b - 87)
  else if 65 ≤ b ∧ b ≤ 70 then some (b - 55)
  else none

/-- Reads pairs of digits from byte position `position` on. -/
def decodePairs (position : Nat) : List UInt8 → Except DecodeError (List UInt8)
  | hi :: lo :: rest => do
    let h ← (digitValue? hi).elim (.error (.invalidCharacter hi position)) .ok
    let l ← (digitValue? lo).elim (.error (.invalidCharacter lo (position + 1))) .ok
    let tail ← decodePairs (position + 2) rest
    pure ((h <<< 4 ||| l) :: tail)
  | [] | [_] => pure []

/-- Hex text, given as its bytes, read back to bytes. -/
def decode (text : List UInt8) : Except DecodeError (List UInt8) :=
  if text.length % 2 = 1 then .error .oddLength else decodePairs 0 text

end AssetStore.Text.Hex
