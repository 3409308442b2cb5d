import AssetStore.Bytes
import AssetStore.Error
import AssetStore.Key
import AssetStore.Text.Utf8
/-!
# Byte streams and typed reads

A byte stream has a length, a read position between zero and the length, a read of up to `n`
bytes that advances the position past what it got, and a move to any position up to the end.
Every typed read of the store is built from these four operations, so it behaves alike on a
flat byte string and on a stream stitched from several ranges.

A typed read runs in `Reading σ`: it either yields a value or fails with an `Error`, and in both
cases the stream is left where the read put it. The rules on the position after a failure are:

* a fixed-width number that runs short leaves the position where it was;
* a byte string or key that runs short consumes all that was left;
* a skip past the end, or too far for a signed 64-bit seek, moves nothing.

Numbers are read in either byte order (`Endian`); a text runs to a NUL byte, which is consumed
and dropped, or to the end, and ill-formed UTF-8 in it becomes U+FFFD.
-/

namespace AssetStore

/-- A stream of bytes read from a movable position. -/
class ByteStream (σ : Type) where
  /-- The read position. -/
  position : σ → Nat
  /-- The number of bytes in the stream. -/
  length : σ → Nat
  /-- Reads up to `n` bytes from the position and moves past them. -/
  read : σ → Nat → List UInt8 × σ
  /-- Moves the read position to `p`, which is at most the length. -/
  moveTo : σ → Nat → σ

/-- Byte order of a fixed-width number. -/
inductive Endian
  /-- Least significant byte first. -/
  | little
  /-- Most significant byte first. -/
  | big
  deriving DecidableEq, Repr

/-- The number that bytes denote in a byte order. -/
def Endian.value : Endian → List UInt8 → Nat
  | .little, bytes => Bytes.le bytes
  | .big, bytes => Bytes.be bytes

/-- A read from a byte stream: a value or an error, with the stream where the read left it. -/
abbrev Reading (σ : Type) := ExceptT Error (StateM σ)

namespace Reading

variable {σ : Type} [ByteStream σ]

def run {α : Type} (r : Reading σ α) (s : σ) : Except Error α × σ :=
  (ExceptT.run r).run s

def position : Reading σ Nat := do
  return ByteStream.position (← get)

/-- The bytes between the position and the end. -/
def remaining : Reading σ Nat := do
  let s ← get
  return ByteStream.length s - ByteStream.position s

/-- Up to `n` bytes, fewer only at the end. -/
def upTo (n : Nat) : Reading σ (List UInt8) :=
  modifyGet fun s => ByteStream.read s n

/-- Everything from the position to the end. -/
def toEnd : Reading σ (List UInt8) := do
  upTo (← remaining)

/-- Exactly `n` bytes; when fewer remain, all of them are consumed and the read fails. -/
def exact (n : Nat) : Reading σ (List UInt8) := do
  let got ← upTo n
  if got.length < n then throw (.io .endOfInput) else pure got

/-- A number of `width` bytes in a byte order; when it runs short the position stays. -/
def number (endian : Endian) (width : Nat) : Reading σ Nat := do
  let start ← position
  let got ← upTo width
  if got.length < width then
    modify fun s => ByteStream.moveTo s start
    throw (.io .endOfInput)
  else pure (endian.value got)

def u8 : Reading σ Nat := number .little 1

def u16 (endian : Endian) : Reading σ Nat := number endian 2

def u32 (endian : Endian) : Reading σ Nat := number endian 4

def u64 (endian : Endian) : Reading σ Nat := number endian 8

/-- Bytes up to a NUL byte or the end, one at a time, for at most `fuel` bytes. -/
def untilNul : Nat → Reading σ (List UInt8)
  | 0 => pure []
  | fuel + 1 => do
    match ← upTo 1 with
    | [] => pure []
    | 0 :: _ => pure []
    | b :: _ => return b :: (← untilNul fuel)

/-- A text that ends at a NUL byte, consumed and dropped, or at the end of the stream. -/
def cstring : Reading σ String := do
  let bytes ← untilNul ((← remaining) + 1)
  return Text.Utf8.decodeLossy bytes

def bytes (n : Nat) : Reading σ (List UInt8) := exact n

/-- A key of exactly `n` bytes; no bytes make no key. -/
def key (n : Nat) : Reading σ Key := do
  let got ← exact n
  match Key.ofBytes got with
  | .ok k => pure k
  | .error e => throw e

/-- Moves `n` bytes on; when fewer remain, nothing moves and the skip fails. The move is a
signed 64-bit seek, so a distance of `2 ^ 63` or more is refused, also without moving. -/
def skip (n : Nat) : Reading σ Unit := do
  let left ← remaining
  if left < n then throw (.io (.skipPastEnd n))
  else if 2 ^ 63 ≤ n then throw (.invalidArgument s!"seek distance {n} out of range")
  else
    let here ← position
    modify fun s => ByteStream.moveTo s (here + n)

end Reading

end AssetStore
