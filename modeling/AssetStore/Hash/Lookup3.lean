import AssetStore.Text.Hex
/-!
# Jenkins lookup3

Bob Jenkins' `hashlittle2` over a byte string. Three 32-bit lanes start from `0xdeadbeef`, the
length and two seeds; each full block of twelve bytes is added to the lanes as three
little-endian words and stirred by `mix`; the last one to twelve bytes are zero-padded and
finished by `final`. Lane `c` is the primary hash and lane `b` the secondary one. All arithmetic
wraps at `2 ^ 32`, as the words do.

* `hash2 data pc pb` — the two lanes `(c, b)` after hashing with seeds `pc` and `pb`.
* `hash data seed` — the primary lane alone, with the secondary seed zero.
* `hash64 data` — `c <<< 32 ||| b` with both seeds zero: the 64-bit filename hash.
* `display hash64 hash32` — the text of a hash pair.
-/

namespace AssetStore.Hash.Lookup3

/-- The three running lanes. -/
structure Lanes where
  a : UInt32
  b : UInt32
  c : UInt32
  deriving DecidableEq, Repr

/-- Rotation to the left by `k` bits, for `0 < k < 32`. -/
def rot (x k : UInt32) : UInt32 :=
  (x <<< k) ||| (x >>> (32 - k))

/-- The little-endian word of four bytes, the first byte lowest. -/
def word (x0 x1 x2 x3 : UInt8) : UInt32 :=
  x0.toUInt32 ||| (x1.toUInt32 <<< 8) ||| (x2.toUInt32 <<< 16) ||| (x3.toUInt32 <<< 24)

/-- The reversible mixing round applied after each full block but the last. -/
def mix (s : Lanes) : Lanes :=
  let a := s.a - s.c
  let a := a ^^^ rot s.c 4
  let c := s.c + s.b
  let b := s.b - a
  let b := b ^^^ rot a 6
  let a := a + c
  let c := c - b
  let c := c ^^^ rot b 8
  let b := b + a
  let a := a - c
  let a := a ^^^ rot c 16
  let c := c + b
  let b := b - a
  let b := b ^^^ rot a 19
  let a := a + c
  let c := c - b
  let c := c ^^^ rot b 4
  let b := b + a
  ⟨a, b, c⟩

/-- The final avalanche, applied once after the last block. -/
def final (s : Lanes) : Lanes :=
  let c := s.c ^^^ s.b
  let c := c - rot s.b 14
  let a := s.a ^^^ c
  let a := a - rot c 11
  let b := s.b ^^^ a
  let b := b - rot a 25
  let c := c ^^^ b
  let c := c - rot b 16
  let a := a ^^^ c
  let a := a - rot c 4
  let b := b ^^^ a
  let b := b - rot a 14
  let c := c ^^^ b
  let c := c - rot b 24
  ⟨a, b, c⟩

/-- Adds a block of at most twelve bytes, zero-padded to twelve, as three words. -/
def absorb (s : Lanes) (block : List UInt8) : Lanes :=
  let byteAt (i : Nat) : UInt8 := block.getD i 0
  ⟨s.a + word (byteAt 0) (byteAt 1) (byteAt 2) (byteAt 3),
   s.b + word (byteAt 4) (byteAt 5) (byteAt 6) (byteAt 7),
   s.c + word (byteAt 8) (byteAt 9) (byteAt 10) (byteAt 11)⟩

/-- Absorbs a non-empty input: full blocks are mixed while more than twelve bytes remain, and
the last one to twelve bytes are finished by `final`. -/
def run : Lanes → List UInt8 → Lanes
  | s, x0 :: x1 :: x2 :: x3 :: x4 :: x5 :: x6 :: x7 :: x8 :: x9 :: x10 :: x11 :: x12 :: rest =>
    run (mix (absorb s [x0, x1, x2, x3, x4, x5, x6, x7, x8, x9, x10, x11])) (x12 :: rest)
  | s, last => final (absorb s last)

/-- The input length as the hash sees it: saturated at the largest 32-bit word. -/
def lengthWord (data : List UInt8) : UInt32 :=
  UInt32.ofNat (min data.length 0xFFFFFFFF)

/-- The lanes before any byte is added. -/
def seed (data : List UInt8) (pc pb : UInt32) : Lanes :=
  let start := 0xdeadbeef + lengthWord data + pc
  ⟨start, start, start + pb⟩

/-- The primary and secondary lanes `(c, b)`; an empty input is not mixed at all. -/
def hash2 (data : List UInt8) (pc pb : UInt32) : UInt32 × UInt32 :=
  let s := seed data pc pb
  match data with
  | [] => (s.c, s.b)
  | _ :: _ => let t := run s data; (t.c, t.b)

/-- The primary lane with the secondary seed zero. -/
def hash (data : List UInt8) (initval : UInt32) : UInt32 :=
  (hash2 data initval 0).1

/-- The 64-bit hash with both seeds zero: primary lane high, secondary lane low. -/
def hash64 (data : List UInt8) : UInt64 :=
  let (c, b) := hash2 data 0 0
  (c.toUInt64 <<< 32) ||| b.toUInt64

/-- The text of a hash pair: the 64-bit hash and the 32-bit hash in lowercase hex, zero-padded
to 16 and 8 digits, joined by a colon. -/
def display (hash64 : UInt64) (hash32 : UInt32) : String :=
  Text.Hex.padded 16 hash64.toNat ++ ":" ++ Text.Hex.padded 8 hash32.toNat

end AssetStore.Hash.Lookup3
