import AssetStore.Prelude
/-!
# MD5

The MD5 digest (RFC 1321) of a byte string: the message is padded with `0x80`, zeros and its
bit length as a little-endian 64-bit word to a multiple of 64 bytes; each 64-byte block is read
as sixteen little-endian words and folded into four 32-bit lanes by 64 steps; the digest is the
four lanes written little-endian.

* `digest bytes` — the sixteen digest bytes.
-/

namespace AssetStore.Hash.Md5

/-- The four running lanes. -/
structure Lanes where
  a : UInt32
  b : UInt32
  c : UInt32
  d : UInt32
  deriving DecidableEq, Repr

def initial : Lanes := ⟨0x67452301, 0xefcdab89, 0x98badcfe, 0x10325476⟩

/-- The additive constants, `floor (2 ^ 32 * |sin (i + 1)|)`. -/
def constants : Array UInt32 := #[
  0xd76aa478, 0xe8c7b756, 0x242070db, 0xc1bdceee, 0xf57c0faf, 0x4787c62a, 0xa8304613, 0xfd469501,
  0x698098d8, 0x8b44f7af, 0xffff5bb1, 0x895cd7be, 0x6b901122, 0xfd987193, 0xa679438e, 0x49b40821,
  0xf61e2562, 0xc040b340, 0x265e5a51, 0xe9b6c7aa, 0xd62f105d, 0x02441453, 0xd8a1e681, 0xe7d3fbc8,
  0x21e1cde6, 0xc33707d6, 0xf4d50d87, 0x455a14ed, 0xa9e3e905, 0xfcefa3f8, 0x676f02d9, 0x8d2a4c8a,
  0xfffa3942, 0x8771f681, 0x6d9d6122, 0xfde5380c, 0xa4beea44, 0x4bdecfa9, 0xf6bb4b60, 0xbebfbc70,
  0x289b7ec6, 0xeaa127fa, 0xd4ef3085, 0x04881d05, 0xd9d4d039, 0xe6db99e5, 0x1fa27cf8, 0xc4ac5665,
  0xf4292244, 0x432aff97, 0xab9423a7, 0xfc93a039, 0x655b59c3, 0x8f0ccc92, 0xffeff47d, 0x85845dd1,
  0x6fa87e4f, 0xfe2ce6e0, 0xa3014314, 0x4e0811a1, 0xf7537e82, 0xbd3af235, 0x2ad7d2bb, 0xeb86d391]

/-- The rotation amounts, four per round. -/
def shifts : Array UInt32 := #[7, 12, 17, 22, 5, 9, 14, 20, 4, 11, 16, 23, 6, 10, 15, 21]

/-- Rotation to the left by `k` bits, for `0 < k < 32`. -/
def rotl (x k : UInt32) : UInt32 :=
  (x <<< k) ||| (x >>> (32 - k))

/-- The little-endian word at word index `i` of a block. -/
def blockWord (block : List UInt8) (i : Nat) : UInt32 :=
  let byteAt (j : Nat) : UInt32 := (block.getD (4 * i + j) 0).toUInt32
  byteAt 0 ||| (byteAt 1 <<< 8) ||| (byteAt 2 <<< 16) ||| (byteAt 3 <<< 24)

/-- Step `i` of the 64 steps of one block. -/
def step (block : List UInt8) (s : Lanes) (i : Nat) : Lanes :=
  let round := i / 16
  let (f, g) :=
    if round = 0 then ((s.b &&& s.c) ||| (~~~s.b &&& s.d), i)
    else if round = 1 then ((s.d &&& s.b) ||| (~~~s.d &&& s.c), (5 * i + 1) % 16)
    else if round = 2 then (s.b ^^^ s.c ^^^ s.d, (3 * i + 5) % 16)
    else (s.c ^^^ (s.b ||| ~~~s.d), (7 * i) % 16)
  let sum := s.a + f + constants.getD i 0 + blockWord block g
  ⟨s.d, s.b + rotl sum (shifts.getD (4 * round + i % 4) 0), s.b, s.c⟩

/-- Folds one 64-byte block into the lanes. -/
def compress (s : Lanes) (block : List UInt8) : Lanes :=
  let t := (List.range 64).foldl (step block) s
  ⟨s.a + t.a, s.b + t.b, s.c + t.c, s.d + t.d⟩

/-- The little-endian bytes of a word of `width` bytes. -/
def littleEndian (width : Nat) (n : Nat) : List UInt8 :=
  (List.range width).map fun i => UInt8.ofNat (n / 256 ^ i % 256)

/-- The message followed by its padding: `0x80`, zeros up to 56 modulo 64, the bit length. -/
def pad (message : List UInt8) : List UInt8 :=
  let zeros := (119 - message.length % 64) % 64
  message ++ [0x80] ++ List.replicate zeros 0 ++ littleEndian 8 (8 * message.length % 2 ^ 64)

/-- Folds at most `fuel` blocks of a padded message into the lanes, 64 bytes at a time. -/
def compressBlocks : Nat → Lanes → List UInt8 → Lanes
  | 0, s, _ => s
  | _ + 1, s, [] => s
  | fuel + 1, s, bytes@(_ :: _) => compressBlocks fuel (compress s (bytes.take 64)) (bytes.drop 64)

/-- Folds all blocks of a padded message: a message of `n` bytes has at most `n` blocks. -/
def compressAll (s : Lanes) (bytes : List UInt8) : Lanes :=
  compressBlocks bytes.length s bytes

/-- The sixteen bytes of the MD5 digest. -/
def digest (message : List UInt8) : List UInt8 :=
  let s := compressAll initial (pad message)
  [s.a, s.b, s.c, s.d].flatMap fun w => littleEndian 4 w.toNat

theorem length_digest (message : List UInt8) : (digest message).length = 16 := by
  simp [digest, littleEndian]

end AssetStore.Hash.Md5
