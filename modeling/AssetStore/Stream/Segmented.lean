import AssetStore.Stream.Basic
/-!
# Segmented streams

A segmented stream presents several byte ranges, each a window of some source bytes, as one
stream: position zero is the first byte of the first range and the stream ends after the last
byte of the last. Empty ranges are dropped when the stream is built.

A range is checked when it is made: its end, `skip + length`, must not overflow a 64-bit size
and must not pass the end of its source. A range whose fields were set by hand is clamped to its
source instead.

The stream keeps where each range starts. Reading finds the range that holds the position by
searching those starts, takes from it what it can, and goes on from the next position until
enough is read or the stream ends. A seek aims at an exact integer target, from the start, the
end or the current position; a target outside `[0, length]` is refused and the position stays.
-/

namespace AssetStore

/-- A window of `length` bytes of `source`, from `skip` on. -/
structure Segment where
  source : List UInt8
  skip : Nat
  length : Nat
  deriving DecidableEq, Repr

namespace Segment

/-- A range that must fit its source and whose end must fit in 64 bits. -/
def make (source : List UInt8) (skip length : Nat) : Except Error Segment :=
  let finish := skip + length
  if 2 ^ 64 ≤ finish then
    .error (.invalidArgument s!"segment range {skip}+{length} overflows")
  else if source.length < finish then
    .error (.invalidArgument
      s!"segment range {skip}..{finish} exceeds source of {source.length} bytes")
  else .ok ⟨source, skip, length⟩

def whole (source : List UInt8) : Segment := ⟨source, 0, source.length⟩

/-- A range over all of a source shorter than `2 ^ 64` bytes passes the checks. -/
theorem make_whole (source : List UInt8) (short : source.length < 2 ^ 64) :
    make source 0 source.length = .ok (whole source) := by
  unfold make
  rw [if_neg (by omega), if_neg (by omega)]
  rfl

/-- The bytes of the range, clamped to its source. -/
def bytes (s : Segment) : List UInt8 :=
  let finish := min (min (s.skip + s.length) (2 ^ 64 - 1)) s.source.length
  (s.source.take finish).drop s.skip

end Segment

/-- Where a seek counts from. -/
inductive SeekFrom
  /-- From the start of the stream. -/
  | start (offset : Nat)
  /-- From the end of the stream. -/
  | fromEnd (delta : Int)
  /-- From the read position. -/
  | current (delta : Int)
  deriving DecidableEq, Repr

/-- Non-empty byte ranges read as one stream, with where each range starts in the stream, the
stream's length and the read position. -/
structure SegmentedStream where
  /-- The non-empty ranges, in order. -/
  segments : List (List UInt8)
  /-- The position in the stream of the first byte of each range. -/
  starts : List Nat
  /-- The number of bytes in all ranges. -/
  total : Nat
  pos : Nat
  deriving DecidableEq, Repr

/-- The number of leading elements that pass a test. On a list whose elements pass it up to some
point and fail it from there on, this is that point, where a binary search for it lands. -/
def partitionPoint {α : Type} (p : α → Bool) (xs : List α) : Nat :=
  (xs.takeWhile p).length

namespace SegmentedStream

def empty : SegmentedStream := ⟨[], [], 0, 0⟩

/-- Adds a range after the others, starting where they end; an empty range is dropped. -/
def addSegment (r : SegmentedStream) (bytes : List UInt8) : SegmentedStream :=
  if bytes.isEmpty then r
  else { r with segments := r.segments ++ [bytes], starts := r.starts ++ [r.total],
                total := r.total + bytes.length }

/-- The stream of some ranges, in order, without the empty ones, at position zero. -/
def ofSegments (segments : List Segment) : SegmentedStream :=
  (segments.map Segment.bytes).foldl addSegment empty

/-- The stream of one byte string: one range, or none when it is empty. -/
def ofBytes (bytes : List UInt8) : SegmentedStream := ofSegments [Segment.whole bytes]

def length (r : SegmentedStream) : Nat := r.total

def isEmpty (r : SegmentedStream) : Bool := r.total == 0

/-- The number of non-empty ranges. -/
def segmentCount (r : SegmentedStream) : Nat := r.segments.length

/-- All bytes of the stream, whatever the position. -/
def toBytes (r : SegmentedStream) : List UInt8 := r.segments.flatten

/-- The range holding a position: the last one that starts at or before it. There is none at
or past the end of the stream. -/
def locate (r : SegmentedStream) (pos : Nat) : Option Nat :=
  if r.total ≤ pos then none
  else some (partitionPoint (· ≤ pos) r.starts - 1)

/-- Reads up to `want` bytes from the position, a range at a time: the range holding the
position gives the bytes from the position to its end, as many as are still wanted. A read that
reaches the end of the stream stops there. -/
def readFrom (r : SegmentedStream) (want : Nat) : List UInt8 × SegmentedStream :=
  if want = 0 then ([], r)
  else
    match r.locate r.pos with
    | none => ([], r)
    | some idx =>
      let available := (r.segments.getD idx []).drop (r.pos - r.starts.getD idx 0)
      let n := min available.length want
      -- ranges are never empty, so a located range has bytes left and `n` is positive; the
      -- test only makes the end of the loop evident
      if n = 0 then ([], r)
      else
        let (rest, r') := readFrom { r with pos := r.pos + n } (want - n)
        (available.take n ++ rest, r')
termination_by want
decreasing_by exact Nat.sub_lt (Nat.pos_of_ne_zero ‹_›) (Nat.pos_of_ne_zero ‹_›)

/-- Reads up to `n` bytes from the position. -/
def read (r : SegmentedStream) (n : Nat) : List UInt8 × SegmentedStream :=
  r.readFrom n

instance : ByteStream SegmentedStream where
  position r := r.pos
  length := length
  read := read
  moveTo r p := { r with pos := p }

/-- The exact target of a seek. -/
def target (r : SegmentedStream) : SeekFrom → Int
  | .start offset => offset
  | .fromEnd delta => r.total + delta
  | .current delta => r.pos + delta

/-- Moves to the target of a seek, refusing one outside the stream. -/
def seek (r : SegmentedStream) (origin : SeekFrom) : Except IoError SegmentedStream :=
  let t := r.target origin
  if t < 0 ∨ r.total < t then .error (.seekOutside t r.total)
  else .ok { r with pos := t.toNat }

end SegmentedStream

end AssetStore
