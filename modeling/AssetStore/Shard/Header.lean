import AssetStore.Bytes
import AssetStore.Error
/-!
# Block headers

Each block of a shard file starts with a 30-byte header: a 16-byte hash, stored and not
checked, the size of the whole block (header included) as a 32-bit little-endian number, and
10 reserved bytes. The payload follows the header.

A header is refused when fewer than 30 bytes are given, or when its block size is smaller than
the header itself. Read without those checks (`BlockHeader.read?`), an undersized block has an
empty payload.
-/

namespace AssetStore

def blockHeaderSize : Nat := 30

/-- The header in front of a block. -/
structure BlockHeader where
  hash : List UInt8
  blockSize : Nat
  reserved : List UInt8
  deriving DecidableEq, Repr

namespace BlockHeader

/-- Why a header was refused. -/
inductive Fault
  /-- Only `available` bytes were given. -/
  | short (available : Nat)
  /-- The block is declared smaller than its header. -/
  | undersized (blockSize : Nat)
  deriving DecidableEq, Repr

/-- The refusal as an error of the store. -/
def Fault.toError : Fault → Error
  | .short available => .malformed .blockHeader s!"need {blockHeaderSize} bytes, got {available}"
  | .undersized size =>
    .malformed .blockHeader s!"block size {size} smaller than header ({blockHeaderSize})"

/-- The header at the start of some bytes, without checking its block size. -/
def read? (data : List UInt8) : Option BlockHeader :=
  if blockHeaderSize ≤ data.length then
    some { hash := data.take 16
           blockSize := Bytes.le (Bytes.slice data 16 4)
           reserved := Bytes.slice data 20 10 }
  else none

/-- The header at the start of some bytes, checked. -/
def parse (data : List UInt8) : Except Fault BlockHeader :=
  match read? data with
  | none => .error (.short data.length)
  | some h => if h.blockSize < blockHeaderSize then .error (.undersized h.blockSize) else .ok h

/-- The size of the payload: the block size less the header, and zero for an undersized one. -/
def dataSize (h : BlockHeader) : Nat := h.blockSize - blockHeaderSize

/-- Where the payload of a header read at `offset` starts, capped at the largest 64-bit offset. -/
def dataStart (_h : BlockHeader) (offset : Nat) : Nat :=
  min (offset + blockHeaderSize) (2 ^ 64 - 1)

end BlockHeader

end AssetStore
