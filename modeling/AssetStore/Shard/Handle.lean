import AssetStore.Disk.Access
import AssetStore.Index.Entry
import AssetStore.Shard.Header
import AssetStore.Stream.Segmented
import AssetStore.Text.Escape
/-!
# Shard handles

A handle on one numbered shard file. Making a handle only checks that its path names a file. The
file's bytes are read on first use and kept, so later changes to the file (it is replaced, not
written in place) are not seen through the handle. Block headers are kept by offset once read and
accepted.

A block is read in three steps, the first failure winning: the index entry must name this shard;
the 30-byte header at the entry's offset must lie within the file and declare a block of at least
30 bytes; the payload, from the end of the header to the end of the block, must lie within the
file. The payload is given as a stream of one range, made with the range checks of
`Segment.make`. The size the index records is not consulted. A failed read is an `ioFailure` at
the offset of the header, or of the payload, that could not be read; a file that cannot be
opened fails at offset zero.

* `ShardHandle.make` — a handle, when the path names a file.
* `ShardHandle.headerAt`, `ShardHandle.block` — reads through the handle, in `ShardRead m`.
-/

namespace AssetStore

/-- A handle on shard `number`, kept at `path`. -/
structure ShardHandle where
  number : Nat
  path : String
  useMmap : Bool
  /-- The file's bytes, once read. -/
  contents : Option (List UInt8)
  /-- Accepted block headers by offset, in the order they were read. -/
  headers : List (Nat × BlockHeader)
  deriving DecidableEq, Repr

/-- A read through a shard handle, which may read the file and remember headers. -/
abbrev ShardRead (m : Type → Type) := ExceptT Error (StateT ShardHandle m)

namespace ShardHandle

variable {m : Type → Type} [Monad m] [DiskAccess m]

/-- A failure to read the shard at an offset. -/
def failure (h : ShardHandle) (offset : Nat) (cause : IoError) : Error :=
  .ioFailure h.number h.path offset cause

/-- A handle on shard `number` at `path`, refused when the path names no file. -/
def make (number : Nat) (path : String) (useMmap : Bool) : m (Except Error ShardHandle) := do
  match ← DiskAccess.kindOf path with
  | some .file => return .ok ⟨number, path, useMmap, none, []⟩
  | _ => return .error (.ioFailure number path 0 .shardMissing)

def cachedHeaders (h : ShardHandle) : Nat := h.headers.length

def opened (h : ShardHandle) : Bool := h.contents.isSome

def debugText (h : ShardHandle) : String :=
  s!"DataShard \x7b number: {h.number}, path: {Text.Escape.string h.path}, use_mmap: {h.useMmap}, " ++
    s!"opened: {h.opened}, cached_headers: {h.cachedHeaders} \x7d"

/-- The `length` bytes of `bytes` from `start`, refused when they pass the end. -/
def range (bytes : List UInt8) (start length : Nat) : Except IoError (List UInt8) :=
  if bytes.length < start + length then .error (.rangePastEnd start (start + length) bytes.length)
  else .ok (Bytes.slice bytes start length)

/-- The file's bytes: read on first use, then kept. -/
def contents? : ShardRead m (List UInt8) := do
  let h ← get
  match h.contents with
  | some bytes => pure bytes
  | none =>
    match ← (DiskAccess.readFile h.path : m _) with
    | .ok bytes =>
      set { h with contents := some bytes }
      pure bytes
    | .error e => throw (h.failure 0 e)

/-- The `length` bytes from `start`, or a failure at `start`. -/
def readAt (start length : Nat) : ShardRead m (List UInt8) := do
  let bytes ← contents?
  match range bytes start length with
  | .ok part => pure part
  | .error e => throw ((← get).failure start e)

/-- The header at an offset: kept from an earlier read, or read, checked and kept. -/
def headerAt (offset : Nat) : ShardRead m BlockHeader := do
  match (← get).headers.lookup offset with
  | some header => pure header
  | none =>
    let raw ← readAt offset blockHeaderSize
    match BlockHeader.parse raw with
    | .error f => throw f.toError
    | .ok header =>
      modify fun h => { h with headers := h.headers ++ [(offset, header)] }
      pure header

/-- A payload as a stream of one range over all of it, made with the checks of `Segment.make`. -/
def payloadStream (payload : List UInt8) : ShardRead m SegmentedStream :=
  match Segment.make payload 0 payload.length with
  | .ok segment => pure (SegmentedStream.ofSegments [segment])
  | .error e => throw e

omit [DiskAccess m] in
/-- A payload shorter than `2 ^ 64` bytes passes the checks. -/
theorem payloadStream_of_lt (payload : List UInt8) (short : payload.length < 2 ^ 64) :
    (payloadStream payload : ShardRead m _) =
      pure (SegmentedStream.ofSegments [Segment.whole payload]) := by
  rw [payloadStream, Segment.make_whole payload short]

/-- The payload of the block an index entry points at, as a stream. -/
def block (entry : IndexEntry) : ShardRead m SegmentedStream := do
  let h ← get
  if entry.shard != h.number then
    throw (.invalidArgument
      s!"entry {entry.key.hex} belongs to shard {entry.shard}, not {h.number}")
  let header ← headerAt entry.offset
  let payload ← readAt (header.dataStart entry.offset) header.dataSize
  payloadStream payload

end ShardHandle

end AssetStore
