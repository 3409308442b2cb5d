import AssetStore.Bytes
import AssetStore.Error
import AssetStore.Key
/-!
# The root table

The root table maps filename hashes to content checksums. It is a plain sequence of records: a
64-bit little-endian filename hash, a 16-byte content checksum and flags. Records are 32 bytes
wide, with 64-bit flags, when the length is a multiple of 32; otherwise they are 28 bytes wide,
with 32-bit flags, when it is a multiple of 28; any other length is refused. The low half of the
flags is the locale mask and the high half the content flags.

A filename hash may have several records (one per locale or variant); they keep file order.

The table keeps, beside its records, the positions of each filename hash's records and the
distinct filename hashes in order of first occurrence; both are brought up to date as each record
is added (`RootTable.push`), and lookups by filename hash go through the positions.

* `RootTable.parse` — the table of some bytes.
* `RootTable.entriesFor h`, `checksumsFor h` — the records and checksums of a filename hash.
* `RootTable.hashes` — the distinct filename hashes in order of first occurrence.
-/

namespace AssetStore

/-- One record of the root table. -/
structure RootEntry where
  nameHash : UInt64
  checksum : Key
  flags : UInt64
  deriving DecidableEq

namespace RootEntry

/-- The locale mask: the low 32 bits of the flags. -/
def locale (e : RootEntry) : UInt32 := e.flags.toUInt32

/-- The content flags: the high 32 bits of the flags. -/
def content (e : RootEntry) : UInt32 := (e.flags >>> 32).toUInt32

/-- Whether the record is meant for any locale of a mask. -/
def matchesLocale (e : RootEntry) (mask : UInt32) : Bool :=
  e.locale &&& mask != 0

/-- The text of the flags: both halves as eight lowercase hex digits. -/
def flagsText (e : RootEntry) : String :=
  s!"locale={Text.Hex.padded 8 e.locale.toNat} content={Text.Hex.padded 8 e.content.toNat}"

end RootEntry

/-- The records of a root table, in file order, with two indexes kept up to date as records are
added: where each filename hash's records are, and which filename hashes occur. -/
structure RootTable where
  entries : List RootEntry
  /-- For each filename hash with records, their positions in `entries`, in file order. -/
  byHash : List (UInt64 × List Nat)
  /-- The distinct filename hashes, in order of first occurrence. -/
  hashes : List UInt64
  deriving DecidableEq

namespace RootTable

/-- Why the bytes of a root table were refused: their length fits neither record width. -/
structure Fault where
  length : Nat
  deriving DecidableEq, Repr

/-- The refusal as an error of the store. -/
def Fault.toError (f : Fault) : Error :=
  .malformed .root s!"length {f.length} is not a multiple of 32 or 28"

/-- The records of `bytes`, each `width` bytes wide, with `width - 24` bytes of flags. -/
def records (width : Nat) (hwidth : 24 < width) (bytes : List UInt8) : List RootEntry :=
  if h : width ≤ bytes.length then
    let entry : RootEntry :=
      { nameHash := UInt64.ofNat (Bytes.le (bytes.take 8))
        checksum := Key.prefixOf (bytes.drop 8) 16 (by rw [List.length_drop]; omega)
        flags := UInt64.ofNat (Bytes.le (Bytes.slice bytes 24 (width - 24))) }
    entry :: records width hwidth (bytes.drop width)
  else []
termination_by bytes.length
decreasing_by rw [List.length_drop]; omega

def empty : RootTable := ⟨[], [], []⟩

/-- The positions of the records of a filename hash; none when it has no records. -/
def slots (t : RootTable) (nameHash : UInt64) : List Nat :=
  (t.byHash.lookup nameHash).getD []

/-- Adds a record after the others. Its position joins the positions of its filename hash, and a
filename hash that had no positions yet joins the distinct hashes. -/
def push (t : RootTable) (e : RootEntry) : RootTable :=
  let slots := t.slots e.nameHash
  { entries := t.entries ++ [e]
    byHash := (e.nameHash, slots ++ [t.entries.length]) :: t.byHash.filter (·.1 != e.nameHash)
    hashes := if slots.isEmpty then t.hashes ++ [e.nameHash] else t.hashes }

/-- The table of some records, added in order. -/
def ofEntries (entries : List RootEntry) : RootTable :=
  entries.foldl push empty

/-- The root table of some bytes. -/
def parse (data : List UInt8) : Except Fault RootTable :=
  if data.length % 32 = 0 then .ok (ofEntries (records 32 (by decide) data))
  else if data.length % 28 = 0 then .ok (ofEntries (records 28 (by decide) data))
  else .error ⟨data.length⟩

def size (t : RootTable) : Nat := t.entries.length

/-- The records of a filename hash, in file order: those at its positions. -/
def entriesFor (t : RootTable) (nameHash : UInt64) : List RootEntry :=
  (t.slots nameHash).filterMap (t.entries[·]?)

/-- The content checksums of a filename hash, in file order. -/
def checksumsFor (t : RootTable) (nameHash : UInt64) : List Key :=
  (t.entriesFor nameHash).map (·.checksum)

end RootTable

end AssetStore
