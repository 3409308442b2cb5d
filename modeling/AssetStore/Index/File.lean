import AssetStore.Bytes
import AssetStore.Error
import AssetStore.Index.Entry
/-!
# Index files

An index file lists the entries of one bucket. Layout, little-endian unless said otherwise:

* bytes 0 to 7: a guard (block size and hash);
* bytes 8 to 23: the header: version (16 bits), bucket, spare byte, the widths of the size, the
  location and the key fields, the offset bit count, and the segment size (64 bits);
* bytes 32 to 39: the entry guard, whose first word is the size of the entry block;
* from byte 40: the records, each a key, a 5-byte location and a 4-byte size.

Only key widths 1 to 16, location width 5 and size width 4 are read; any version is accepted.
The entry block must fit in the file. A location is a byte holding the high bits of the shard
number and a big-endian word holding its two low bits above a 30-bit offset. Records whose key
is all zero are unused and passed over. A shard number above the caller's maximum means the
records are misaligned and refuses the whole file; record numbers in the refusal count unused
records too. A record's key is read whole and kept to its first nine bytes.

* `IndexFile.parse data maxShard` — the entries of an index file, in record order.
-/

namespace AssetStore.IndexFile

/-- Why the bytes of an index file were refused. -/
inductive Fault
  /-- The file ends inside the guard, the header or the entry guard. -/
  | truncated
  /-- The key width is zero or above sixteen. -/
  | invalidKeySize (width : Nat)
  /-- The location or size field is not 5 and 4 bytes wide. -/
  | unsupportedWidths (location size : Nat)
  /-- The entry block is larger than the bytes after the entry guard. -/
  | blockPastEnd (block available : Nat)
  /-- Record `record`, at byte `start`, names a shard above `maximum`. -/
  | shardAboveMaximum (record start shard maximum : Nat)
  /-- A record's key bytes were refused as a key, for `cause`. -/
  | keyRefused (cause : Error)
  deriving DecidableEq, Repr

def Fault.detail : Fault → String
  | .truncated => "input ends inside a fixed-size header"
  | .invalidKeySize width => s!"invalid key size: {width}"
  | .unsupportedWidths location size => s!"unsupported field widths: location {location} size {size}"
  | .blockPastEnd block available => s!"entry block of {block} bytes exceeds file ({available} available)"
  | .shardAboveMaximum record start shard maximum =>
    s!"record {record} at 0x{Text.Hex.natural start} decodes shard {shard}, above maximum {maximum}"
  | .keyRefused cause => cause.message

/-- The refusal as an error of the store: the refusal of a key is its own error, every other
fault a malformed index. -/
def Fault.toError : Fault → Error
  | .truncated => .truncated .index ""
  | .keyRefused cause => cause
  | f => .malformed .index f.detail

def recordsStart : Nat := 40

/-- The shard number and offset packed into a location's high byte and word. -/
def unpackLocation (high : Nat) (word : Nat) : Nat × Nat :=
  (high * 4 + word / 2 ^ 30, word % 2 ^ 30)

/-- Reads records `index` to `count - 1`, each `keyWidth + 9` bytes, from `rest`. -/
def parseRecords (keyWidth : Nat) (maxShard : Nat) (count : Nat) :
    (index : Nat) → (rest : List UInt8) → List IndexEntry → Except Fault (List IndexEntry)
  | index, rest, acc =>
    if index < count then
      let recordLength := keyWidth + 9
      let record := rest.take recordLength
      let keyBytes := record.take keyWidth
      let next := parseRecords keyWidth maxShard count (index + 1) (rest.drop recordLength)
      if keyBytes.all (· == 0) then next acc
      else
        let (shard, offset) := unpackLocation (record.getD keyWidth 0).toNat
          (Bytes.be (Bytes.slice record (keyWidth + 1) 4))
        if shard > maxShard then
          .error (.shardAboveMaximum index (recordsStart + index * recordLength) shard maxShard)
        else
          match Key.ofBytes keyBytes with
          | .ok key =>
            next (acc ++ [{ key := key.trim indexKeyLength, shard := shard, offset := offset
                            size := Bytes.le (Bytes.slice record (keyWidth + 5) 4) }])
          | .error e => .error (.keyRefused e)
    else .ok acc
termination_by index => count - index

/-- The entries of an index file, refusing shard numbers above `maxShard`. -/
def parse (data : List UInt8) (maxShard : Nat) : Except Fault (List IndexEntry) :=
  if data.length < 24 then .error .truncated
  else
    let sizeWidth := (data.getD 12 0).toNat
    let locationWidth := (data.getD 13 0).toNat
    let keyWidth := (data.getD 14 0).toNat
    if keyWidth = 0 ∨ keyWidth > 16 then .error (.invalidKeySize keyWidth)
    else if locationWidth ≠ 5 ∨ sizeWidth ≠ 4 then .error (.unsupportedWidths locationWidth sizeWidth)
    else if data.length < recordsStart then .error .truncated
    else
      let block := Bytes.le (Bytes.slice data 32 4)
      let available := data.length - recordsStart
      if block > available then .error (.blockPastEnd block available)
      else
        parseRecords keyWidth maxShard (block / (keyWidth + 9)) 0 (data.drop recordsStart) []

end AssetStore.IndexFile
