import AssetStore.Bytes
import AssetStore.Error
import AssetStore.Key
import AssetStore.Stream.Cursor
/-!
# The encoding table

The encoding table maps the content checksum of each stored file to the file keys under which its
encoded bytes are kept, and to its decoded size.

Layout: a 22-byte big-endian header (tag, version, checksum and key widths, two page sizes, the
run count at byte 9, the spec-block count, flags, and the string-block size at byte 18), then
the string block and a 32-byte page index per run, which are skipped as a stream skips, then
the runs. A run is a list of records closed by a zero word; after a run, zero bytes up to the
next non-zero byte are padding. A record is a little-endian word whose low byte counts the file keys and whose high byte
gives bits 32 to 39 of the size, then the low 32 bits of the size big-endian, the 16-byte
checksum and the keys of 16 bytes each. A run also ends when fewer than two bytes remain.

A checksum seen twice keeps its first record. Refusals name the byte position of the offending
record word.

* `EncodingTable.parse` — the table of some bytes, or the `Fault` that refuses them.
* `EncodingTable.entry?`, `fileKey?`, `fileSize?` — the lookups by checksum.
-/

namespace AssetStore

/-- One record of the encoding table. -/
structure EncodingEntry where
  checksum : Key
  fileKeys : List Key
  fileSize : Nat
  deriving DecidableEq

/-- The records of an encoding table, in the order first seen, one per checksum. -/
structure EncodingTable where
  entries : List EncodingEntry
  deriving DecidableEq

namespace EncodingTable

/-- Why the bytes of an encoding table were refused. -/
inductive Fault
  /-- Fewer than 22 bytes: the header is cut short. -/
  | truncatedHeader
  /-- The string block and page indices need `need` bytes and only `remain` follow the header. -/
  | blocksPastEnd (need remain : Nat)
  /-- Run `run` of `count` starts at the end of the input. -/
  | runsPastEnd (count run : Nat)
  /-- The record word at `pos` counts no file keys. -/
  | noKeys (pos : Nat)
  /-- The record at `pos` declares `count` keys that the input does not hold. -/
  | keysPastEnd (pos count : Nat)
  /-- The skip over the string block and page indices failed, for `cause`. -/
  | skipRefused (cause : Error)
  deriving DecidableEq, Repr

def Fault.detail : Fault → String
  | .truncatedHeader => "input ends inside the 22-byte header"
  | .blocksPastEnd need remain => s!"declared blocks need {need} bytes, only {remain} remain"
  | .runsPastEnd count run => s!"declared {count} runs, input ends at run {run}"
  | .noKeys pos => s!"record at 0x{Text.Hex.natural pos} has no file keys"
  | .keysPastEnd pos count => s!"record at 0x{Text.Hex.natural pos} declares {count} keys past end of input"
  | .skipRefused cause => cause.message

/-- A refusal as an error of the store: a failed skip is its own error, every other fault a
malformed encoding table. -/
def Fault.toError : Fault → Error
  | .truncatedHeader => .truncated .encoding ""
  | .skipRefused cause => cause
  | f => .malformed .encoding f.detail

def headerLength : Nat := 22

/-- The table with one more record, unless its checksum is already present. -/
def insert (entries : List EncodingEntry) (e : EncodingEntry) : List EncodingEntry :=
  if entries.any (·.checksum == e.checksum) then entries else entries ++ [e]

/-- `count` keys of 16 bytes each from the front of `bytes`. -/
def keysOf (bytes : List UInt8) : (count : Nat) → 16 * count ≤ bytes.length → List Key
  | 0, _ => []
  | count + 1, h =>
    Key.prefixOf bytes 16 (by omega) ::
      keysOf (bytes.drop 16) count (by rw [List.length_drop]; omega)

/-- Reads the records of one run from `rest`, which starts at byte `pos`: up to and including
the zero word, or until fewer than two bytes remain. Returns the table, the position and the
bytes after the run. -/
def parseRun (pos : Nat) (rest : List UInt8) (entries : List EncodingEntry) :
    Except Fault (List EncodingEntry × Nat × List UInt8) :=
  match rest with
  | lo :: hi :: tail =>
    let word := lo.toNat + 256 * hi.toNat
    if word = 0 then .ok (entries, pos + 2, tail)
    else
      let count := word % 256
      if count = 0 then .error (.noKeys pos)
      else if h : tail.length < 20 + 16 * count then .error (.keysPastEnd pos count)
      else
        let entry : EncodingEntry :=
          { checksum := Key.prefixOf (tail.drop 4) 16 (by rw [List.length_drop]; omega)
            fileKeys := keysOf (tail.drop 20) count (by rw [List.length_drop]; omega)
            fileSize := word / 256 * 2 ^ 32 + Bytes.be (tail.take 4) }
        parseRun (pos + 22 + 16 * count) (tail.drop (20 + 16 * count)) (insert entries entry)
  | _ => .ok (entries, pos, rest)
termination_by rest.length
decreasing_by simp only [List.length_cons, List.length_drop]; omega

/-- Skips zero bytes up to the next non-zero byte or the end. -/
def skipZeros : Nat → List UInt8 → Nat × List UInt8
  | pos, 0 :: rest => skipZeros (pos + 1) rest
  | pos, rest => (pos, rest)

/-- Reads runs `run` to `count - 1` from `rest`, which starts at byte `pos`. -/
def parseRuns (count : Nat) (run : Nat) (pos : Nat) (rest : List UInt8)
    (entries : List EncodingEntry) : Except Fault (List EncodingEntry) :=
  if run < count then
    match rest with
    | [] => .error (.runsPastEnd count run)
    | _ :: _ => do
      let (entries, pos, rest) ← parseRun pos rest entries
      let (pos, rest) := skipZeros pos rest
      parseRuns count (run + 1) pos rest entries
  else .ok entries
termination_by count - run

/-- The encoding table of some bytes. -/
def parse (data : List UInt8) : Except Fault EncodingTable :=
  if data.length < headerLength then .error .truncatedHeader
  else
    let runCount := Bytes.be (Bytes.slice data 9 4)
    let stringSize := Bytes.be (Bytes.slice data 18 4)
    let skipped := stringSize + 32 * runCount
    let remain := data.length - headerLength
    if remain < skipped then .error (.blocksPastEnd skipped remain)
    else
      match (Reading.skip skipped).run (Cursor.mk data headerLength) with
      | (.error e, _) => .error (.skipRefused e)
      | (.ok (), past) => (parseRuns runCount 0 past.pos (data.drop past.pos) []).map EncodingTable.mk

def size (t : EncodingTable) : Nat := t.entries.length

def entry? (t : EncodingTable) (checksum : Key) : Option EncodingEntry :=
  t.entries.find? (·.checksum == checksum)

/-- The first file key of a checksum: the one the store looks up. -/
def fileKey? (t : EncodingTable) (checksum : Key) : Option Key :=
  (t.entry? checksum).bind (·.fileKeys.head?)

/-- The decoded size of the file with a checksum. -/
def fileSize? (t : EncodingTable) (checksum : Key) : Option Nat :=
  (t.entry? checksum).map (·.fileSize)

end EncodingTable

end AssetStore
