import AssetStore.Disk.Path
import AssetStore.Text.Hex
/-!
# Installation layout

Where an installation keeps its files, and the names they carry.

* The data directory is `Data/data` under the installation root.
* Shard `n` is the file `data.NNN`: `n` in decimal, zero-padded to three digits.
* Index file `(bucket, version)` is `BBVVVVVVVV.idx`: the bucket as two and the version as eight
  lowercase hex digits. A name is read back when it has exactly 14 bytes, its extension is `idx`
  in any case, and its first two and next eight bytes are hex numbers, each optionally after one
  `+`, that fit a byte and a 32-bit word.
-/

namespace AssetStore.Layout

/-- The data directory of an installation rooted at `install`. -/
def dataPath (install : String) : String :=
  Disk.Path.join (Disk.Path.join install "Data") "data"

def shardFileName (n : Nat) : String :=
  let ds := (Nat.toDigits 10 n)
  "data." ++ String.ofList (List.replicate (3 - ds.length) '0' ++ ds)

/-- Which index file of which bucket: the higher version supersedes the lower. -/
structure IndexFileId where
  bucket : UInt8
  version : UInt32
  deriving DecidableEq, Repr

/-- The file name of an index file. -/
def indexFileName (id : IndexFileId) : String :=
  Text.Hex.padded 2 id.bucket.toNat ++ Text.Hex.padded 8 id.version.toNat ++ ".idx"

/-- The value of a hex digit of either case, as a number. -/
def hexDigitValue? (c : UInt8) : Option Nat :=
  (Text.Hex.digitValue? c).map UInt8.toNat

/-- Hex digits read as a number, most significant first; `none` unless all are digits. -/
def hexDigits? (ds : List UInt8) : Option Nat :=
  ds.foldlM (fun acc d => (hexDigitValue? d).map fun v => acc * 16 + v) 0

/-- An unsigned number in hex below `bound`: an optional `+` and at least one digit. -/
def parseUnsigned? (bound : Nat) (text : List UInt8) : Option Nat :=
  let digits := match text with
    | 43 :: rest => rest
    | _ => text
  if digits.isEmpty then none
  else match hexDigits? digits with
    | some n => if n < bound then some n else none
    | none => none

/-- Whether a byte offset of UTF-8 text falls between two characters. -/
def isCharBoundary (bytes : List UInt8) (i : Nat) : Bool :=
  match bytes[i]? with
  | some b => b < 0x80 || b ≥ 0xC0
  | none => i == bytes.length

/-- The bytes `[start, stop)` of a text, when both ends fall between characters. -/
def slice? (bytes : List UInt8) (start stop : Nat) : Option (List UInt8) :=
  if isCharBoundary bytes start && isCharBoundary bytes stop && start ≤ stop && stop ≤ bytes.length
  then some ((bytes.drop start).take (stop - start))
  else none

/-- The index file a name denotes, if any. -/
def parseIndexFileName? (name : String) : Option IndexFileId := do
  let bytes := name.toUTF8.toList
  guard (bytes.length == 14)
  let ext ← Disk.Path.extension? name
  guard (ext.toLower == "idx" && ext.length == 3)
  let bucket ← parseUnsigned? 256 (← slice? bytes 0 2)
  let version ← parseUnsigned? (2 ^ 32) (← slice? bytes 2 10)
  pure ⟨UInt8.ofNat bucket, UInt32.ofNat version⟩

end AssetStore.Layout
