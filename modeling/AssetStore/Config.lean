import AssetStore.Disk.Access
import AssetStore.Json.Record
import AssetStore.Key
import AssetStore.Layout
import AssetStore.Text.Blank
/-!
# Storage configuration

What opening an installation needs: where it is, the file key of the encoding table and the
content checksum of the root table (both as hex text), the highest shard number an index record
may name, and whether shards are memory-mapped.

A configuration is read from a JSON file. Every field may be left out and then keeps its default
(`.`, no keys, shard 32, memory-mapped); unknown members are ignored; the fields may also be
given as an array in the order above. The two keys are checked only when asked for: an empty
or blank key is not set, and a key must be hex.
-/

namespace AssetStore

/-- How to open an installation. -/
structure StorageConfig where
  installPath : String
  encodingKey : String
  rootChecksum : String
  maxShardNumber : Nat
  enableMmap : Bool
  deriving DecidableEq, Repr

namespace StorageConfig

/-- The configuration of the installation in the working directory, with no keys. -/
def default : StorageConfig :=
  { installPath := ".", encodingKey := "", rootChecksum := "", maxShardNumber := 32,
    enableMmap := true }

/-- The fields of a configuration document, in their array order. -/
def fields : List (Json.Field StorageConfig) :=
  [ ⟨"install_path", fun c => do return { c with installPath := ← Json.Reader.text "path string" }⟩,
    ⟨"encoding_key", fun c => do return { c with encodingKey := ← Json.Reader.text "a string" }⟩,
    ⟨"root_checksum", fun c => do return { c with rootChecksum := ← Json.Reader.text "a string" }⟩,
    ⟨"max_shard_number", fun c => do
      return { c with maxShardNumber := ← Json.Reader.natural 65535 "u16" }⟩,
    ⟨"enable_mmap", fun c => do return { c with enableMmap := ← Json.Reader.boolean }⟩ ]

/-- A configuration from JSON text; the refusal is the reader's text. -/
def ofJson (text : String) : Except String StorageConfig :=
  let bytes := Text.Utf8.encode text
  match Json.decode bytes (Json.Reader.record "struct StorageConfig" fields default) with
  | .ok c => .ok c
  | .error f => .error (f.message bytes)

/-- A configuration from a JSON file, refused with the file's path in front of the reason. -/
def load {m : Type → Type} [Monad m] [DiskAccess m] (path : String) :
    m (Except Error StorageConfig) := do
  let refuse (why : String) : Except Error StorageConfig := .error (.config s!"{path}: {why}")
  match ← DiskAccess.readFile path with
  | .error e => return refuse e.message
  | .ok bytes =>
    match Text.Utf8.decode? bytes with
    | none => return refuse IoError.notText.message
    | some text =>
      match ofJson text with
      | .ok c => return .ok c
      | .error why => return refuse why

/-- A configured key: refused as not set when blank, or with the hex refusal. -/
def parseKey (field value : String) : Except Error Key :=
  if (Text.Blank.trim value).isEmpty then .error (.config s!"{field} is not set")
  else
    match Key.parseHex value with
    | .ok k => .ok k
    | .error e => .error (.config s!"{field}: {e.message}")

def encodingKey? (c : StorageConfig) : Except Error Key := parseKey "encoding_key" c.encodingKey

def rootChecksum? (c : StorageConfig) : Except Error Key := parseKey "root_checksum" c.rootChecksum

/-- Checks both keys, the encoding key first. -/
def validate (c : StorageConfig) : Except Error Unit := do
  let _ ← c.encodingKey?
  let _ ← c.rootChecksum?
  pure ()

def dataPath (c : StorageConfig) : String := Layout.dataPath c.installPath

def shardPath (c : StorageConfig) (n : Nat) : String :=
  Disk.Path.join c.dataPath (Layout.shardFileName n)

end StorageConfig

end AssetStore
