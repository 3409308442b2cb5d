import AssetStore.AssetPath
import AssetStore.Config
import AssetStore.Locate
import AssetStore.OnceCell
import AssetStore.Shard.Handle
/-!
# Opened storage

An opened installation: its configuration, the three tables, each built once on first demand,
and the shard handles opened so far. The tables depend on one another: the index is every index
file of the data directory; the encoding table is the payload stored under the configured
encoding key, found in the index; the root table is the payload of the first file key that the
encoding table gives for the configured root checksum, found in the index. Payloads pass through
the storage's decoder before they are parsed.

A table whose building fails stays unbuilt, so the next demand tries again; a table once built
stays. Shard handles are kept by number once made. Nothing else is remembered, so every answer
is the one a freshly opened storage would give, as long as the files and the decoder do not
change.

* `Storage.ofConfig` — checks both keys, then that the data directory exists.
* `Storage.index`, `encoding`, `root`, `initialise` — the tables.
* `Storage.locate`, `resolve`, `resolveHash`, `read`, `contentChecksums` — lookups.
* `Storage.shard`, `Storage.withShard` — shard handles.
-/

namespace AssetStore

/-- A decoder of stored payloads into file bytes. -/
abbrev PayloadDecoder (m : Type → Type) := List UInt8 → m (Except Error (List UInt8))

/-- The decoder for payloads stored as they are. -/
def PayloadDecoder.raw {m : Type → Type} [Monad m] : PayloadDecoder m := fun bytes => pure (.ok bytes)

/-- An opened installation, read through a monad `m`. -/
structure Storage (m : Type → Type) where
  config : StorageConfig
  encodingKey : Key
  rootChecksum : Key
  decoder : PayloadDecoder m
  indexCell : OnceCell IndexStore
  encodingCell : OnceCell EncodingTable
  rootCell : OnceCell RootTable
  /-- Shard handles in the order they were made. -/
  shards : List ShardHandle

/-- An operation on opened storage: a value or an error, with the storage it leaves. -/
abbrev StorageOp (m : Type → Type) := ExceptT Error (StateT (Storage m) m)

/-- The three tables. -/
inductive TableKind
  | index
  | encoding
  | root
  deriving DecidableEq, Repr

def TableKind.name : TableKind → String
  | .index => "index"
  | .encoding => "encoding"
  | .root => "root"

/-- What is known of the tables without building any. -/
structure StorageStats where
  indexEntries : Option Nat
  indexFiles : Option Nat
  encodingEntries : Option Nat
  rootEntries : Option Nat
  rootHashes : Option Nat
  openShards : Nat
  deriving DecidableEq, Repr

namespace Storage

variable {m : Type → Type} [Monad m] [DiskAccess m]

/-- Opens the installation a configuration names, with a payload decoder. -/
def ofConfig (config : StorageConfig) (decoder : PayloadDecoder m) : m (Except Error (Storage m)) := do
  match config.encodingKey?, config.rootChecksum? with
  | .error e, _ => return .error e
  | _, .error e => return .error e
  | .ok encodingKey, .ok rootChecksum =>
    match ← DiskAccess.kindOf config.dataPath with
    | some .directory =>
      return .ok ⟨config, encodingKey, rootChecksum, decoder, .unparsed, .unparsed, .unparsed, []⟩
    | _ => return .error (.config s!"data directory {config.dataPath} does not exist")

def dataPath (s : Storage m) : String := s.config.dataPath

def tableState (s : Storage m) : TableKind → CellState
  | .index => s.indexCell.state
  | .encoding => s.encodingCell.state
  | .root => s.rootCell.state

def debugText (s : Storage m) : String :=
  s!"StorageContext \x7b data_path: {Text.Escape.string s.dataPath}, " ++
    s!"index: {(s.tableState .index).title}, encoding: {(s.tableState .encoding).title}, " ++
    s!"root: {(s.tableState .root).title}, open_shards: {s.shards.length}, .. \x7d"

/-- What is known of the tables without building any. -/
def stats (s : Storage m) : StorageStats :=
  { indexEntries := s.indexCell.get?.map IndexStore.size
    indexFiles := s.indexCell.get?.map (·.files.length)
    encodingEntries := s.encodingCell.get?.map EncodingTable.size
    rootEntries := s.rootCell.get?.map RootTable.size
    rootHashes := s.rootCell.get?.map (·.hashes.length)
    openShards := s.shards.length }

def fail {α : Type} (e : Error) : StorageOp m α := throw e

/-- The value of an outcome, or its error. -/
def ofExcept {α : Type} : Except Error α → StorageOp m α
  | .ok a => pure a
  | .error e => throw e

/-- The value of a cell of the storage, built by `init` when it is not built; `init` runs with
the cell parsing, and its failure leaves the cell unparsed. -/
def cached {α : Type} (cell : Storage m → OnceCell α) (store : Storage m → OnceCell α → Storage m)
    (init : StorageOp m α) : StorageOp m α := do
  let current := cell (← get)
  let (result, after) ← (current.getOrTryInit fun seen => do
      modify fun s => store s seen
      ExceptT.run init : StateT (Storage m) m _)
  modify fun s => store s after
  ofExcept result

/-- The handle on shard `n`: the kept one, or a new one kept from now on. -/
def shard (n : Nat) : StorageOp m ShardHandle := do
  let s ← get
  match s.shards.find? (·.number == n) with
  | some h => pure h
  | none =>
    match ← (ShardHandle.make n (s.config.shardPath n) s.config.enableMmap : m _) with
    | .error e => fail e
    | .ok h =>
      modify fun s => { s with shards := s.shards ++ [h] }
      pure h

/-- Runs a read through the handle on shard `n`, keeping what the handle learns. -/
def withShard {α : Type} (n : Nat) (read : ShardRead m α) : StorageOp m α := do
  let h ← shard n
  let (result, h') ← (ExceptT.run read).run h
  modify fun s => { s with shards := s.shards.map fun k => if k.number == n then h' else k }
  ofExcept result

/-- The payload an index entry points at. -/
def blockOf (entry : IndexEntry) : StorageOp m SegmentedStream :=
  withShard entry.shard (ShardHandle.block entry)

/-- The decoded payload an index entry points at. -/
def readEntry (entry : IndexEntry) : StorageOp m (List UInt8) := do
  let block ← blockOf entry
  let decode := (← get).decoder
  ofExcept (← (decode block.toBytes : m _))

def index : StorageOp m IndexStore :=
  cached (·.indexCell) (fun s c => { s with indexCell := c }) do
    let s ← get
    ofExcept (← (IndexStore.loadDir s.dataPath s.config.maxShardNumber : m _))

/-- The encoding table, stored under the configured encoding key. -/
def encoding : StorageOp m EncodingTable :=
  cached (·.encodingCell) (fun s c => { s with encodingCell := c }) do
    let store ← index
    let key := (← get).encodingKey
    match store.lookup key with
    | none => fail (.entryNotFound .index key.hex)
    | some entry =>
      let bytes ← readEntry entry
      ofExcept ((EncodingTable.parse bytes).mapError EncodingTable.Fault.toError)

/-- The root table, stored under the first file key of the configured root checksum. -/
def root : StorageOp m RootTable :=
  cached (·.rootCell) (fun s c => { s with rootCell := c }) do
    let table ← encoding
    let store ← index
    let checksum := (← get).rootChecksum
    match table.fileKey? checksum with
    | none => fail (.entryNotFound .encoding checksum.hex)
    | some fileKey =>
      match store.lookup fileKey with
      | none => fail (.entryNotFound .index fileKey.hex)
      | some entry =>
        let bytes ← readEntry entry
        ofExcept ((RootTable.parse bytes).mapError RootTable.Fault.toError)

/-- Builds the index, the encoding table and the root table, in that order. -/
def initialise : StorageOp m Unit := do
  let _ ← index
  let _ ← encoding
  let _ ← root
  pure ()

/-- Where the file of a filename hash is kept. -/
def locate (nameHash : UInt64) : StorageOp m (Resolution IndexEntry) := do
  let r ← root
  let e ← encoding
  let i ← index
  pure (AssetStore.locate r e i nameHash)

/-- The payload of the file of a filename hash, if it is found. -/
def resolveHash (nameHash : UInt64) : StorageOp m (Option SegmentedStream) := do
  match ← locate nameHash with
  | .found entry => some <$> blockOf entry
  | .missingAt _ => pure none

/-- The payload of the file at a path, if it is found; the empty path is refused first. -/
def resolve (path : String) : StorageOp m (Option SegmentedStream) := do
  if path.isEmpty then fail (.invalidArgument "path must not be empty")
  resolveHash (AssetPath.filenameHash path)

/-- The decoded file at a path, if it is found. -/
def read (path : String) : StorageOp m (Option (List UInt8)) := do
  match ← resolve path with
  | none => pure none
  | some block =>
    let decode := (← get).decoder
    some <$> ofExcept (← (decode block.toBytes : m _))

/-- The content checksums of a filename hash, in file order. -/
def contentChecksums (nameHash : UInt64) : StorageOp m (List Key) := do
  return (← root).checksumsFor nameHash

end Storage

end AssetStore
