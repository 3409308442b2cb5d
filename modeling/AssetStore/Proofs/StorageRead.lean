import AssetStore.Storage
import AssetStore.Proofs.ShardRead
import AssetStore.Proofs.Bytes
/-!
# Reading opened storage

What the operations of opened storage do on a fixed file tree, each stated as a `Runs` fact that
later proofs cite without unfolding the operation.

A table cell that is built answers its value and changes nothing; one that is not runs its
initialiser once and keeps the value (`Storage.cached_parsed`, `Storage.cached_built`). Storage
is sound for a tree when it takes payloads as they are stored and every handle it keeps is
faithful to the tree at the configured path of its shard (`Storage.Sound`); reading through a
handle keeps it sound, and only the handles change. An index entry points at a payload when the
file of its shard holds, at its offset, a well-formed block with that payload (`Storage.Points`).

Then each table is built from what the one before it gives (`index_loaded`, `encoding_loaded`,
`root_loaded`), and with all three built, a path is resolved and read to the payload of the
entry that `locate` finds, or to nothing when `locate` misses (`read_found`, `read_missing`).
-/

namespace AssetStore

/-- Opened storage on the pure file tree. -/
abbrev TreeStorage := Storage (StateM Disk.Tree)

namespace Runs

variable {σ α β : Type} {t : Disk.Tree}

/-- A stateful step lifted into a read that may fail. -/
theorem liftState {x : StateT σ (StateM Disk.Tree) α} {s s' : σ} {a : α}
    (ran : (x.run s).run t = ((a, s'), t)) : Runs t (monadLift x : TreeRead σ α) s (.ok a) s' := by
  unfold Runs
  show ((Except.ok ((x.run s).run t).1.1, ((x.run s).run t).1.2), ((x.run s).run t).2) = _
  rw [ran]

theorem map {x : TreeRead σ α} {f : α → β} {s s' : σ} {a : α} (ran : Runs t x s (.ok a) s') :
    Runs t (f <$> x) s (.ok (f a)) s' := by
  rw [map_eq_pure_bind]
  exact bind ran (pure _ _)

end Runs

theorem Disk.Tree.kindOf_of_readFile {t : Disk.Tree} {path : String} {bytes : List UInt8}
    (file : t.readFile path = .ok bytes) : t.kindOf path = some .file := by
  unfold Disk.Tree.readFile at file
  unfold Disk.Tree.kindOf
  cases found : t.lookup path with
  | error e =>
    rw [found] at file
    cases file
  | ok node =>
    cases node with
    | file contents => rfl
    | directory =>
      rw [found] at file
      cases file

/-- The bytes of a stream made of one payload are the payload. -/
theorem SegmentedStream.toBytes_whole (payload : List UInt8) (small : payload.length < 2 ^ 64) :
    (SegmentedStream.ofSegments [Segment.whole payload]).toBytes = payload := by
  have whole : (Segment.whole payload).bytes = payload := by
    simp only [Segment.whole, Segment.bytes, Nat.zero_add, List.drop_zero]
    rw [Nat.min_eq_left (by omega), Nat.min_eq_left (by omega), List.take_length]
  cases payload with
  | nil => rfl
  | cons b rest =>
    simp [SegmentedStream.ofSegments, SegmentedStream.addSegment, SegmentedStream.empty,
      SegmentedStream.toBytes, whole]

namespace Storage

variable {t : Disk.Tree} {s : TreeStorage}

theorem ofExcept_ok {α : Type} (a : α) (s : TreeStorage) :
    Runs t (ofExcept (.ok a) : StorageOp (StateM Disk.Tree) α) s (.ok a) s := rfl

/-! ### Tables built once -/

/-- A built cell answers its value and changes nothing. -/
theorem cached_parsed {α : Type} {cell : TreeStorage → OnceCell α}
    {store : TreeStorage → OnceCell α → TreeStorage} {init : StorageOp (StateM Disk.Tree) α} {v : α}
    (built : cell s = .parsed v) (restore : store s (cell s) = s) :
    Runs t (cached cell store init) s (.ok v) s := by
  unfold cached
  refine Runs.bind (Runs.get s) ?_
  rw [built]
  refine Runs.bind (Runs.liftState rfl) ?_
  dsimp only
  refine Runs.bind (a := ()) (u := s) ?_ (ofExcept_ok v s)
  have kept : Runs t (modify fun s => store s (.parsed v) : StorageOp (StateM Disk.Tree) Unit) s
      (.ok ()) (store s (.parsed v)) := Runs.modify _ s
  have restored : store s (.parsed v) = s := built ▸ restore
  rwa [restored] at kept

/-- An unbuilt cell runs its initialiser, which sees the cell parsing, and keeps what it built. -/
theorem cached_built {α : Type} {cell : TreeStorage → OnceCell α}
    {store : TreeStorage → OnceCell α → TreeStorage} {init : StorageOp (StateM Disk.Tree) α} {v : α}
    {u : TreeStorage} (unbuilt : cell s = .unparsed) (ran : Runs t init (store s .parsing) (.ok v) u) :
    Runs t (cached cell store init) s (.ok v) (store u (.parsed v)) := by
  unfold cached
  refine Runs.bind (Runs.get s) ?_
  rw [unbuilt]
  refine Runs.bind (a := (.ok v, .parsed v)) (u := u) (Runs.liftState ?_) ?_
  · unfold Runs at ran
    simp only [OnceCell.getOrTryInit, StateT.run_bind, StateT.run_modify, pure_bind]
    simp only [StateT.run] at ran ⊢
    rw [ran]
    rfl
  · dsimp only
    exact Runs.bind (Runs.modify _ u) (ofExcept_ok v _)

/-! ### Shard handles kept by the storage -/

/-- Opened storage agrees with a tree: payloads are stored as they are, and every kept handle is
faithful to the tree and sits at the configured path of its shard. -/
structure Sound (t : Disk.Tree) (s : TreeStorage) : Prop where
  decoder_eq : s.decoder = PayloadDecoder.raw
  handles : ∀ h ∈ s.shards, h.Faithful t ∧ h.path = s.config.shardPath h.number

theorem make_run (n : Nat) (path : String) (useMmap : Bool) (present : t.kindOf path = some .file) :
    (ShardHandle.make n path useMmap : StateM Disk.Tree _).run t = (.ok ⟨n, path, useMmap, none, []⟩, t) := by
  simp [ShardHandle.make, DiskAccess.kindOf, present]
  rfl

/-- The handle on a shard whose file exists: the kept one, or a new one that is kept from now
on. -/
theorem shard_runs {n : Nat} (sound : s.Sound t) (present : t.kindOf (s.config.shardPath n) = some .file) :
    ∃ h shards, Runs t (shard n) s (.ok h) { s with shards := shards } ∧
      (h.Faithful t ∧ h.number = n ∧ h.path = s.config.shardPath n) ∧
      ∀ k ∈ shards, k ∈ s.shards ∨ k = h := by
  unfold shard
  cases found : s.shards.find? (·.number == n) with
  | some h =>
    have member := List.mem_of_find?_eq_some found
    have numbered : h.number = n := by simpa using List.find?_some found
    obtain ⟨faithful, path⟩ := sound.handles h member
    refine ⟨h, s.shards, ?_, ⟨faithful, numbered, numbered ▸ path⟩, fun k kept => Or.inl kept⟩
    refine Runs.bind (Runs.get s) ?_
    rw [found]
    exact Runs.pure h _
  | none =>
    refine ⟨⟨n, s.config.shardPath n, s.config.enableMmap, none, []⟩,
      s.shards ++ [⟨n, s.config.shardPath n, s.config.enableMmap, none, []⟩], ?_,
      ⟨⟨fun _ kept => (by cases kept), fun _ _ kept => (by cases kept)⟩, rfl, rfl⟩, ?_⟩
    · refine Runs.bind (Runs.get s) ?_
      rw [found]
      refine Runs.bind (Runs.lift _ s (by rw [make_run n _ _ present])) ?_
      rw [make_run n _ _ present]
      exact Runs.bind (Runs.modify _ s) (Runs.pure _ _)
    · intro k kept
      rcases List.mem_append.mp kept with old | new
      · exact Or.inl old
      · exact Or.inr (List.mem_singleton.mp new)

/-- A read through the handle on a shard whose file exists, that succeeds on every handle
faithful to the tree at that shard's path, succeeds through the storage and keeps it sound. -/
theorem withShard_runs {α : Type} {n : Nat} {read : ShardRead (StateM Disk.Tree) α} {a : α}
    (sound : s.Sound t) (present : t.kindOf (s.config.shardPath n) = some .file)
    (reads : ∀ h : ShardHandle, h.Faithful t → h.number = n → h.path = s.config.shardPath n →
      ∃ h', Runs t read h (.ok a) h' ∧ ShardHandle.Keeps t h h') :
    ∃ shards, Runs t (withShard n read) s (.ok a) { s with shards := shards } ∧
      ({ s with shards := shards } : TreeStorage).Sound t := by
  obtain ⟨h, shards, opened, ⟨faithful, numbered, path⟩, members⟩ := shard_runs sound present
  obtain ⟨h', ran, kept⟩ := reads h faithful numbered path
  unfold Runs at ran
  unfold withShard
  refine ⟨shards.map fun k => if k.number == n then h' else k, Runs.bind opened ?_, ?_⟩
  · refine Runs.bind (Runs.lift _ _ (by rw [ran])) ?_
    rw [ran]
    exact Runs.bind (Runs.modify _ _) (ofExcept_ok a _)
  · refine ⟨sound.decoder_eq, fun k member => ?_⟩
    obtain ⟨k₀, kept₀, rfl⟩ := List.mem_map.mp member
    by_cases same : k₀.number = n
    · rw [if_pos (by simp [same])]
      exact ⟨kept.faithful, by rw [kept.path_eq, kept.number_eq, path, numbered]⟩
    · rw [if_neg (by simp [same])]
      rcases members k₀ kept₀ with old | rfl
      · exact sound.handles k₀ old
      · exact absurd numbered same

/-- Where an index entry points in a tree, under a configuration: the file of its shard holds, at
its offset, an accepted header of a block that ends inside the file, and `payload` is that
block's payload. -/
def Points (t : Disk.Tree) (config : StorageConfig) (entry : IndexEntry) (payload : List UInt8) :
    Prop :=
  ∃ bytes header, t.readFile (config.shardPath entry.shard) = .ok bytes ∧
    entry.offset + blockHeaderSize ≤ bytes.length ∧
    BlockHeader.parse (Bytes.slice bytes entry.offset blockHeaderSize) = .ok header ∧
    entry.offset + header.blockSize ≤ bytes.length ∧ entry.offset + blockHeaderSize < 2 ^ 64 ∧
    Bytes.slice bytes (entry.offset + blockHeaderSize) (header.blockSize - blockHeaderSize) = payload

/-- A payload that an entry points at is shorter than its block, whose size field has four
bytes. -/
theorem Points.length_lt {config : StorageConfig} {entry : IndexEntry} {payload : List UInt8}
    (points : Points t config entry payload) : payload.length < 2 ^ 64 := by
  obtain ⟨bytes, header, -, -, parsed, -, -, rfl⟩ := points
  have small := BlockHeader.blockSize_lt parsed
  have within : (Bytes.slice bytes (entry.offset + blockHeaderSize)
      (header.blockSize - blockHeaderSize)).length ≤ header.blockSize - blockHeaderSize := by
    simp only [Bytes.slice, List.length_take, List.length_drop]
    omega
  omega

theorem blockOf_runs {entry : IndexEntry} {payload : List UInt8} (sound : s.Sound t)
    (points : Points t s.config entry payload) :
    ∃ shards, Runs t (blockOf entry) s (.ok (SegmentedStream.ofSegments [Segment.whole payload]))
      { s with shards := shards } ∧ ({ s with shards := shards } : TreeStorage).Sound t := by
  obtain ⟨bytes, header, file, within, parsed, ends, addressable, rfl⟩ := points
  unfold blockOf
  refine withShard_runs sound (Disk.Tree.kindOf_of_readFile file) fun h faithful numbered path => ?_
  exact ShardHandle.block_runs faithful (path ▸ file) numbered.symm within parsed ends addressable

/-- The payload an entry points at is read, and stored payloads are taken as they are. -/
theorem readEntry_runs {entry : IndexEntry} {payload : List UInt8} (sound : s.Sound t)
    (points : Points t s.config entry payload) :
    ∃ shards, Runs t (readEntry entry) s (.ok payload) { s with shards := shards } ∧
      ({ s with shards := shards } : TreeStorage).Sound t := by
  obtain ⟨shards, ran, sound'⟩ := blockOf_runs sound points
  unfold readEntry
  refine ⟨shards, Runs.bind ran (Runs.bind (Runs.get _) ?_), sound'⟩
  rw [sound'.decoder_eq, SegmentedStream.toBytes_whole payload points.length_lt]
  exact Runs.bind (Runs.lift _ _ rfl) (ofExcept_ok payload _)

/-! ### The tables -/

theorem index_built {I : IndexStore} (built : s.indexCell = .parsed I) :
    Runs t index s (.ok I) s :=
  cached_parsed built rfl

theorem index_loaded {I : IndexStore} (unbuilt : s.indexCell = .unparsed)
    (loaded : (IndexStore.loadDir s.config.dataPath s.config.maxShardNumber : StateM Disk.Tree _).run t =
      (.ok I, t)) :
    Runs t index s (.ok I) { s with indexCell := .parsed I } := by
  unfold index
  refine cached_built (u := { s with indexCell := .parsing }) unbuilt
    (Runs.bind (Runs.get _) ?_)
  refine Runs.bind (Runs.lift _ _ (by rw [dataPath, loaded])) ?_
  rw [dataPath, loaded]
  exact ofExcept_ok I _

theorem encoding_built {E : EncodingTable} (built : s.encodingCell = .parsed E) :
    Runs t encoding s (.ok E) s :=
  cached_parsed built rfl

/-- The encoding table is built from the payload that the index gives for the configured
encoding key. -/
theorem encoding_loaded {I : IndexStore} {E : EncodingTable} {entry : IndexEntry}
    {bytes : List UInt8} (sound : s.Sound t) (unbuilt : s.encodingCell = .unparsed)
    (indexed : s.indexCell = .parsed I) (found : I.lookup s.encodingKey = some entry)
    (points : Points t s.config entry bytes) (parsed : EncodingTable.parse bytes = .ok E) :
    ∃ shards, Runs t encoding s (.ok E) { s with shards := shards, encodingCell := .parsed E } ∧
      ({ s with shards := shards } : TreeStorage).Sound t := by
  obtain ⟨shards, read, sound'⟩ :=
    readEntry_runs (s := { s with encodingCell := .parsing }) ⟨sound.decoder_eq, sound.handles⟩ points
  refine ⟨shards, ?_, ⟨sound'.decoder_eq, sound'.handles⟩⟩
  unfold encoding
  refine cached_built (u := { s with encodingCell := .parsing, shards := shards }) unbuilt ?_
  refine Runs.bind (index_built indexed) ?_
  refine Runs.bind (Runs.get _) ?_
  dsimp only
  rw [found]
  refine Runs.bind read ?_
  rw [parsed]
  exact ofExcept_ok E _

theorem root_built {R : RootTable} (built : s.rootCell = .parsed R) :
    Runs t root s (.ok R) s :=
  cached_parsed built rfl

/-- The root table is built from the payload that the index gives for the first file key that
the encoding table gives for the configured root checksum. -/
theorem root_loaded {I : IndexStore} {E : EncodingTable} {R : RootTable} {fileKey : Key}
    {entry : IndexEntry} {bytes : List UInt8} (sound : s.Sound t) (unbuilt : s.rootCell = .unparsed)
    (encoded : s.encodingCell = .parsed E) (indexed : s.indexCell = .parsed I)
    (keyed : E.fileKey? s.rootChecksum = some fileKey) (found : I.lookup fileKey = some entry)
    (points : Points t s.config entry bytes) (parsed : RootTable.parse bytes = .ok R) :
    ∃ shards, Runs t root s (.ok R) { s with shards := shards, rootCell := .parsed R } ∧
      ({ s with shards := shards } : TreeStorage).Sound t := by
  obtain ⟨shards, read, sound'⟩ :=
    readEntry_runs (s := { s with rootCell := .parsing }) ⟨sound.decoder_eq, sound.handles⟩ points
  refine ⟨shards, ?_, ⟨sound'.decoder_eq, sound'.handles⟩⟩
  unfold root
  refine cached_built (u := { s with rootCell := .parsing, shards := shards }) unbuilt ?_
  refine Runs.bind (encoding_built encoded) ?_
  refine Runs.bind (index_built indexed) ?_
  refine Runs.bind (Runs.get _) ?_
  dsimp only
  rw [keyed]
  dsimp only
  rw [found]
  refine Runs.bind read ?_
  rw [parsed]
  exact ofExcept_ok R _

/-! ### Lookups in built storage -/

/-- The three tables are built: the index `I`, the encoding table `E` and the root table `R`. -/
structure Built (s : TreeStorage) (I : IndexStore) (E : EncodingTable) (R : RootTable) : Prop where
  index_eq : s.indexCell = .parsed I
  encoding_eq : s.encodingCell = .parsed E
  root_eq : s.rootCell = .parsed R

variable {I : IndexStore} {E : EncodingTable} {R : RootTable}

theorem locate_built (built : Built s I E R) (nameHash : UInt64) :
    Runs t (Storage.locate nameHash) s (.ok (AssetStore.locate R E I nameHash)) s := by
  unfold Storage.locate
  exact Runs.bind (root_built built.root_eq) (Runs.bind (encoding_built built.encoding_eq)
    (Runs.bind (index_built built.index_eq) (Runs.pure _ _)))

theorem resolveHash_found {nameHash : UInt64} {entry : IndexEntry} {payload : List UInt8}
    (sound : s.Sound t) (built : Built s I E R)
    (found : AssetStore.locate R E I nameHash = .found entry) (points : Points t s.config entry payload) :
    ∃ shards, Runs t (resolveHash nameHash) s
      (.ok (some (SegmentedStream.ofSegments [Segment.whole payload]))) { s with shards := shards } ∧
      ({ s with shards := shards } : TreeStorage).Sound t := by
  obtain ⟨shards, read, sound'⟩ := blockOf_runs sound points
  refine ⟨shards, ?_, sound'⟩
  unfold resolveHash
  refine Runs.bind (locate_built built nameHash) ?_
  rw [found]
  exact Runs.map read

theorem resolveHash_missing {nameHash : UInt64} {stage : Stage} (built : Built s I E R)
    (missing : AssetStore.locate R E I nameHash = .missingAt stage) :
    Runs t (resolveHash nameHash) s (.ok none) s := by
  unfold resolveHash
  refine Runs.bind (locate_built built nameHash) ?_
  rw [missing]
  exact Runs.pure _ _

/-- A path that is not empty is resolved by its filename hash, whatever the storage runs on. -/
theorem resolve_eq {m : Type → Type} [Monad m] [DiskAccess m] (path : String) (named : path ≠ "") :
    (resolve path : StorageOp m _) = resolveHash (AssetPath.filenameHash path) := by
  have filled : path.isEmpty = false := by simpa using named
  unfold resolve
  rw [filled]
  rfl

theorem read_found {path : String} {entry : IndexEntry} {payload : List UInt8} (sound : s.Sound t)
    (built : Built s I E R) (named : path ≠ "")
    (found : AssetStore.locate R E I (AssetPath.filenameHash path) = .found entry)
    (points : Points t s.config entry payload) :
    ∃ shards, Runs t (Storage.read path) s (.ok (some payload)) { s with shards := shards } ∧
      ({ s with shards := shards } : TreeStorage).Sound t := by
  obtain ⟨shards, resolved, sound'⟩ := resolveHash_found sound built found points
  refine ⟨shards, ?_, sound'⟩
  unfold Storage.read
  rw [resolve_eq path named]
  refine Runs.bind resolved (Runs.bind (Runs.get _) ?_)
  rw [sound'.decoder_eq, SegmentedStream.toBytes_whole payload points.length_lt]
  exact Runs.bind (Runs.lift _ _ rfl) (Runs.map (ofExcept_ok payload _))

theorem read_missing {path : String} {stage : Stage} (built : Built s I E R) (named : path ≠ "")
    (missing : AssetStore.locate R E I (AssetPath.filenameHash path) = .missingAt stage) :
    Runs t (Storage.read path) s (.ok none) s := by
  unfold Storage.read
  rw [resolve_eq path named]
  exact Runs.bind (resolveHash_missing built missing) (Runs.pure _ _)

end Storage

end AssetStore
