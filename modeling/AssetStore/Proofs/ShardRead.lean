import AssetStore.Shard.Handle
import AssetStore.Disk.Tree
import AssetStore.Proofs.Bytes
/-!
# Reading blocks through shard handles

The storage and its shard handles run on the pure file tree as reads that keep state and may
fail (`TreeRead`). `Runs t op s r s'` says what one such read does on tree `t`: from state `s` it
answers `r` and leaves `s'`, and the tree stays as it was. One law per monad operation lets a
read be followed step by step through the code.

A handle keeps its file's bytes once read and the headers it accepted. It is faithful to a tree
when what it kept is what the tree holds (`ShardHandle.Faithful`); every read keeps it so
(`ShardHandle.Keeps`). Through a faithful handle, a block whose header lies in the file, is
accepted and declares a block that ends inside the file reads as the bytes from the end of the
header to the end of the block (`ShardHandle.block_runs`), whether the header was kept or not.
-/

namespace AssetStore

/-- A read of a fixed file tree that keeps state `σ` and may fail: how the storage and its shard
handles run on the pure file system. -/
abbrev TreeRead (σ : Type) := ExceptT Error (StateT σ (StateM Disk.Tree))

/-- Run on tree `t` from state `s`, `op` answers `r` and leaves state `s'`, and the tree is as it
was. -/
def Runs {σ α : Type} (t : Disk.Tree) (op : TreeRead σ α) (s : σ) (r : Except Error α) (s' : σ) :
    Prop :=
  ((op.run).run s).run t = ((r, s'), t)

namespace Runs

variable {σ α β : Type} {t : Disk.Tree}

/-! ### One law per monad operation -/

theorem bind {x : TreeRead σ α} {f : α → TreeRead σ β} {s u w : σ} {a : α} {r : Except Error β}
    (first : Runs t x s (.ok a) u) (next : Runs t (f a) u r w) : Runs t (x >>= f) s r w := by
  unfold Runs at first next ⊢
  simp only [ExceptT.run_bind, StateT.run_bind]
  simp only [StateT.run] at first next ⊢
  rw [first]
  exact next

theorem pure (a : α) (s : σ) : Runs t (Pure.pure a : TreeRead σ α) s (.ok a) s := rfl

theorem get (s : σ) : Runs t (MonadState.get : TreeRead σ σ) s (.ok s) s := rfl

theorem set (s s' : σ) : Runs t (MonadStateOf.set s' : TreeRead σ PUnit) s (.ok ⟨⟩) s' := rfl

theorem modify (f : σ → σ) (s : σ) :
    Runs t (MonadStateOf.modifyGet fun s => ((), f s) : TreeRead σ Unit) s (.ok ()) (f s) := rfl

theorem lift (x : StateM Disk.Tree α) (s : σ) (kept : (x.run t).2 = t) :
    Runs t (monadLift x : TreeRead σ α) s (.ok (x.run t).1) s := by
  unfold Runs
  show ((Except.ok (x.run t).1, s), (x.run t).2) = _
  rw [kept]

end Runs

/-- An accepted header declares a block below `2 ^ 32` bytes: its size field has four bytes. -/
theorem BlockHeader.blockSize_lt {data : List UInt8} {header : BlockHeader}
    (parsed : BlockHeader.parse data = .ok header) : header.blockSize < 2 ^ 32 := by
  unfold BlockHeader.parse at parsed
  cases read : BlockHeader.read? data with
  | none =>
    rw [read] at parsed
    cases parsed
  | some found =>
    rw [read] at parsed
    have same : found = header := by
      dsimp only at parsed
      by_cases undersized : found.blockSize < blockHeaderSize
      · rw [if_pos undersized] at parsed
        cases parsed
      · rw [if_neg undersized] at parsed
        cases parsed
        rfl
    subst same
    unfold BlockHeader.read? at read
    split at read
    · cases read
      exact Bytes.le_lt_of_length_le_four (Bytes.length_slice_le _ _ _)
    · cases read

/-- An accepted header declares a block at least as large as itself. -/
theorem BlockHeader.le_blockSize {data : List UInt8} {header : BlockHeader}
    (parsed : BlockHeader.parse data = .ok header) : blockHeaderSize ≤ header.blockSize := by
  unfold BlockHeader.parse at parsed
  split at parsed
  · cases parsed
  · split at parsed
    · cases parsed
    · cases parsed
      omega

namespace ShardHandle

/-- A handle agrees with a tree: the bytes it kept are its file's, and every header it kept was
read from its file at its offset, inside the file, and accepted. -/
structure Faithful (t : Disk.Tree) (h : ShardHandle) : Prop where
  contents_eq : ∀ bytes, h.contents = some bytes → t.readFile h.path = .ok bytes
  headers_read : ∀ offset header, (offset, header) ∈ h.headers →
    ∃ bytes, t.readFile h.path = .ok bytes ∧ offset + blockHeaderSize ≤ bytes.length ∧
      BlockHeader.parse (Bytes.slice bytes offset blockHeaderSize) = .ok header

variable {t : Disk.Tree} {h : ShardHandle} {bytes : List UInt8}

/-! ### Reads through one handle -/

theorem readFile_run (path : String) :
    ((DiskAccess.readFile path : StateM Disk.Tree _).run t) = (t.readFile path, t) := rfl

/-- The file's bytes are those of the tree, and the handle keeps them. -/
theorem contents?_runs (faithful : h.Faithful t) (file : t.readFile h.path = .ok bytes) :
    Runs t (contents? : ShardRead (StateM Disk.Tree) _) h (.ok bytes) { h with contents := some bytes } := by
  unfold contents?
  refine Runs.bind (Runs.get h) ?_
  cases kept : h.contents with
  | some cached =>
    have same : cached = bytes := by
      have := faithful.contents_eq cached kept
      rw [file] at this
      cases this
      rfl
    subst same
    have unchanged : { h with contents := some cached } = h := by
      cases h
      simp only at kept
      rw [kept]
    rw [unchanged]
    exact Runs.pure _ _
  | none =>
    refine Runs.bind (Runs.lift _ h rfl) ?_
    rw [readFile_run, file]
    exact Runs.bind (Runs.set _ _) (Runs.pure _ _)

/-- Bytes inside the file are read. -/
theorem readAt_runs (faithful : h.Faithful t) (file : t.readFile h.path = .ok bytes)
    {start length : Nat} (within : start + length ≤ bytes.length) :
    Runs t (readAt start length : ShardRead (StateM Disk.Tree) _) h
      (.ok (Bytes.slice bytes start length)) { h with contents := some bytes } := by
  unfold readAt
  refine Runs.bind (contents?_runs faithful file) ?_
  rw [range, if_neg (by omega)]
  exact Runs.pure _ _

/-- What a read through a handle keeps: the handle stays on the same shard and file and faithful
to the tree. -/
structure Keeps (t : Disk.Tree) (h h' : ShardHandle) : Prop where
  faithful : h'.Faithful t
  number_eq : h'.number = h.number
  path_eq : h'.path = h.path

theorem Keeps.trans {h₁ h₂ : ShardHandle} (first : Keeps t h h₁) (second : Keeps t h₁ h₂) :
    Keeps t h h₂ :=
  ⟨second.faithful, second.number_eq.trans first.number_eq, second.path_eq.trans first.path_eq⟩

theorem Keeps.withContents (faithful : h.Faithful t) (file : t.readFile h.path = .ok bytes) :
    Keeps t h { h with contents := some bytes } :=
  ⟨⟨fun cached kept => by cases kept; exact file, faithful.headers_read⟩, rfl, rfl⟩

/-- An accepted header inside the file is read, from the kept headers or from the file. -/
theorem mem_headers_of_lookup {offset : Nat} {header : BlockHeader}
    (found : h.headers.lookup offset = some header) : (offset, header) ∈ h.headers := by
  obtain ⟨front, back, split, -⟩ := List.lookup_eq_some_iff.mp found
  rw [split]
  exact List.mem_append_right _ List.mem_cons_self

theorem headerAt_runs (faithful : h.Faithful t) (file : t.readFile h.path = .ok bytes)
    {offset : Nat} {header : BlockHeader} (within : offset + blockHeaderSize ≤ bytes.length)
    (parsed : BlockHeader.parse (Bytes.slice bytes offset blockHeaderSize) = .ok header) :
    ∃ h', Runs t (headerAt offset : ShardRead (StateM Disk.Tree) _) h (.ok header) h' ∧
      Keeps t h h' := by
  unfold headerAt
  cases found : h.headers.lookup offset with
  | some cached =>
    obtain ⟨bytes', file', -, parsed'⟩ :=
      faithful.headers_read offset cached (mem_headers_of_lookup found)
    rw [file] at file'
    cases file'
    rw [parsed] at parsed'
    cases parsed'
    refine ⟨h, Runs.bind (Runs.get h) ?_, ⟨faithful, rfl, rfl⟩⟩
    rw [found]
    exact Runs.pure _ _
  | none =>
    refine ⟨{ h with contents := some bytes, headers := h.headers ++ [(offset, header)] },
      Runs.bind (Runs.get h) ?_, ?_⟩
    · rw [found]
      refine Runs.bind (readAt_runs faithful file within) ?_
      rw [parsed]
      exact Runs.bind (Runs.modify _ _) (Runs.pure _ _)
    · refine ⟨⟨fun cached kept => by cases kept; exact file, fun offset' header' member => ?_⟩, rfl, rfl⟩
      rcases List.mem_append.mp member with old | new
      · exact faithful.headers_read offset' header' old
      · rw [List.mem_singleton] at new
        cases new
        exact ⟨bytes, file, within, parsed⟩

/-- The block an entry points at is read when its header lies in the file, is accepted, and
declares a block that ends inside the file: the payload is the bytes from the end of the header
to the end of the block. -/
theorem block_runs (faithful : h.Faithful t) (file : t.readFile h.path = .ok bytes)
    {entry : IndexEntry} {header : BlockHeader} (same : entry.shard = h.number)
    (within : entry.offset + blockHeaderSize ≤ bytes.length)
    (parsed : BlockHeader.parse (Bytes.slice bytes entry.offset blockHeaderSize) = .ok header)
    (ends : entry.offset + header.blockSize ≤ bytes.length)
    (addressable : entry.offset + blockHeaderSize < 2 ^ 64) :
    ∃ h', Runs t (block entry : ShardRead (StateM Disk.Tree) _) h
      (.ok (SegmentedStream.ofSegments [Segment.whole (Bytes.slice bytes
        (entry.offset + blockHeaderSize) (header.blockSize - blockHeaderSize))])) h' ∧
      Keeps t h h' := by
  have large := BlockHeader.le_blockSize parsed
  have start : header.dataStart entry.offset = entry.offset + blockHeaderSize := by
    unfold BlockHeader.dataStart
    omega
  obtain ⟨h₁, headerRead, kept⟩ := headerAt_runs faithful file within parsed
  have file₁ : t.readFile h₁.path = .ok bytes := kept.path_eq ▸ file
  unfold block
  refine ⟨_, Runs.bind (Runs.get h) ?_, kept.trans (Keeps.withContents kept.faithful file₁)⟩
  rw [if_neg (by simp [same])]
  refine Runs.bind headerRead ?_
  rw [start, BlockHeader.dataSize]
  refine Runs.bind (readAt_runs kept.faithful file₁ (by omega)) ?_
  have short : (Bytes.slice bytes (entry.offset + blockHeaderSize)
      (header.blockSize - blockHeaderSize)).length < 2 ^ 64 := by
    have sliced := Bytes.length_slice_le bytes (entry.offset + blockHeaderSize)
      (header.blockSize - blockHeaderSize)
    have small := BlockHeader.blockSize_lt parsed
    omega
  rw [payloadStream_of_lt _ short]
  exact Runs.pure _ _

end ShardHandle

end AssetStore
