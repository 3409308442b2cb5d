import AssetStore.Storage
import AssetStore.Proofs.ShardRead
/-!
# Storage over files that stay as they are

A run in which nothing outside the storage changes: the files answer every access the same way
whenever it is made (`Files`), and the storage reads them through a reader (`FixedFiles`), so
that its payload decoder, too, answers each payload the same way every time. `runOn op F s` is
the outcome of an operation over files `F` from state `s`, with the state it leaves; one law per
monad operation lets a run be followed step by step through the code.

A shard handle keeps its file's bytes and the block headers it accepted. It agrees with the
files when what it kept is what the file holds (`ShardHandle.Agrees`). Through such a handle a
block reads as it reads straight from the file (`ShardHandle.blockIn`), whether the handle had
kept the bytes and the header or not (`ShardHandle.block_runOn`), and the handle agrees after.
-/

namespace AssetStore

/-- Files that stay as they are: what each path names, the bytes of each file, the names in each
directory and the answer to a write, the same whenever they are asked. -/
structure Files where
  kindOf : String → Option EntryKind
  readFile : String → Except IoError (List UInt8)
  listDir : String → Except IoError (List String)
  writeFile : String → List UInt8 → Except IoError Unit

/-- A run over files that stay as they are. -/
abbrev FixedFiles := ReaderT Files Id

instance : DiskAccess FixedFiles where
  readFile path := return (← read).readFile path
  kindOf path := return (← read).kindOf path
  listDir path := return (← read).listDir path
  writeFile path bytes := return (← read).writeFile path bytes

namespace FixedFiles

variable {σ α β : Type}

/-- Runs a read that keeps state `σ` and may fail, over files `F` from state `s`: its outcome
and its last state. -/
def runOn (x : ExceptT Error (StateT σ FixedFiles) α) (F : Files) (s : σ) : Except Error α × σ :=
  ((ExceptT.run x).run s).run F

/-- A sequence runs its first part, then, if that succeeds, the rest from where it left the
state. -/
theorem runOn_bind (x : ExceptT Error (StateT σ FixedFiles) α)
    (f : α → ExceptT Error (StateT σ FixedFiles) β) (F : Files) (s : σ) :
    runOn (x >>= f) F s = match (runOn x F s).1 with
      | .ok a => runOn (f a) F (runOn x F s).2
      | .error e => (.error e, (runOn x F s).2) := by
  simp only [runOn, ExceptT.run_bind, StateT.run_bind, ReaderT.run_bind]
  generalize ((ExceptT.run x).run s).run F = ran
  rcases ran with ⟨_ | a, s'⟩ <;> rfl

theorem runOn_pure (a : α) (F : Files) (s : σ) :
    runOn (pure a : ExceptT Error (StateT σ FixedFiles) α) F s = (.ok a, s) := rfl

theorem runOn_throw (e : Error) (F : Files) (s : σ) :
    runOn (throw e : ExceptT Error (StateT σ FixedFiles) α) F s = (.error e, s) := rfl

theorem runOn_get (F : Files) (s : σ) :
    runOn (get : ExceptT Error (StateT σ FixedFiles) σ) F s = (.ok s, s) := rfl

theorem runOn_set (s' : σ) (F : Files) (s : σ) :
    runOn (set s' : ExceptT Error (StateT σ FixedFiles) PUnit) F s = (.ok ⟨⟩, s') := rfl

theorem runOn_modify (f : σ → σ) (F : Files) (s : σ) :
    runOn (modify f : ExceptT Error (StateT σ FixedFiles) PUnit) F s = (.ok ⟨⟩, f s) := rfl

theorem runOn_lift (x : FixedFiles α) (F : Files) (s : σ) :
    runOn (monadLift x : ExceptT Error (StateT σ FixedFiles) α) F s = (.ok (x.run F), s) := rfl

theorem runOn_map (f : α → β) (x : ExceptT Error (StateT σ FixedFiles) α) (F : Files) (s : σ) :
    runOn (f <$> x) F s = (f <$> (runOn x F s).1, (runOn x F s).2) := by
  rw [map_eq_pure_bind, runOn_bind]
  rcases (runOn x F s).1 with _ | a <;> rfl

theorem readFile_run (F : Files) (path : String) :
    (DiskAccess.readFile path : FixedFiles _).run F = F.readFile path := rfl

theorem kindOf_run (F : Files) (path : String) :
    (DiskAccess.kindOf path : FixedFiles _).run F = F.kindOf path := rfl

end FixedFiles

open FixedFiles

namespace ShardHandle

/-- A handle is made on a path that names a file. -/
theorem make_run (F : Files) (n : Nat) (path : String) (useMmap : Bool) :
    (make n path useMmap : FixedFiles _).run F = match F.kindOf path with
      | some .file => .ok ⟨n, path, useMmap, none, []⟩
      | _ => .error (.ioFailure n path 0 .shardMissing) := by
  unfold make
  cases kind : F.kindOf path with
  | none => simp only [ReaderT.run_bind, kindOf_run, kind]; rfl
  | some entry => cases entry <;> simp only [ReaderT.run_bind, kindOf_run, kind] <;> rfl

/-! ### Blocks read straight from a file -/

/-- The `length` bytes from `start` of the file of shard `number` at `path`, or the failure of a
read there. -/
def rangeIn (number : Nat) (path : String) (bytes : List UInt8) (start length : Nat) :
    Except Error (List UInt8) :=
  (range bytes start length).mapError (.ioFailure number path start)

/-- The header at `offset` of the file of shard `number` at `path`, read and checked. -/
def headerIn (number : Nat) (path : String) (bytes : List UInt8) (offset : Nat) :
    Except Error BlockHeader := do
  let raw ← rangeIn number path bytes offset blockHeaderSize
  (BlockHeader.parse raw).mapError BlockHeader.Fault.toError

/-- The payload of the block an entry points at, read straight from what reading the file of
shard `number` at `path` gives: the header at the entry's offset, then the payload from the end
of the header to the end of the block. -/
def blockIn (number : Nat) (path : String) (file : Except IoError (List UInt8)) (entry : IndexEntry) :
    Except Error SegmentedStream := do
  let bytes ← file.mapError (.ioFailure number path 0)
  let header ← headerIn number path bytes entry.offset
  let payload ← rangeIn number path bytes (header.dataStart entry.offset) header.dataSize
  pure (SegmentedStream.ofSegments [Segment.whole payload])

/-- A range read from a file has at most the length asked for. -/
theorem length_le_of_rangeIn {number : Nat} {path : String} {bytes : List UInt8}
    {start length : Nat} {part : List UInt8}
    (read : rangeIn number path bytes start length = .ok part) : part.length ≤ length := by
  unfold rangeIn range at read
  split at read
  · cases read
  · cases read
    exact Bytes.length_slice_le _ _ _

/-- A header read from a file declares a block below `2 ^ 32` bytes. -/
theorem blockSize_lt_of_headerIn {number : Nat} {path : String} {bytes : List UInt8}
    {offset : Nat} {header : BlockHeader} (read : headerIn number path bytes offset = .ok header) :
    header.blockSize < 2 ^ 32 := by
  unfold headerIn at read
  cases ranged : rangeIn number path bytes offset blockHeaderSize with
  | error e =>
    simp only [ranged, bind, Except.bind] at read
    cases read
  | ok raw =>
    simp only [ranged, bind, Except.bind] at read
    cases parsed : BlockHeader.parse raw with
    | error f =>
      rw [parsed] at read
      cases read
    | ok found =>
      rw [parsed] at read
      cases read
      exact BlockHeader.blockSize_lt parsed

theorem blockIn_ok (number : Nat) (path : String) (bytes : List UInt8) (entry : IndexEntry) :
    blockIn number path (.ok bytes) entry = (headerIn number path bytes entry.offset >>= fun header =>
      rangeIn number path bytes (header.dataStart entry.offset) header.dataSize >>= fun payload =>
        pure (SegmentedStream.ofSegments [Segment.whole payload])) := rfl

/-! ### Handles that agree with the files -/

/-- A handle agrees with the files: the bytes it kept are its file's, and every header it kept
is the one its file holds at its offset. -/
structure Agrees (F : Files) (h : ShardHandle) : Prop where
  contents_eq : ∀ bytes, h.contents = some bytes → F.readFile h.path = .ok bytes
  headers_read : ∀ offset header, (offset, header) ∈ h.headers →
    ∃ bytes, F.readFile h.path = .ok bytes ∧ headerIn h.number h.path bytes offset = .ok header

/-- What a read through handle `h` leaves: a handle on the same shard and file that agrees with
the files. -/
structure Kept (F : Files) (h h' : ShardHandle) : Prop where
  agrees : h'.Agrees F
  number_eq : h'.number = h.number
  path_eq : h'.path = h.path

variable {F : Files} {h : ShardHandle}

theorem agrees_fresh (number : Nat) (path : String) (useMmap : Bool) :
    (⟨number, path, useMmap, none, []⟩ : ShardHandle).Agrees F :=
  ⟨fun _ kept => (by cases kept), fun _ _ kept => (by cases kept)⟩

theorem Kept.refl (agrees : h.Agrees F) : Kept F h h := ⟨agrees, rfl, rfl⟩

theorem Kept.trans {h₁ h₂ : ShardHandle} (first : Kept F h h₁) (second : Kept F h₁ h₂) :
    Kept F h h₂ :=
  ⟨second.agrees, second.number_eq.trans first.number_eq, second.path_eq.trans first.path_eq⟩

theorem Kept.withContents {bytes : List UInt8} (agrees : h.Agrees F)
    (file : F.readFile h.path = .ok bytes) : Kept F h { h with contents := some bytes } :=
  ⟨⟨fun _ kept => by cases kept; exact file, agrees.headers_read⟩, rfl, rfl⟩

/-! ### Reads through a handle that agrees -/

/-- The file's bytes, kept or read: a read failure is one at offset zero. -/
theorem contents?_runOn (agrees : h.Agrees F) :
    (runOn contents? F h).1 = (F.readFile h.path).mapError (.ioFailure h.number h.path 0) ∧
      Kept F h (runOn contents? F h).2 := by
  unfold contents?
  rw [runOn_bind, runOn_get]
  dsimp only
  cases kept : h.contents with
  | some bytes =>
    rw [agrees.contents_eq bytes kept]
    exact ⟨rfl, Kept.refl agrees⟩
  | none =>
    rw [runOn_bind, runOn_lift, FixedFiles.readFile_run]
    cases read : F.readFile h.path with
    | ok bytes =>
      dsimp only
      rw [runOn_bind, runOn_set]
      exact ⟨rfl, Kept.withContents agrees read⟩
    | error e => exact ⟨rfl, Kept.refl agrees⟩

/-- Bytes read through the handle are those of the file, or the failure to read it or to find
them in it. -/
theorem readAt_runOn (agrees : h.Agrees F) (start length : Nat) :
    (runOn (readAt start length) F h).1 =
        ((F.readFile h.path).mapError (.ioFailure h.number h.path 0) >>= fun bytes =>
          rangeIn h.number h.path bytes start length) ∧
      Kept F h (runOn (readAt start length) F h).2 := by
  unfold readAt
  obtain ⟨answered, kept⟩ := contents?_runOn agrees
  rw [runOn_bind, answered]
  cases F.readFile h.path with
  | error e => exact ⟨rfl, kept⟩
  | ok bytes =>
    show _ = rangeIn h.number h.path bytes start length ∧ _
    dsimp only [Except.mapError]
    cases found : range bytes start length with
    | ok part => exact ⟨by rw [rangeIn, found]; rfl, kept⟩
    | error e =>
      rw [runOn_bind, runOn_get]
      dsimp only
      rw [runOn_throw, rangeIn, found, failure, kept.number_eq, kept.path_eq]
      exact ⟨rfl, kept⟩

/-- A header read through the handle is the one the file holds at the offset, kept or read
and checked. -/
theorem headerAt_runOn (agrees : h.Agrees F) (offset : Nat) :
    (runOn (headerAt offset) F h).1 =
        ((F.readFile h.path).mapError (.ioFailure h.number h.path 0) >>= fun bytes =>
          headerIn h.number h.path bytes offset) ∧
      Kept F h (runOn (headerAt offset) F h).2 := by
  unfold headerAt
  rw [runOn_bind, runOn_get]
  dsimp only
  cases found : h.headers.lookup offset with
  | some header =>
    obtain ⟨bytes, file, read⟩ := agrees.headers_read offset header (mem_headers_of_lookup found)
    rw [runOn_pure, file]
    exact ⟨read.symm, Kept.refl agrees⟩
  | none =>
    rw [runOn_bind]
    obtain ⟨answered, kept⟩ := readAt_runOn agrees offset blockHeaderSize
    generalize runOn (readAt offset blockHeaderSize) F h = ran at answered kept ⊢
    obtain ⟨result, h₁⟩ := ran
    dsimp only at answered kept
    cases file : F.readFile h.path with
    | error e =>
      rw [file] at answered
      subst answered
      exact ⟨rfl, kept⟩
    | ok bytes =>
      rw [file] at answered
      have ranged : result = rangeIn h.number h.path bytes offset blockHeaderSize := answered
      show _ = headerIn h.number h.path bytes offset ∧ _
      rw [headerIn, ← ranged]
      cases result with
      | error e => exact ⟨rfl, kept⟩
      | ok raw =>
        show _ = (BlockHeader.parse raw).mapError BlockHeader.Fault.toError ∧ _
        dsimp only
        cases parsed : BlockHeader.parse raw with
        | error fault => exact ⟨rfl, kept⟩
        | ok header =>
          rw [runOn_bind, runOn_modify]
          dsimp only
          rw [runOn_pure]
          refine ⟨rfl, kept.trans ⟨⟨kept.agrees.contents_eq, fun offset' header' member => ?_⟩, rfl, rfl⟩⟩
          rcases List.mem_append.mp member with old | new
          · exact kept.agrees.headers_read offset' header' old
          · obtain ⟨rfl, rfl⟩ := Prod.mk.inj (List.mem_singleton.mp new)
            refine ⟨bytes, by rw [kept.path_eq, file], ?_⟩
            rw [kept.number_eq, kept.path_eq, headerIn, ← ranged]
            show (BlockHeader.parse raw).mapError _ = _
            rw [parsed]
            rfl

theorem payloadStream_runOn_state (payload : List UInt8) : (runOn (payloadStream payload) F h).2 = h := by
  unfold payloadStream
  split <;> rfl

/-- A block read through a handle on the entry's shard is the block read straight from the
file, whatever the handle had kept. -/
theorem block_runOn (agrees : h.Agrees F) {entry : IndexEntry} (same : entry.shard = h.number) :
    (runOn (block entry) F h).1 = blockIn h.number h.path (F.readFile h.path) entry ∧
      Kept F h (runOn (block entry) F h).2 := by
  unfold block
  rw [runOn_bind, runOn_get]
  dsimp only
  rw [if_neg (by simp [same]), runOn_bind]
  obtain ⟨answered, kept⟩ := headerAt_runOn agrees entry.offset
  generalize runOn (headerAt entry.offset) F h = ran at answered kept ⊢
  obtain ⟨result, h₁⟩ := ran
  dsimp only at answered kept
  cases file : F.readFile h.path with
  | error e =>
    rw [file] at answered
    subst answered
    exact ⟨rfl, kept⟩
  | ok bytes =>
    rw [file] at answered
    have headed : result = headerIn h.number h.path bytes entry.offset := answered
    rw [blockIn_ok, ← headed]
    cases result with
    | error e => exact ⟨rfl, kept⟩
    | ok header =>
      dsimp only
      rw [runOn_bind]
      obtain ⟨read, kept₂⟩ := readAt_runOn kept.agrees (header.dataStart entry.offset) header.dataSize
      generalize runOn (readAt (header.dataStart entry.offset) header.dataSize) F h₁ = ran at read kept₂ ⊢
      obtain ⟨payload, h₂⟩ := ran
      dsimp only at read kept₂
      rw [kept.path_eq, kept.number_eq, file] at read
      have ranged : payload = rangeIn h.number h.path bytes (header.dataStart entry.offset)
          header.dataSize := read
      show _ = (rangeIn h.number h.path bytes (header.dataStart entry.offset) header.dataSize >>=
        fun payload => pure (SegmentedStream.ofSegments [Segment.whole payload])) ∧ _
      rw [← ranged]
      cases payload with
      | error e => exact ⟨rfl, kept.trans kept₂⟩
      | ok payload =>
        have short : payload.length < 2 ^ 64 := by
          have within := length_le_of_rangeIn ranged.symm
          have small := blockSize_lt_of_headerIn headed.symm
          unfold BlockHeader.dataSize at within
          omega
        dsimp only
        rw [payloadStream_of_lt payload short, runOn_pure]
        exact ⟨rfl, kept.trans kept₂⟩

end ShardHandle

end AssetStore
