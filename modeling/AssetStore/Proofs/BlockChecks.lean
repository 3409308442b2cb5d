import AssetStore.Proofs.FixedFiles
import AssetStore.Proofs.StorageRead
import AssetStore.Proofs.FirstByKey
/-!
# The checks of a block read

A block read through a shard handle makes four checks, said here against the bytes of the
shard's file (`expectedBlock`): the entry must name the handle's shard; the 30-byte header at the
entry's offset must lie within the file; the header must declare a block no smaller than itself;
and the payload, from the end of the header to the end of the block, must lie within the file.
The first check that fails gives the answer, a failed read naming the offset it read at; the size
the index records plays no part. After any reads through the handle over the same files, a block
read answers exactly that (`block_checks_in_order`): what the handle kept of the file and of its
headers changes nothing.

A handle keeps the header of an offset the first time it reads it and accepts it, whether or not
the payload read after it succeeds. So after any reads it holds one header for each distinct
offset whose header it read and accepted.
-/

namespace AssetStore

theorem Bytes.slice_slice (bytes : List UInt8) {start n skip k : Nat} (within : skip + k ≤ n) :
    Bytes.slice (Bytes.slice bytes start n) skip k = Bytes.slice bytes (start + skip) k := by
  simp only [Bytes.slice, List.drop_take, List.take_take, List.drop_drop]
  rw [Nat.min_eq_left (by omega), Nat.add_comm]

namespace ShardHandle

open FixedFiles

/-! ### The checks, against the file's bytes -/

/-- The block size the header at `offset` declares: four bytes, little-endian, after its 16-byte
hash. -/
def declaredSize (bytes : List UInt8) (offset : Nat) : Nat :=
  Bytes.le (Bytes.slice bytes (offset + 16) 4)

theorem declaredSize_lt (bytes : List UInt8) (offset : Nat) : declaredSize bytes offset < 2 ^ 32 :=
  Bytes.le_lt_of_length_le_four (Bytes.length_slice_le _ _ _)

/-- Whether the header at `offset` lies within the file and declares a block no smaller than
itself: the headers a handle accepts. -/
def acceptsHeaderAt (bytes : List UInt8) (offset : Nat) : Bool :=
  decide (offset + blockHeaderSize ≤ bytes.length) &&
    decide (blockHeaderSize ≤ declaredSize bytes offset)

/-- What reading the block whose header is at `offset` of the file of shard `number` at `path`
answers: the payload from the end of the header to the end of the block, or the first check that
fails, a failed read naming where it read. -/
def payloadAt (number : Nat) (path : String) (bytes : List UInt8) (offset : Nat) :
    Except Error (List UInt8) :=
  let size := declaredSize bytes offset
  if bytes.length < offset + blockHeaderSize then
    .error (.ioFailure number path offset
      (.rangePastEnd offset (offset + blockHeaderSize) bytes.length))
  else if size < blockHeaderSize then .error (BlockHeader.Fault.undersized size).toError
  else if bytes.length < offset + size then
    .error (.ioFailure number path (offset + blockHeaderSize)
      (.rangePastEnd (offset + blockHeaderSize) (offset + size) bytes.length))
  else .ok (Bytes.slice bytes (offset + blockHeaderSize) (size - blockHeaderSize))

/-- What reading the block of `entry` through the handle on shard `number` at `path` answers:
an entry of another shard is refused before anything is read. -/
def expectedBlock (number : Nat) (path : String) (bytes : List UInt8) (entry : IndexEntry) :
    Except Error (List UInt8) :=
  if entry.shard ≠ number then
    .error (.invalidArgument s!"entry {entry.key.hex} belongs to shard {entry.shard}, not {number}")
  else payloadAt number path bytes entry.offset

theorem rangeIn_eq (number : Nat) (path : String) (bytes : List UInt8) (start length : Nat) :
    rangeIn number path bytes start length =
      if bytes.length < start + length then
        .error (.ioFailure number path start (.rangePastEnd start (start + length) bytes.length))
      else .ok (Bytes.slice bytes start length) := by
  unfold rangeIn range
  split <;> rfl

/-- A header that lies within the file reads its declared size. -/
theorem read?_slice (bytes : List UInt8) {offset : Nat}
    (within : offset + blockHeaderSize ≤ bytes.length) :
    BlockHeader.read? (Bytes.slice bytes offset blockHeaderSize) =
      some ⟨Bytes.slice bytes offset 16, declaredSize bytes offset,
        Bytes.slice bytes (offset + 20) 10⟩ := by
  have long : blockHeaderSize ≤ (Bytes.slice bytes offset blockHeaderSize).length := by
    simp only [Bytes.slice, List.length_take, List.length_drop]
    omega
  have hash : (Bytes.slice bytes offset blockHeaderSize).take 16 = Bytes.slice bytes offset 16 := by
    simp only [Bytes.slice, List.take_take]
    rfl
  unfold BlockHeader.read?
  rw [if_pos long, hash, Bytes.slice_slice _ (by decide), Bytes.slice_slice _ (by decide)]
  rfl

/-- A header read straight from the file: refused when it passes the end of the file or declares
a block smaller than itself. -/
theorem headerIn_eq (number : Nat) (path : String) (bytes : List UInt8) (offset : Nat) :
    headerIn number path bytes offset =
      if bytes.length < offset + blockHeaderSize then
        .error (.ioFailure number path offset
          (.rangePastEnd offset (offset + blockHeaderSize) bytes.length))
      else if declaredSize bytes offset < blockHeaderSize then
        .error (BlockHeader.Fault.undersized (declaredSize bytes offset)).toError
      else .ok ⟨Bytes.slice bytes offset 16, declaredSize bytes offset,
        Bytes.slice bytes (offset + 20) 10⟩ := by
  unfold headerIn
  rw [rangeIn_eq]
  by_cases past : bytes.length < offset + blockHeaderSize
  · rw [if_pos past, if_pos past]
    rfl
  · rw [if_neg past, if_neg past]
    show (BlockHeader.parse _).mapError _ = _
    rw [BlockHeader.parse, read?_slice bytes (by omega)]
    dsimp only
    split <;> rfl

theorem headerIn_ok_iff (number : Nat) (path : String) (bytes : List UInt8) (offset : Nat) :
    (∃ header, headerIn number path bytes offset = .ok header) ↔ acceptsHeaderAt bytes offset := by
  rw [headerIn_eq, acceptsHeaderAt]
  by_cases past : bytes.length < offset + blockHeaderSize
  · simp [past]
  · by_cases small : declaredSize bytes offset < blockHeaderSize
    · simp [past, small]
    · simp [past, small]
      omega

/-- A block read straight from the file makes the three checks on the file, in order. -/
theorem blockIn_toBytes (number : Nat) (path : String) (bytes : List UInt8) (entry : IndexEntry)
    (small : entry.offset < 2 ^ 32) :
    (blockIn number path (.ok bytes) entry).map SegmentedStream.toBytes =
      payloadAt number path bytes entry.offset := by
  rw [blockIn_ok, headerIn_eq, payloadAt]
  by_cases past : bytes.length < entry.offset + blockHeaderSize
  · rw [if_pos past, if_pos past]
    rfl
  rw [if_neg past, if_neg past]
  by_cases undersized : declaredSize bytes entry.offset < blockHeaderSize
  · rw [if_pos undersized, if_pos undersized]
    rfl
  rw [if_neg undersized, if_neg undersized]
  have start : BlockHeader.dataStart ⟨Bytes.slice bytes entry.offset 16, declaredSize bytes entry.offset,
      Bytes.slice bytes (entry.offset + 20) 10⟩ entry.offset = entry.offset + blockHeaderSize := by
    unfold BlockHeader.dataStart blockHeaderSize
    omega
  have stop : entry.offset + blockHeaderSize + (declaredSize bytes entry.offset - blockHeaderSize) =
      entry.offset + declaredSize bytes entry.offset := by
    omega
  show (rangeIn number path bytes _ _ >>= _).map _ = _
  rw [start, BlockHeader.dataSize, rangeIn_eq, stop]
  by_cases short : bytes.length < entry.offset + declaredSize bytes entry.offset
  · rw [if_pos short]
    rfl
  · rw [if_neg short]
    show Except.ok (SegmentedStream.ofSegments [Segment.whole _]).toBytes = _
    have bounded := declaredSize_lt bytes entry.offset
    rw [SegmentedStream.toBytes_whole _ (by simp [Bytes.slice]; omega)]

/-! ### Reads through a handle -/

variable {F : Files} {h : ShardHandle}

/-- The size an entry records is never read. -/
theorem block_ignores_size (entry : IndexEntry) (size : Nat) :
    (block { entry with size } : ShardRead FixedFiles _) = block entry := rfl

/-- An entry of another shard is refused, and the handle is left as it was. -/
theorem block_other_shard {entry : IndexEntry} (other : entry.shard ≠ h.number) :
    runOn (block entry) F h =
      (.error (.invalidArgument
        s!"entry {entry.key.hex} belongs to shard {entry.shard}, not {h.number}"), h) := by
  unfold block
  rw [runOn_bind, runOn_get]
  dsimp only
  rw [if_pos (by simpa using other)]
  rfl

/-- Through a handle that agrees with the files, a block read answers what the checks give
against the bytes of its file. -/
theorem block_answer {bytes : List UInt8} (agrees : h.Agrees F)
    (file : F.readFile h.path = .ok bytes) (entry : IndexEntry) (small : entry.offset < 2 ^ 32) :
    (runOn (block entry) F h).1.map SegmentedStream.toBytes =
      expectedBlock h.number h.path bytes entry := by
  unfold expectedBlock
  by_cases other : entry.shard ≠ h.number
  · rw [if_pos other, block_other_shard other]
    rfl
  · rw [if_neg other, (block_runOn agrees (not_not.mp other)).1, file]
    exact blockIn_toBytes h.number h.path bytes entry small

/-! ### What a handle keeps of the headers -/

/-- The offsets whose headers a handle keeps, in the order it read them. -/
def keptOffsets (h : ShardHandle) : List Nat := h.headers.map (·.1)

theorem contents?_headers (F : Files) (h : ShardHandle) :
    (runOn contents? F h).2.headers = h.headers := by
  unfold contents?
  rw [runOn_bind, runOn_get]
  dsimp only
  cases h.contents with
  | some bytes => rfl
  | none =>
    rw [runOn_bind, runOn_lift, FixedFiles.readFile_run]
    cases F.readFile h.path with
    | ok bytes =>
      dsimp only
      rw [runOn_bind, runOn_set]
      rfl
    | error e => rfl

theorem readAt_headers (F : Files) (h : ShardHandle) (start length : Nat) :
    (runOn (readAt start length) F h).2.headers = h.headers := by
  unfold readAt
  rw [runOn_bind]
  have kept := contents?_headers F h
  generalize runOn contents? F h = ran at kept ⊢
  obtain ⟨result, h₁⟩ := ran
  cases result with
  | error e => exact kept
  | ok bytes =>
    dsimp only
    cases range bytes start length with
    | ok part => exact kept
    | error e =>
      rw [runOn_bind, runOn_get]
      exact kept

/-- A header kept at an offset was read from the file there and accepted, and its offset is
among those kept. -/
theorem kept_header_accepted {bytes : List UInt8} (agrees : h.Agrees F)
    (file : F.readFile h.path = .ok bytes) {offset : Nat} {header : BlockHeader}
    (found : h.headers.lookup offset = some header) :
    acceptsHeaderAt bytes offset = true ∧ (keptOffsets h).any (fun b => id b == id offset) := by
  obtain ⟨front, back, split, -⟩ := List.lookup_eq_some_iff.mp found
  obtain ⟨bytes', file', read⟩ := agrees.headers_read offset header (mem_headers_of_lookup found)
  rw [file] at file'
  cases file'
  refine ⟨(headerIn_ok_iff _ _ _ _).mp ⟨header, read⟩, ?_⟩
  simp only [keptOffsets, split, List.map_append, List.map_cons, List.any_append,
    List.any_cons, id, beq_self_eq_true, Bool.true_or, Bool.or_true]

theorem not_kept_of_lookup {offset : Nat} (found : h.headers.lookup offset = none) :
    ¬(keptOffsets h).any (fun b => id b == id offset) := by
  simp only [keptOffsets, List.any_map, List.any_eq_true, id, not_exists, not_and]
  intro p member same
  simp only [Function.comp_apply, beq_iff_eq] at same
  have := List.lookup_eq_none_iff.mp found p member
  rw [same] at this
  simp at this

/-- At an offset with no header kept, a header read reads the file: the offset is kept after
the others when the header there is accepted, and nothing is kept otherwise. -/
theorem headerAt_keptOffsets_fresh {bytes : List UInt8} (agrees : h.Agrees F)
    (file : F.readFile h.path = .ok bytes) {offset : Nat} (found : h.headers.lookup offset = none) :
    keptOffsets (runOn (headerAt offset) F h).2 =
      if acceptsHeaderAt bytes offset then keptOffsets h ++ [offset] else keptOffsets h := by
  unfold headerAt
  rw [runOn_bind, runOn_get]
  dsimp only
  rw [found, runOn_bind]
  have answered := (readAt_runOn agrees offset blockHeaderSize).1
  have kept := readAt_headers F h offset blockHeaderSize
  generalize runOn (readAt offset blockHeaderSize) F h = ran at answered kept ⊢
  obtain ⟨result, h₁⟩ := ran
  dsimp only at answered kept
  rw [file] at answered
  change result = rangeIn h.number h.path bytes offset blockHeaderSize at answered
  rw [rangeIn_eq] at answered
  unfold acceptsHeaderAt
  by_cases past : bytes.length < offset + blockHeaderSize
  · -- the header passes the end of the file: nothing is kept
    rw [if_pos past] at answered
    subst answered
    rw [if_neg (by simp; omega)]
    simp only [keptOffsets, kept]
  · rw [if_neg past] at answered
    subst answered
    dsimp only
    rw [BlockHeader.parse, read?_slice bytes (by omega)]
    dsimp only
    by_cases undersized : declaredSize bytes offset < blockHeaderSize
    · -- the header is refused: nothing is kept
      rw [if_pos undersized, if_neg (by simp; omega)]
      show keptOffsets (runOn (throw _) F h₁).2 = keptOffsets h
      rw [runOn_throw]
      simp only [keptOffsets, kept]
    · rw [if_neg undersized, runOn_bind, runOn_modify]
      dsimp only
      rw [runOn_pure, if_pos (by simp; omega)]
      simp [keptOffsets, kept]

/-- A header read keeps its offset when the header is accepted and the offset not kept yet. -/
theorem headerAt_keptOffsets {bytes : List UInt8} (agrees : h.Agrees F)
    (file : F.readFile h.path = .ok bytes) (offset : Nat) :
    keptOffsets (runOn (headerAt offset) F h).2 =
      if acceptsHeaderAt bytes offset then appendNew id (keptOffsets h) offset
      else keptOffsets h := by
  cases found : h.headers.lookup offset with
  | some header =>
    obtain ⟨accepted, present⟩ := kept_header_accepted agrees file found
    unfold headerAt
    rw [runOn_bind, runOn_get]
    dsimp only
    rw [found, if_pos accepted, appendNew, if_pos present]
    rfl
  | none =>
    rw [headerAt_keptOffsets_fresh agrees file found, appendNew, if_neg (not_kept_of_lookup found)]

/-- A block read keeps what its header read keeps: the payload read after it keeps no header. -/
theorem block_headers {entry : IndexEntry} (same : entry.shard = h.number) :
    (runOn (block entry) F h).2.headers = (runOn (headerAt entry.offset) F h).2.headers := by
  unfold block
  rw [runOn_bind, runOn_get]
  dsimp only
  rw [if_neg (by simp [same]), runOn_bind]
  generalize runOn (headerAt entry.offset) F h = ran
  obtain ⟨result, h₁⟩ := ran
  cases result with
  | error e => rfl
  | ok header =>
    dsimp only
    rw [runOn_bind]
    have kept := readAt_headers F h₁ (header.dataStart entry.offset) header.dataSize
    generalize runOn (readAt (header.dataStart entry.offset) header.dataSize) F h₁ = ran at kept ⊢
    obtain ⟨payload, h₂⟩ := ran
    cases payload with
    | error e => exact kept
    | ok payload =>
      dsimp only
      rw [payloadStream_runOn_state]
      exact kept

/-! ### Reads one after another -/

/-- A read a program makes through a shard handle: a block's payload, or a block header alone. -/
inductive Call
  | block (entry : IndexEntry)
  | header (offset : Nat)

/-- The read a call makes, its answer dropped. -/
def Call.run : Call → ShardRead FixedFiles Unit
  | .block entry => (fun _ => ()) <$> ShardHandle.block entry
  | .header offset => (fun _ => ()) <$> headerAt offset

/-- The offset of the header a call reads through the handle on shard `number`, if it reads one:
a block read for another shard reads none. -/
def Call.headerOffset? (number : Nat) : Call → Option Nat
  | .block entry => if entry.shard = number then some entry.offset else none
  | .header offset => some offset

/-- The handle after calls made through `h` one after another, over files `F`, a failed call not
stopping the next. -/
def afterCalls (F : Files) (h : ShardHandle) : List Call → ShardHandle
  | [] => h
  | call :: calls => afterCalls F (runOn call.run F h).2 calls

theorem Call.run_kept (agrees : h.Agrees F) (call : Call) : Kept F h (runOn call.run F h).2 := by
  cases call with
  | block entry =>
    rw [Call.run, runOn_map]
    by_cases same : entry.shard = h.number
    · exact (block_runOn agrees same).2
    · rw [block_other_shard same]
      exact Kept.refl agrees
  | header offset =>
    rw [Call.run, runOn_map]
    exact (headerAt_runOn agrees offset).2

/-- A call keeps the offset of the header it reads when that header is accepted and the offset
not kept yet. -/
theorem Call.run_keptOffsets {bytes : List UInt8} (agrees : h.Agrees F)
    (file : F.readFile h.path = .ok bytes) (call : Call) :
    keptOffsets (runOn call.run F h).2 = match call.headerOffset? h.number with
      | some offset =>
        if acceptsHeaderAt bytes offset then appendNew id (keptOffsets h) offset else keptOffsets h
      | none => keptOffsets h := by
  cases call with
  | block entry =>
    rw [Call.run, runOn_map, Call.headerOffset?]
    by_cases same : entry.shard = h.number
    · rw [if_pos same]
      dsimp only
      rw [keptOffsets, block_headers same, ← keptOffsets, headerAt_keptOffsets agrees file]
    · rw [if_neg same, block_other_shard same]
  | header offset =>
    rw [Call.run, runOn_map]
    exact headerAt_keptOffsets agrees file offset

/-- Every read keeps a handle on the same shard and file that agrees with the files. -/
theorem afterCalls_kept (agrees : h.Agrees F) (calls : List Call) :
    Kept F h (afterCalls F h calls) := by
  induction calls generalizing h with
  | nil => exact Kept.refl agrees
  | cons call calls inductionHypothesis =>
    have first := Call.run_kept agrees call
    exact first.trans (inductionHypothesis first.agrees)

/-- After reads one after another, the offsets kept are those kept before followed by the new
offsets of the headers read and accepted, each the first time. -/
theorem afterCalls_keptOffsets {bytes : List UInt8} (agrees : h.Agrees F)
    (file : F.readFile h.path = .ok bytes) (calls : List Call) :
    keptOffsets (afterCalls F h calls) =
      ((calls.filterMap (Call.headerOffset? h.number)).filter (acceptsHeaderAt bytes)).foldl
        (appendNew id) (keptOffsets h) := by
  induction calls generalizing h with
  | nil => rfl
  | cons call calls inductionHypothesis =>
    have first := Call.run_kept agrees call
    have step := Call.run_keptOffsets agrees file call
    rw [afterCalls, inductionHypothesis first.agrees (by rw [first.path_eq]; exact file),
      first.number_eq, step]
    cases read : call.headerOffset? h.number with
    | none => rw [List.filterMap_cons_none read]
    | some offset =>
      rw [List.filterMap_cons_some read]
      dsimp only
      by_cases accepted : acceptsHeaderAt bytes offset
      · rw [if_pos accepted, List.filter_cons_of_pos accepted, List.foldl_cons]
      · rw [if_neg accepted, List.filter_cons_of_neg accepted]

/-- A handle that started with nothing kept holds, after any reads, one header for each distinct
offset whose header it read and accepted. -/
theorem cachedHeaders_afterCalls {bytes : List UInt8} {path : String}
    (file : F.readFile path = .ok bytes) (number : Nat) (useMmap : Bool) (calls : List Call) :
    (afterCalls F ⟨number, path, useMmap, none, []⟩ calls).cachedHeaders =
      ((calls.filterMap (Call.headerOffset? number)).filter (acceptsHeaderAt bytes)).toFinset.card := by
  have offsets := afterCalls_keptOffsets (agrees_fresh (F := F) number path useMmap) file calls
  rw [cachedHeaders, ← List.length_map (f := (·.1)), ← keptOffsets, offsets]
  rw [show keptOffsets ⟨number, path, useMmap, none, []⟩ = [] from rfl, foldl_appendNew_nil,
    length_eraseDupsBy, List.map_id]

/-- Reading a block through a shard handle, after any reads through it over files that stay as
they are. The answer is what the checks give against the bytes of the file, in order: an entry of
another shard is refused as an argument; a header past the end of the file is a failed read at
the entry's offset; a header that declares a block smaller than itself is refused; a payload past
the end of the file is a failed read at the end of the header; otherwise the payload is the bytes
from the end of the header to the end of the block. The size the entry records is never read, and
the handle holds one header for each distinct offset whose header it read and accepted, whether
or not the payload read that followed succeeded. -/
theorem block_checks_in_order (F : Files) (number : Nat) (path : String) (useMmap : Bool)
    (bytes : List UInt8) (file : F.readFile path = .ok bytes) (calls : List Call)
    (entry : IndexEntry) (small : entry.offset < 2 ^ 32) :
    (runOn (block entry) F (afterCalls F ⟨number, path, useMmap, none, []⟩ calls)).1.map
        SegmentedStream.toBytes = expectedBlock number path bytes entry ∧
    (∀ size, (block { entry with size } : ShardRead FixedFiles _) = block entry) ∧
    (afterCalls F ⟨number, path, useMmap, none, []⟩ calls).cachedHeaders =
      ((calls.filterMap (Call.headerOffset? number)).filter (acceptsHeaderAt bytes)).toFinset.card := by
  have kept := afterCalls_kept (agrees_fresh (F := F) number path useMmap) calls
  refine ⟨?_, block_ignores_size entry, cachedHeaders_afterCalls file number useMmap calls⟩
  rw [block_answer kept.agrees (by rw [kept.path_eq]; exact file) entry small, kept.number_eq,
    kept.path_eq]

/-- A shard file holding one block at offset zero: a header declaring 33 bytes, then a payload of
three. -/
def oneBlock : List UInt8 :=
  List.replicate 16 0 ++ Bytes.toLE 4 33 ++ List.replicate 10 0 ++ [1, 2, 3]

/-- Files in which every path is a file holding `oneBlock`. -/
def oneBlockFiles : Files :=
  ⟨fun _ => some .file, fun _ => .ok oneBlock, fun _ => .ok [], fun _ _ => .ok ()⟩

/-- The entry of shard 1 pointing at that block. -/
def oneBlockEntry : IndexEntry :=
  { key := ⟨[1], List.cons_ne_nil 1 []⟩, shard := 1, offset := 0, size := 33 }

theorem block_checks_in_order_oneBlock :
    oneBlockFiles.readFile "data.001" = .ok oneBlock ∧ oneBlockEntry.offset < 2 ^ 32 ∧
    ((runOn (block oneBlockEntry) oneBlockFiles
        (afterCalls oneBlockFiles ⟨1, "data.001", false, none, []⟩ [.header 0])).1.map
          SegmentedStream.toBytes = expectedBlock 1 "data.001" oneBlock oneBlockEntry ∧
      (∀ size, (block { oneBlockEntry with size } : ShardRead FixedFiles _) = block oneBlockEntry) ∧
      (afterCalls oneBlockFiles ⟨1, "data.001", false, none, []⟩ [.header 0]).cachedHeaders =
        (([Call.header 0].filterMap (Call.headerOffset? 1)).filter
          (acceptsHeaderAt oneBlock)).toFinset.card) :=
  ⟨rfl, by decide, block_checks_in_order oneBlockFiles 1 "data.001" false oneBlock rfl [.header 0]
    oneBlockEntry (by decide)⟩

end ShardHandle

end AssetStore
