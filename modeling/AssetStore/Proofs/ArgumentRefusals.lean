import Mathlib.Data.Finset.Card
import AssetStore.Proofs.FirstByKey
import AssetStore.Proofs.LazyTables
import AssetStore.Proofs.IndexBounds
import AssetStore.Proofs.ShardRead
/-!
# Refusals of arguments

Opened storage refuses an argument (`Error.invalidArgument`) in one case only: a path to resolve
or read that is empty. Of the other places that could refuse one, none is reached from a call on
opened storage, against any world whose decoder refuses no argument itself:

* a block is read through the handle that `Storage.shard` gives for the entry's own shard, and
  that handle carries the shard's number, so the check that the entry belongs to the handle's
  shard passes;
* an index record's key is built from as many bytes as the key width, which is never zero
  (`IndexFile.parse_keys_made`), so no key is refused;
* the skip over the encoding table's string block and page indices is shorter than `2 ^ 38`
  bytes (`EncodingTable.parse_eq_runs`), so never out of range;
* a block's payload is read after a header that was accepted, so it is shorter than `2 ^ 32`
  bytes (`ShardHandle.payload_short`), and its range passes the checks of `Segment.make`;
* every other failure is a refusal of a table's bytes, a failed access to the files, or a miss.

The shard handles are kept by number (`Storage.HandlesKeyed`): their numbers are distinct, each
sits at the configured path of its shard with the configured memory mapping, and each keeps only
headers that were read and accepted (`ShardHandle.HeadersRead`). Every call keeps
this, never changes the configuration or the decoder, and never drops a shard once kept
(`Storage.KeepsHandles`). So a shard once opened is given back, a handle on the same shard, by
every later demand for it, with no access to the world, and the statistics count each opened
shard once.

A run is held to a `Frame`: a preorder between the states before and after it, and a condition
on the world and the state under which it must refuse no argument. The runs that keep to a frame
are closed under `>>=`; reads through a shard handle keep to the frame of the handle's shard
(`ShardHandle.frame`), and calls on storage to the frame of the kept handles (`Storage.frame`).

The main statement is `invalid_argument_only_for_empty_path`.
-/

namespace AssetStore

open Observed

/-- Whether an error refuses an argument. -/
def Error.refusesArgument : Error → Bool
  | .invalidArgument _ => true
  | _ => false

/-- An outcome that is not a refused argument. -/
def NoInvalidArgument {α : Type} (result : Except Error α) : Prop :=
  ∀ text, result ≠ .error (.invalidArgument text)

theorem noInvalidArgument_ok {α : Type} (a : α) : NoInvalidArgument (.ok a : Except Error α) :=
  fun _ same => by cases same

theorem noInvalidArgument_error {α : Type} {e : Error} :
    NoInvalidArgument (.error e : Except Error α) ↔ e.refusesArgument = false := by
  cases e <;> simp [NoInvalidArgument, Error.refusesArgument]

/-- A failure reported through `mapError` refuses no argument when no reported error does. -/
theorem noInvalidArgument_mapError {ε α : Type} {report : ε → Error} {result : Except ε α}
    (reports : ∀ f, result = .error f → (report f).refusesArgument = false) :
    NoInvalidArgument (result.mapError report) := by
  cases result with
  | error f => exact noInvalidArgument_error.mpr (reports f rfl)
  | ok a => exact noInvalidArgument_ok a

/-- The world's decoder refuses no payload as an invalid argument. -/
def World.DecodesSafely (w : World) : Prop :=
  ∀ before payload, NoInvalidArgument (w.decode before payload)

/-! ### Refusals of bytes -/

/-- An error that refuses a table's bytes refuses no argument. -/
theorem Error.refusesArgument_of_refusedTable? {e : Error} {table : Table}
    (refused : e.refusedTable? = some table) : e.refusesArgument = false := by
  cases e with
  | invalidArgument _ => cases refused
  | _ => rfl

theorem EncodingTable.parse_refusesNoArgument (data : List UInt8) :
    NoInvalidArgument ((parse data).mapError Fault.toError) :=
  noInvalidArgument_mapError fun _ refused =>
    Error.refusesArgument_of_refusedTable? (refusedTable?_of_parse refused)

theorem RootTable.Fault.toError_refusesArgument (f : RootTable.Fault) :
    f.toError.refusesArgument = false := rfl

theorem BlockHeader.Fault.toError_refusesArgument (f : BlockHeader.Fault) :
    f.toError.refusesArgument = false := by
  cases f <;> rfl

/-! ### Runs in the world -/

/-- A run in the world whose outcome refuses no argument, whatever the world. -/
def Observed.RefusesNoArgument {α : Type} (x : Observed (Except Error α)) : Prop :=
  ∀ w log, NoInvalidArgument (exec x w log).1

namespace Observed.RefusesNoArgument

variable {α β : Type}

theorem pure {result : Except Error α} (refuses : NoInvalidArgument result) :
    RefusesNoArgument (Pure.pure result : Observed _) :=
  fun _ _ => refuses

/-- What follows a run in the world refuses no argument whatever the run answered. -/
theorem bind {x : Observed β} {f : β → Observed (Except Error α)} (next : ∀ b, RefusesNoArgument (f b)) :
    RefusesNoArgument (x >>= f) := by
  intro w log
  rw [exec_bind]
  exact next _ w _

/-- What follows an outcome that refuses no argument refuses none when it is given such an
outcome. -/
theorem bindOutcome {x : Observed (Except Error β)} {f : Except Error β → Observed (Except Error α)}
    (first : RefusesNoArgument x) (next : ∀ r, NoInvalidArgument r → RefusesNoArgument (f r)) :
    RefusesNoArgument (x >>= f) := by
  intro w log
  rw [exec_bind]
  exact next _ (first w log) w _

end Observed.RefusesNoArgument

namespace IndexStore

open Observed.RefusesNoArgument

theorem readAll_refusesNoArgument (maxShard : Nat) (files : List (Layout.IndexFileId × String))
    (merged : List IndexEntry) : Observed.RefusesNoArgument (readAll maxShard files merged : Observed _) := by
  induction files generalizing merged with
  | nil => exact pure (noInvalidArgument_ok _)
  | cons file rest inductionHypothesis =>
    obtain ⟨id, path⟩ := file
    unfold readAll
    refine bind fun read => ?_
    split
    · exact pure (noInvalidArgument_error.mpr rfl)
    · split
      · next f refused =>
        exact pure (noInvalidArgument_error.mpr
          (Error.refusesArgument_of_refusedTable? ((IndexFile.refusedTable?_of_parse refused).2 path)))
      · exact inductionHypothesis _

/-- Loading the index refuses the directory's listing, a file's bytes or a file's contents, but
never an argument. -/
theorem loadDir_refusesNoArgument (dir : String) (maxShard : Nat) :
    Observed.RefusesNoArgument (loadDir dir maxShard : Observed _) := by
  unfold loadDir
  refine bind fun listed => ?_
  split
  · exact pure (noInvalidArgument_error.mpr rfl)
  · unfold build
    refine bindOutcome (readAll_refusesNoArgument _ _ _) fun read refuses => ?_
    split
    · exact pure (noInvalidArgument_ok _)
    · next e _ => exact pure (noInvalidArgument_error.mpr (noInvalidArgument_error.mp refuses))

end IndexStore

/-! ### Runs held to a frame -/

/-- What a run through states `σ` is held to: a preorder `keeps` between the states before and
after it, and a condition `safe` on the world and the state under which it must refuse no
argument, which a run that `keeps` relates does not break. -/
structure Frame (σ : Type) where
  keeps : σ → σ → Prop
  safe : World → σ → Prop
  refl : ∀ s, keeps s s
  trans : ∀ {s₁ s₂ s₃}, keeps s₁ s₂ → keeps s₂ s₃ → keeps s₁ s₃
  stable : ∀ {w s s'}, keeps s s' → safe w s → safe w s'

namespace Frame

variable {σ α β γ : Type} (F : Frame σ)

/-- Every run of `op` from `s` ends in a state that `F` keeps from `s`, and refuses no argument
in a world that is safe with `s`. -/
def GuardsFrom (op : ExceptT Error (StateT σ Observed) α) (s : σ) : Prop :=
  ∀ w log, F.keeps s (execT op w s log).1.2 ∧
    (F.safe w s → NoInvalidArgument (execT op w s log).1.1)

/-- `op` keeps to `F` from every state. -/
def Guards (op : ExceptT Error (StateT σ Observed) α) : Prop :=
  ∀ s, F.GuardsFrom op s

variable {F} {s : σ}

/-- A sequence keeps to a frame when its first part does and answers, in a world safe with the
state it starts from, only values with `P`, and the rest keeps the states from every value and
refuses no argument in a safe world from the values with `P`. -/
theorem bindFromAnswering {x : ExceptT Error (StateT σ Observed) α}
    {f : α → ExceptT Error (StateT σ Observed) β} (P : α → Prop) (first : F.GuardsFrom x s)
    (answers : ∀ w log a, F.safe w s → (execT x w s log).1.1 = .ok a → P a)
    (next : ∀ a s₁, F.keeps s s₁ → ∀ w log, F.keeps s₁ (execT (f a) w s₁ log).1.2 ∧
      (P a → F.safe w s₁ → NoInvalidArgument (execT (f a) w s₁ log).1.1)) :
    F.GuardsFrom (x >>= f) s := by
  intro w log
  obtain ⟨keeps, refuses⟩ := first w log
  have answered := answers w log
  rw [execT_bind]
  generalize execT x w s log = ran at keeps refuses answered ⊢
  obtain ⟨⟨result, s₁⟩, log₁⟩ := ran
  dsimp only at keeps refuses answered ⊢
  cases result with
  | error e =>
    exact ⟨keeps, fun safe => noInvalidArgument_error.mpr (noInvalidArgument_error.mp (refuses safe))⟩
  | ok a =>
    obtain ⟨keeps', refuses'⟩ := next a s₁ keeps w log₁
    exact ⟨F.trans keeps keeps', fun safe => refuses' (answered a safe rfl) (F.stable keeps safe)⟩

/-- A sequence keeps to a frame when its first part does, and the rest does from every state the
first part may leave. -/
theorem bindFrom {x : ExceptT Error (StateT σ Observed) α} {f : α → ExceptT Error (StateT σ Observed) β}
    (first : F.GuardsFrom x s) (next : ∀ a s₁, F.keeps s s₁ → F.GuardsFrom (f a) s₁) :
    F.GuardsFrom (x >>= f) s :=
  bindFromAnswering (fun _ => True) first (fun _ _ _ _ _ => trivial) fun a s₁ keeps w log =>
    (next a s₁ keeps w log).imp_right fun refuses _ => refuses

theorem bind {x : ExceptT Error (StateT σ Observed) α} {f : α → ExceptT Error (StateT σ Observed) β}
    (first : F.Guards x) (next : ∀ a, F.Guards (f a)) : F.Guards (x >>= f) :=
  fun s => bindFrom (first s) fun a s₁ _ => next a s₁

theorem mapFrom {x : ExceptT Error (StateT σ Observed) α} (g : α → β) (guards : F.GuardsFrom x s) :
    F.GuardsFrom (g <$> x) s := by
  rw [map_eq_pure_bind]
  exact bindFrom guards fun a s₁ _ w log => ⟨F.refl s₁, fun _ => noInvalidArgument_ok (g a)⟩

theorem map {x : ExceptT Error (StateT σ Observed) α} (g : α → β) (guards : F.Guards x) :
    F.Guards (g <$> x) :=
  fun s => mapFrom g (guards s)

theorem pure (a : α) : F.Guards (Pure.pure a : ExceptT Error (StateT σ Observed) α) :=
  fun s _ _ => ⟨F.refl s, fun _ => noInvalidArgument_ok a⟩

theorem throw {e : Error} (other : e.refusesArgument = false) :
    F.Guards (MonadExcept.throw e : ExceptT Error (StateT σ Observed) α) :=
  fun s _ _ => ⟨F.refl s, fun _ => noInvalidArgument_error.mpr other⟩

theorem getThen {f : σ → ExceptT Error (StateT σ Observed) α} (next : F.GuardsFrom (f s) s) :
    F.GuardsFrom (MonadState.get >>= f) s :=
  next

theorem set {s' : σ} (keeps : F.keeps s s') :
    F.GuardsFrom (MonadStateOf.set s' : ExceptT Error (StateT σ Observed) PUnit) s :=
  fun _ _ => ⟨keeps, fun _ => noInvalidArgument_ok _⟩

theorem modify {f : σ → σ} (keeps : ∀ s, F.keeps s (f s)) :
    F.Guards (modify f : ExceptT Error (StateT σ Observed) PUnit) :=
  fun s _ _ => ⟨keeps s, fun _ => noInvalidArgument_ok _⟩

/-- A run in the world changes no state: what follows it keeps to a frame when it does whatever
the run answered. -/
theorem liftThen {x : Observed γ} {f : γ → ExceptT Error (StateT σ Observed) α}
    (next : ∀ a, F.GuardsFrom (f a) s) : F.GuardsFrom (monadLift x >>= f) s := by
  intro w log
  rw [execT_bind, execT_lift]
  exact next _ w _

end Frame

/-! ### Reads through a shard handle -/

/-- Two handles on the same shard: the same number, path and memory mapping. -/
structure ShardHandle.SameShard (h h' : ShardHandle) : Prop where
  number_eq : h'.number = h.number
  path_eq : h'.path = h.path
  useMmap_eq : h'.useMmap = h.useMmap

namespace ShardHandle

theorem SameShard.refl (h : ShardHandle) : h.SameShard h := ⟨rfl, rfl, rfl⟩

theorem SameShard.trans {h₁ h₂ h₃ : ShardHandle} (first : h₁.SameShard h₂)
    (second : h₂.SameShard h₃) : h₁.SameShard h₃ :=
  ⟨second.number_eq.trans first.number_eq, second.path_eq.trans first.path_eq,
    second.useMmap_eq.trans first.useMmap_eq⟩

/-- Every header a handle keeps was read and accepted. -/
def HeadersRead (h : ShardHandle) : Prop :=
  ∀ p ∈ h.headers, ∃ raw, BlockHeader.parse raw = .ok p.2

/-- Reads through a handle keep the handle's shard and its headers read, and refuse no argument
through a handle whose headers were read. -/
def frame : Frame ShardHandle where
  keeps h h' := h.SameShard h' ∧ (h.HeadersRead → h'.HeadersRead)
  safe _ h := h.HeadersRead
  refl h := ⟨SameShard.refl h, id⟩
  trans first second := ⟨first.1.trans second.1, fun read => second.2 (first.2 read)⟩
  stable keeps read := keeps.2 read

theorem contents?_guards : frame.Guards (contents? : ShardRead Observed _) := by
  unfold contents?
  refine fun h => Frame.getThen ?_
  split
  · exact Frame.pure _ h
  · refine Frame.liftThen fun read => ?_
    split
    · exact Frame.bindFrom (Frame.set ⟨⟨rfl, rfl, rfl⟩, id⟩) fun _ s₁ _ => Frame.pure _ s₁
    · exact Frame.throw rfl h

theorem readAt_guards (start length : Nat) : frame.Guards (readAt start length : ShardRead Observed _) := by
  unfold readAt
  refine Frame.bind contents?_guards fun bytes => ?_
  split
  · exact Frame.pure _
  · exact fun h => Frame.getThen (Frame.throw rfl h)

theorem headerAt_guards (offset : Nat) : frame.Guards (headerAt offset : ShardRead Observed _) := by
  unfold headerAt
  refine fun h => Frame.getThen ?_
  split
  · exact Frame.pure _ h
  · refine Frame.bind (readAt_guards _ _) (fun raw => ?_) h
    split
    · exact Frame.throw (BlockHeader.Fault.toError_refusesArgument _)
    · next header parsed =>
      refine Frame.bind (Frame.modify fun k => ⟨⟨rfl, rfl, rfl⟩, fun read p member => ?_⟩)
        fun _ => Frame.pure _
      rcases List.mem_append.mp member with old | new
      · exact read p old
      · rw [List.mem_singleton.mp new]
        exact ⟨raw, parsed⟩

/-- A read through a handle answers at most the bytes asked for. -/
theorem readAt_length (start length : Nat) (w : World) (h : ShardHandle) (log : List Access)
    {part : List UInt8} (answered : (execT (readAt start length) w h log).1.1 = .ok part) :
    part.length ≤ length := by
  unfold readAt at answered
  rw [execT_bind] at answered
  generalize execT contents? w h log = ran at answered
  obtain ⟨⟨_ | bytes, h₁⟩, log₁⟩ := ran
  · cases answered
  · dsimp only at answered
    unfold range at answered
    split_ifs at answered
    · rw [execT_bind, execT_get] at answered
      dsimp only at answered
      rw [execT_throw] at answered
      cases answered
    · rw [execT_pure] at answered
      cases answered
      exact Bytes.length_slice_le bytes start length

/-- A header answered through a handle whose kept headers were read was itself read and
accepted. -/
theorem headerAt_accepted {h : ShardHandle} (read : h.HeadersRead) (offset : Nat) (w : World)
    (log : List Access) {header : BlockHeader}
    (answered : (execT (headerAt offset) w h log).1.1 = .ok header) :
    ∃ raw, BlockHeader.parse raw = .ok header := by
  unfold headerAt at answered
  rw [execT_bind, execT_get] at answered
  dsimp only at answered
  cases found : h.headers.lookup offset with
  | some kept =>
    rw [found, execT_pure] at answered
    cases answered
    exact read (offset, header) (mem_headers_of_lookup found)
  | none =>
    rw [found, execT_bind] at answered
    generalize execT (readAt offset blockHeaderSize) w h log = ran at answered
    obtain ⟨⟨_ | raw, h₁⟩, log₁⟩ := ran
    · cases answered
    · dsimp only at answered
      cases parsed : BlockHeader.parse raw with
      | error f =>
        rw [parsed, execT_throw] at answered
        cases answered
      | ok accepted =>
        rw [parsed, execT_bind, execT_modify] at answered
        dsimp only at answered
        rw [execT_pure] at answered
        cases answered
        exact ⟨raw, parsed⟩

/-- Through a handle whose kept headers were read, the payload read after the header at an
offset is shorter than `2 ^ 32` bytes: no longer than the accepted header declares. -/
theorem payload_short {h : ShardHandle} (read : h.HeadersRead) (offset : Nat) (w : World)
    (log : List Access) {payload : List UInt8}
    (answered : (execT (headerAt offset >>= fun header =>
      readAt (header.dataStart offset) header.dataSize) w h log).1.1 = .ok payload) :
    payload.length < 2 ^ 32 := by
  rw [execT_bind] at answered
  have accepted := @headerAt_accepted h read offset w log
  generalize execT (headerAt offset) w h log = ran at answered accepted
  obtain ⟨⟨_ | header, h₁⟩, log₁⟩ := ran
  · cases answered
  · obtain ⟨raw, parsed⟩ := accepted rfl
    have within := readAt_length _ _ w h₁ log₁ answered
    have small := BlockHeader.blockSize_lt parsed
    unfold BlockHeader.dataSize at within
    omega

/-- A payload made a stream leaves the handle alone, and refuses no argument when it is shorter
than `2 ^ 64` bytes. -/
theorem payloadStream_guardsFrom (payload : List UInt8) (h : ShardHandle) (w : World)
    (log : List Access) :
    frame.keeps h (execT (payloadStream payload) w h log).1.2 ∧
      (payload.length < 2 ^ 64 → NoInvalidArgument (execT (payloadStream payload) w h log).1.1) := by
  refine ⟨?_, fun short => ?_⟩
  · unfold payloadStream
    split <;> exact frame.refl h
  · rw [payloadStream_of_lt payload short, execT_pure]
    exact noInvalidArgument_ok _

/-- A block is read without refusal through a handle on the entry's own shard whose headers
were read. -/
theorem block_guardsFrom (entry : IndexEntry) {h : ShardHandle} (own : entry.shard = h.number) :
    frame.GuardsFrom (block entry : ShardRead Observed _) h := by
  unfold block
  refine Frame.getThen ?_
  dsimp only
  split
  · next mismatch => simp [own] at mismatch
  · rw [← bind_assoc]
    refine Frame.bindFromAnswering (fun payload => payload.length < 2 ^ 32)
      (Frame.bind (headerAt_guards _) (fun header => readAt_guards _ _) h)
      (fun w log _ read answered => payload_short read entry.offset w log answered)
      fun payload s₁ _ w log => (payloadStream_guardsFrom payload s₁ w log).imp_right
        fun refuses short _ => refuses (short.trans (by decide))

/-- A handle is made on a path that names a file; otherwise the shard is missing. -/
theorem exec_make (n : Nat) (path : String) (useMmap : Bool) (w : World) (log : List Access) :
    exec (make n path useMmap : Observed _) w log =
      (match w.kindOf log path with
        | some .file => .ok ⟨n, path, useMmap, none, []⟩
        | _ => .error (.ioFailure n path 0 .shardMissing), log ++ [.kindOf path]) := by
  have asked : exec (DiskAccess.kindOf path : Observed _) w log =
      (w.kindOf log path, log ++ [.kindOf path]) := rfl
  unfold make
  rw [exec_bind, asked]
  cases w.kindOf log path with
  | none => rfl
  | some entry => cases entry <;> rfl

end ShardHandle

/-! ### Shard handles kept by number -/

namespace Storage

variable {m : Type → Type}

/-- The shard numbers of the handles kept. -/
def shardNumbers (s : Storage m) : List Nat := s.shards.map (·.number)

/-- The handles are kept by number: distinct numbers, each handle at the configured path of its
shard with the configured memory mapping, and keeping only headers that were read and accepted. -/
structure HandlesKeyed (s : Storage m) : Prop where
  distinct : s.shardNumbers.Nodup
  placed : ∀ h ∈ s.shards, h.path = s.config.shardPath h.number ∧ h.useMmap = s.config.enableMmap
  headersRead : ∀ h ∈ s.shards, h.HeadersRead

/-- What a run from `s` to `s'` keeps: the configuration and the decoder, the handles kept by
number, and every shard kept. -/
structure KeepsHandles (s s' : Storage m) : Prop where
  config_eq : s'.config = s.config
  decoder_eq : s'.decoder = s.decoder
  keyed : s.HandlesKeyed → s'.HandlesKeyed
  kept : ∀ n ∈ s.shardNumbers, n ∈ s'.shardNumbers

theorem KeepsHandles.refl (s : Storage m) : KeepsHandles s s :=
  ⟨rfl, rfl, id, fun _ member => member⟩

theorem KeepsHandles.trans {s₁ s₂ s₃ : Storage m} (first : KeepsHandles s₁ s₂)
    (second : KeepsHandles s₂ s₃) : KeepsHandles s₁ s₃ :=
  ⟨second.config_eq.trans first.config_eq, second.decoder_eq.trans first.decoder_eq,
    fun keyed => second.keyed (first.keyed keyed), fun n member => second.kept n (first.kept n member)⟩

/-- A change that keeps the configuration, the decoder and the shard numbers keeps the handles
when every handle it leaves is placed and keeps only headers read. -/
theorem KeepsHandles.of_numbers {s s' : Storage m} (config : s'.config = s.config)
    (decoder : s'.decoder = s.decoder) (numbers : s'.shardNumbers = s.shardNumbers)
    (placed : s.HandlesKeyed →
      ∀ h ∈ s'.shards, h.path = s'.config.shardPath h.number ∧ h.useMmap = s'.config.enableMmap)
    (read : s.HandlesKeyed → ∀ h ∈ s'.shards, h.HeadersRead) :
    KeepsHandles s s' where
  config_eq := config
  decoder_eq := decoder
  keyed keyed := ⟨numbers ▸ keyed.distinct, placed keyed, read keyed⟩
  kept _ member := numbers ▸ member

/-- A change that leaves the handles alone keeps them. -/
theorem KeepsHandles.of_shards {s s' : Storage m} (config : s'.config = s.config)
    (decoder : s'.decoder = s.decoder) (shards : s'.shards = s.shards) : KeepsHandles s s' :=
  of_numbers config decoder (by rw [shardNumbers, shardNumbers, shards])
    (fun keyed h member => by
      rw [config]
      exact keyed.placed h (shards ▸ member))
    fun keyed h member => keyed.headersRead h (shards ▸ member)

/-- Keeping a new handle on a shard that has none, at the configured path with the configured
mapping, keeps the handles. -/
theorem KeepsHandles.append {s : Storage m} {n : Nat} (absent : s.shards.find? (·.number == n) = none) :
    KeepsHandles s
      { s with shards := s.shards ++ [⟨n, s.config.shardPath n, s.config.enableMmap, none, []⟩] } where
  config_eq := rfl
  decoder_eq := rfl
  keyed keyed := by
    have fresh : ∀ h ∈ s.shards, h.number ≠ n := fun h member numbered => by
      simpa [numbered] using List.find?_eq_none.mp absent h member
    refine ⟨nodup_map_append ShardHandle.number keyed.distinct fresh, fun h member => ?_,
      fun h member => ?_⟩
    · rcases List.mem_append.mp member with old | new
      · exact keyed.placed h old
      · rw [List.mem_singleton.mp new]
        exact ⟨rfl, rfl⟩
    · rcases List.mem_append.mp member with old | new
      · exact keyed.headersRead h old
      · rw [List.mem_singleton.mp new]
        exact fun p kept => absurd kept List.not_mem_nil
  kept _ member := by
    simp only [shardNumbers, List.map_append, List.mem_append]
    exact .inl member

/-- Replacing the handles on shard `n` by a handle that a read through a kept one leaves keeps
the handles. -/
theorem KeepsHandles.replace {s : Storage m} {n : Nat} {h h' : ShardHandle} (held : h ∈ s.shards)
    (numbered : h.number = n) (same : ShardHandle.frame.keeps h h') :
    KeepsHandles s { s with shards := s.shards.map fun k => if k.number == n then h' else k } := by
  refine of_numbers rfl rfl ?_ (fun keyed k member => ?_) fun keyed k member => ?_
  · exact map_replace_keys ShardHandle.number s.shards (same.1.number_eq.trans numbered)
  · obtain ⟨k₀, kept, rfl⟩ := List.mem_map.mp member
    by_cases hit : k₀.number = n
    · have placed := keyed.placed h held
      simp only [hit, beq_self_eq_true, if_true]
      rw [same.1.path_eq, same.1.useMmap_eq, same.1.number_eq, placed.1, placed.2]
      exact ⟨rfl, rfl⟩
    · simp only [hit, beq_iff_eq, if_false]
      exact keyed.placed k₀ kept
  · obtain ⟨k₀, kept, rfl⟩ := List.mem_map.mp member
    by_cases hit : k₀.number = n
    · simp only [hit, beq_self_eq_true, if_true]
      exact same.2 (keyed.headersRead h held)
    · simp only [hit, beq_iff_eq, if_false]
      exact keyed.headersRead k₀ kept

/-- Calls on storage keep the handles, and refuse no argument against a world whose decoder
refuses none, with the observing decoder and the handles kept by number. -/
def frame : Frame (Storage Observed) where
  keeps := KeepsHandles
  safe w s := w.DecodesSafely ∧ s.decoder = Observed.decoder ∧ s.HandlesKeyed
  refl := KeepsHandles.refl
  trans := KeepsHandles.trans
  stable keeps := fun ⟨safe, observing, keyed⟩ =>
    ⟨safe, keeps.decoder_eq.trans observing, keeps.keyed keyed⟩

/-! ### The shard handles -/

/-- The kept handle on a shard, or a new one kept from now on when the shard's path names a
file. -/
theorem execT_shard (n : Nat) (w : World) (s : Storage Observed) (log : List Access) :
    execT (shard n) w s log = match s.shards.find? (·.number == n) with
      | some h => ((.ok h, s), log)
      | none => match w.kindOf log (s.config.shardPath n) with
        | some .file =>
          ((.ok ⟨n, s.config.shardPath n, s.config.enableMmap, none, []⟩,
            { s with shards := s.shards ++ [⟨n, s.config.shardPath n, s.config.enableMmap, none, []⟩] }),
            log ++ [.kindOf (s.config.shardPath n)])
        | _ => ((.error (.ioFailure n (s.config.shardPath n) 0 .shardMissing), s),
            log ++ [.kindOf (s.config.shardPath n)]) := by
  unfold shard
  rw [execT_bind, execT_get]
  dsimp only
  cases s.shards.find? (·.number == n) with
  | some h => rfl
  | none =>
    dsimp only
    rw [execT_bind, execT_lift, ShardHandle.exec_make]
    cases w.kindOf log (s.config.shardPath n) with
    | none => rfl
    | some kind => cases kind <;> rfl

/-- The handle answered for shard `n` is numbered `n` and kept. -/
theorem shard_answer {n : Nat} {w : World} {s : Storage Observed} {log : List Access}
    {h : ShardHandle} (answered : (execT (shard n) w s log).1.1 = .ok h) :
    h.number = n ∧ h ∈ (execT (shard n) w s log).1.2.shards := by
  rw [execT_shard] at answered ⊢
  cases found : s.shards.find? (·.number == n) with
  | some k =>
    simp only [found, Except.ok.injEq] at answered ⊢
    subst answered
    exact ⟨by simpa using List.find?_some found, List.mem_of_find?_eq_some found⟩
  | none =>
    simp only [found] at answered ⊢
    cases kind : w.kindOf log (s.config.shardPath n) with
    | none => simp [kind] at answered
    | some entry =>
      cases entry with
      | directory => simp [kind] at answered
      | file =>
        simp only [kind, Except.ok.injEq] at answered ⊢
        subst answered
        exact ⟨rfl, List.mem_append_right _ (List.mem_singleton_self _)⟩

/-- With the handles kept by number, the handle kept on a shard is answered for it, with no
access and no change. -/
theorem shard_held {s : Storage Observed} (keyed : s.HandlesKeyed) {h : ShardHandle}
    (held : h ∈ s.shards) (w : World) (log : List Access) :
    execT (shard h.number) w s log = ((.ok h, s), log) := by
  obtain ⟨k, found⟩ := Option.isSome_iff_exists.mp
    ((List.find?_isSome (p := fun k : ShardHandle => k.number == h.number)).mpr
      ⟨h, held, beq_self_eq_true h.number⟩)
  have numbered : k.number = h.number := by simpa using List.find?_some found
  have distinct : (s.shards.map (·.number)).Nodup := keyed.distinct
  rw [execT_shard, found, List.inj_on_of_nodup_map distinct (List.mem_of_find?_eq_some found) held numbered]

theorem shard_guards (n : Nat) : frame.Guards (shard n) := by
  intro s w log
  rw [execT_shard]
  cases found : s.shards.find? (·.number == n) with
  | some h => exact ⟨KeepsHandles.refl s, fun _ => noInvalidArgument_ok h⟩
  | none =>
    dsimp only
    split
    · exact ⟨KeepsHandles.append found, fun _ => noInvalidArgument_ok _⟩
    · exact ⟨KeepsHandles.refl s, fun _ => noInvalidArgument_error.mpr rfl⟩

/-- A read through the handle on shard `n`, with the handle it leaves kept in its place. -/
theorem execT_withShard {α : Type} (n : Nat) (read : ShardRead Observed α) (w : World)
    (s : Storage Observed) (log : List Access) :
    execT (withShard n read) w s log = match execT (shard n) w s log with
      | ((.ok h, s₁), log₁) => (((execT read w h log₁).1.1,
          { s₁ with shards := s₁.shards.map fun k =>
              if k.number == n then (execT read w h log₁).1.2 else k }),
          (execT read w h log₁).2)
      | ((.error e, s₁), log₁) => ((.error e, s₁), log₁) := by
  unfold withShard
  rw [execT_bind]
  rcases execT (shard n) w s log with ⟨⟨_ | h, s₁⟩, log₁⟩
  · rfl
  · dsimp only
    rw [execT_bind, execT_lift]
    dsimp only
    rw [execT_bind, execT_modify]
    exact execT_ofExcept _ w _ _

/-- A read through the handle on shard `n` keeps the handles when it keeps to the frame of the
handle's shard from every handle numbered `n`. -/
theorem withShard_guards {α : Type} (n : Nat) {read : ShardRead Observed α}
    (reads : ∀ h : ShardHandle, h.number = n → ShardHandle.frame.GuardsFrom read h) :
    frame.Guards (withShard n read) := by
  intro s w log
  have opened := shard_guards n s w log
  have answer := @shard_answer n w s log
  rw [execT_withShard]
  generalize execT (shard n) w s log = ran at opened answer ⊢
  obtain ⟨⟨_ | h, s₁⟩, log₁⟩ := ran
  · exact ⟨opened.1, fun safe => noInvalidArgument_error.mpr (noInvalidArgument_error.mp (opened.2 safe))⟩
  · obtain ⟨numbered, held⟩ := answer rfl
    obtain ⟨same, refuses⟩ := reads h numbered w log₁
    exact ⟨opened.1.trans (KeepsHandles.replace held numbered same),
      fun safe => refuses ((opened.1.keyed safe.2.2).headersRead h held)⟩

theorem blockOf_guards (entry : IndexEntry) : frame.Guards (blockOf entry) :=
  withShard_guards entry.shard fun _ numbered => ShardHandle.block_guardsFrom entry numbered.symm

/-! ### Outcomes taken from the world -/

theorem ofExcept_guards {α : Type} {result : Except Error α} (refuses : NoInvalidArgument result) :
    frame.Guards (Storage.ofExcept result) := by
  intro s w log
  rw [execT_ofExcept]
  exact ⟨KeepsHandles.refl s, fun _ => refuses⟩

/-- Taking the outcome of a run in the world keeps the handles, and refuses no argument when the
outcome refuses none in a safe world. -/
theorem liftOfExcept_guardsFrom {α : Type} {x : Observed (Except Error α)} {s : Storage Observed}
    (refuses : ∀ w log, frame.safe w s → NoInvalidArgument (exec x w log).1) :
    frame.GuardsFrom (monadLift x >>= Storage.ofExcept) s := by
  intro w log
  rw [execT_bind, execT_lift]
  dsimp only
  rw [execT_ofExcept]
  exact ⟨KeepsHandles.refl s, refuses w log⟩

/-- The storage's decoder refuses no argument in a safe world. -/
theorem decoder_refuses {s : Storage Observed} {w : World} (safe : frame.safe w s)
    (payload : List UInt8) (log : List Access) : NoInvalidArgument (exec (s.decoder payload) w log).1 := by
  obtain ⟨decodes, observing, -⟩ := safe
  rw [observing]
  exact decodes log payload

theorem readEntry_guards (entry : IndexEntry) : frame.Guards (readEntry entry) := by
  unfold readEntry
  refine Frame.bind (blockOf_guards entry) fun block s => Frame.getThen ?_
  exact liftOfExcept_guardsFrom fun w log safe => decoder_refuses safe _ log

/-! ### The tables -/

/-- A table's cell keeps to the frame when its initialiser does: storing a cell leaves the
handles alone. -/
theorem cached_guards {α : Type} {cell : Storage Observed → OnceCell α}
    {store : Storage Observed → OnceCell α → Storage Observed} {init : StorageOp Observed α}
    (restore : ∀ s, store s (cell s) = s) (stored : ∀ s c, KeepsHandles s (store s c))
    (built : frame.Guards init) : frame.Guards (Storage.cached cell store init) := by
  intro s w log
  rw [execT_cached restore]
  split
  · exact ⟨KeepsHandles.refl s, fun _ => noInvalidArgument_ok _⟩
  · obtain ⟨keeps, refuses⟩ := built (store s .parsing) w log
    generalize execT init w (store s .parsing) log = ran at keeps refuses ⊢
    obtain ⟨⟨_ | v, s₁⟩, log₁⟩ := ran
    · exact ⟨(stored s _).trans (keeps.trans (stored s₁ _)),
        fun safe => refuses (frame.stable (stored s _) safe)⟩
    · exact ⟨(stored s _).trans (keeps.trans (stored s₁ _)), fun _ => noInvalidArgument_ok v⟩

theorem index_guards : frame.Guards (index : StorageOp Observed _) := by
  unfold index
  refine cached_guards (fun _ => rfl) (fun _ _ => KeepsHandles.of_shards rfl rfl rfl) fun s => ?_
  exact Frame.getThen (liftOfExcept_guardsFrom fun w log _ =>
    IndexStore.loadDir_refusesNoArgument _ _ w log)

theorem encoding_guards : frame.Guards (encoding : StorageOp Observed _) := by
  unfold encoding
  refine cached_guards (fun _ => rfl) (fun _ _ => KeepsHandles.of_shards rfl rfl rfl) ?_
  refine Frame.bind index_guards fun store s => Frame.getThen ?_
  dsimp only
  split
  · exact Frame.throw rfl s
  · exact Frame.bind (readEntry_guards _) (fun bytes =>
      ofExcept_guards (EncodingTable.parse_refusesNoArgument bytes)) s

theorem root_guards : frame.Guards (root : StorageOp Observed _) := by
  unfold root
  refine cached_guards (fun _ => rfl) (fun _ _ => KeepsHandles.of_shards rfl rfl rfl) ?_
  refine Frame.bind encoding_guards fun table => Frame.bind index_guards fun store s => Frame.getThen ?_
  dsimp only
  split
  · exact Frame.throw rfl s
  · split
    · exact Frame.throw rfl s
    · exact Frame.bind (readEntry_guards _) (fun bytes =>
        ofExcept_guards (noInvalidArgument_mapError fun f _ => RootTable.Fault.toError_refusesArgument f)) s

theorem initialise_guards : frame.Guards (initialise : StorageOp Observed _) :=
  Frame.bind index_guards fun _ => Frame.bind encoding_guards fun _ => Frame.bind root_guards fun _ =>
    Frame.pure _

/-! ### The lookups -/

theorem locate_guards (nameHash : UInt64) : frame.Guards (locate nameHash : StorageOp Observed _) :=
  Frame.bind root_guards fun _ => Frame.bind encoding_guards fun _ => Frame.bind index_guards fun _ =>
    Frame.pure _

theorem resolveHash_guards (nameHash : UInt64) :
    frame.Guards (resolveHash nameHash : StorageOp Observed _) := by
  unfold resolveHash
  refine Frame.bind (locate_guards nameHash) fun found => ?_
  split
  · exact Frame.map _ (blockOf_guards _)
  · exact Frame.pure _

theorem resolve_guards {path : String} (named : path ≠ "") :
    frame.Guards (resolve path : StorageOp Observed _) := by
  unfold resolve
  dsimp only
  split
  · next empty => exact absurd (String.isEmpty_iff.mp empty) named
  · exact resolveHash_guards _

theorem read_guards {path : String} (named : path ≠ "") :
    frame.Guards (read path : StorageOp Observed _) := by
  unfold read
  refine Frame.bind (resolve_guards named) fun found => ?_
  split
  · exact Frame.pure _
  · refine fun s => Frame.getThen ?_
    rw [← map_bind]
    exact Frame.mapFrom _ (liftOfExcept_guardsFrom fun w log safe => decoder_refuses safe _ log)

theorem contentChecksums_guards (nameHash : UInt64) :
    frame.Guards (contentChecksums nameHash : StorageOp Observed _) :=
  Frame.bind root_guards fun _ => Frame.pure _

theorem execT_resolve_empty (w : World) (s : Storage Observed) (log : List Access) :
    execT (resolve "") w s log = ((.error (.invalidArgument "path must not be empty"), s), log) :=
  rfl

theorem execT_read_empty (w : World) (s : Storage Observed) (log : List Access) :
    execT (read "") w s log = ((.error (.invalidArgument "path must not be empty"), s), log) := by
  unfold read
  rw [execT_bind, execT_resolve_empty]

end Storage

/-! ### Calls and runs of calls -/

namespace StorageCall

/-- Every call but a resolution or a read of the empty path keeps to the frame of the kept
handles. -/
theorem guards : ∀ call : StorageCall, call ≠ .resolve "" → call ≠ .read "" →
    Storage.frame.Guards call.run
  | .index, _, _ => Frame.map _ Storage.index_guards
  | .encoding, _, _ => Frame.map _ Storage.encoding_guards
  | .root, _, _ => Frame.map _ Storage.root_guards
  | .initialise, _, _ => Frame.map _ Storage.initialise_guards
  | .locate nameHash, _, _ => Frame.map _ (Storage.locate_guards nameHash)
  | .resolve _, other, _ => Frame.map _ (Storage.resolve_guards fun empty => other (by rw [empty]))
  | .resolveHash nameHash, _, _ => Frame.map _ (Storage.resolveHash_guards nameHash)
  | .read _, _, other => Frame.map _ (Storage.read_guards fun empty => other (by rw [empty]))
  | .contentChecksums nameHash, _, _ => Frame.map _ (Storage.contentChecksums_guards nameHash)
  | .shard n, _, _ => Frame.map _ (Storage.shard_guards n)
  | .stats, _, _ => fun s => Frame.getThen (Frame.pure _ s)
  | .tableState _, _, _ => fun s => Frame.getThen (Frame.pure _ s)

/-- A resolution or a read of the empty path refuses it, with nothing changed and no access. -/
theorem execT_empty {call : StorageCall} (empty : call = .resolve "" ∨ call = .read "") (w : World)
    (s : Storage Observed) (log : List Access) :
    execT call.run w s log = ((.error (.invalidArgument "path must not be empty"), s), log) := by
  rcases empty with rfl | rfl
  · rw [run, execT_map, Storage.execT_resolve_empty]
  · rw [run, execT_map, Storage.execT_read_empty]

theorem keepsHandles (call : StorageCall) (w : World) (s : Storage Observed) (log : List Access) :
    Storage.KeepsHandles s (execT call.run w s log).1.2 := by
  by_cases empty : call = .resolve "" ∨ call = .read ""
  · rw [execT_empty empty]
    exact Storage.KeepsHandles.refl s
  · exact (guards call (fun same => empty (.inl same)) (fun same => empty (.inr same)) s w log).1

/-- With the observing decoder, the handles kept by number and a world whose decoder refuses no
argument, a call refuses an argument exactly when it resolves or reads the empty path. -/
theorem refuses_iff_empty {s : Storage Observed} (observing : s.decoder = Observed.decoder)
    (keyed : s.HandlesKeyed) {w : World} (decodes : w.DecodesSafely) (call : StorageCall) (log : List Access) (text : String) :
    (execT call.run w s log).1.1 = .error (.invalidArgument text) ↔
      (call = .resolve "" ∨ call = .read "") ∧ text = "path must not be empty" := by
  by_cases empty : call = .resolve "" ∨ call = .read ""
  · rw [execT_empty empty]
    simp only [Except.error.injEq, Error.invalidArgument.injEq, empty, true_and]
    exact eq_comm
  · have refuses := (guards call (fun same => empty (.inl same)) (fun same => empty (.inr same))
      s w log).2 ⟨decodes, observing, keyed⟩ text
    simp only [empty, false_and, iff_false]
    exact refuses

end StorageCall

theorem Leads.keepsHandles {s s' : Storage Observed} (leads : Leads s s') :
    Storage.KeepsHandles s s' := by
  induction leads with
  | refl => exact Storage.KeepsHandles.refl _
  | call call w log _ inductionHypothesis => exact inductionHypothesis.trans (call.keepsHandles w _ log)

/-- Opened storage has the configuration it was opened with, and no shard handle. -/
theorem Storage.ofConfig_fresh {config : StorageConfig} {decoder : PayloadDecoder Observed}
    {w : World} {log : List Access} {s : Storage Observed}
    (opened : (exec (Storage.ofConfig config decoder) w log).1 = .ok s) :
    s.config = config ∧ s.shards = [] := by
  unfold Storage.ofConfig at opened
  split at opened
  · cases opened
  · cases opened
  · rw [exec_bind] at opened
    split at opened
    · cases opened
      exact ⟨rfl, rfl⟩
    · cases opened

/-- Reachable storage keeps the configuration it was opened with, and its handles by number. -/
theorem Reachable.handlesKeyed {config : StorageConfig} {s : Storage Observed}
    (reachable : Reachable config s) : s.config = config ∧ s.HandlesKeyed := by
  obtain ⟨w, log, opened, made, leads⟩ := reachable
  obtain ⟨configured, unopened⟩ := Storage.ofConfig_fresh made
  have keyed : opened.HandlesKeyed :=
    ⟨by simp [Storage.shardNumbers, unopened], fun h member => by simp [unopened] at member,
      fun h member => by simp [unopened] at member⟩
  have keeps := leads.keepsHandles
  exact ⟨keeps.config_eq.trans configured, keeps.keyed keyed⟩

/-- Once shard `n` has answered a handle, every later demand for it, along any calls and in any
world, answers a handle on the same shard, with no access and no change. -/
theorem Storage.shard_answers_same {s : Storage Observed} (keyed : s.HandlesKeyed) {n : Nat}
    {w : World} {log : List Access} {h : ShardHandle}
    (answered : (execT (shard n) w s log).1.1 = .ok h) {s' : Storage Observed}
    (leads : Leads (execT (shard n) w s log).1.2 s') (w' : World) (log' : List Access) :
    ∃ h', execT (shard n) w' s' log' = ((.ok h', s'), log') ∧ h.SameShard h' := by
  obtain ⟨numbered, held⟩ := shard_answer answered
  have keyed₁ := (shard_guards n s w log).1.keyed keyed
  have later := leads.keepsHandles
  have kept : n ∈ s'.shardNumbers := later.kept n (List.mem_map.mpr ⟨h, held, numbered⟩)
  obtain ⟨h', held', numbered'⟩ := List.mem_map.mp kept
  have keyed' := later.keyed keyed₁
  refine ⟨h', numbered' ▸ shard_held keyed' held' w' log', numbered'.trans numbered.symm, ?_, ?_⟩
  · rw [(keyed'.placed h' held').1, (keyed₁.placed h held).1, later.config_eq, numbered', numbered]
  · rw [(keyed'.placed h' held').2, (keyed₁.placed h held).2, later.config_eq]

/-! ### Refusals of arguments -/

/-- Against any world whose decoder refuses no argument, a call on reachable storage refuses an
argument exactly when it resolves or reads the empty path, and then with the text "path must not
be empty". The shard handles of reachable storage are kept by number under its configuration:
distinct numbers, each handle at the configured path of its shard with the configured memory
mapping, so the statistics count distinct shards; every call keeps every shard kept. A handle
that a demand for shard `n` answers is numbered `n` and sits at that shard's path, and from then
on, along any calls and in any world, every demand for shard `n` answers a handle on the same
shard with no access and no change. -/
theorem invalid_argument_only_for_empty_path {config : StorageConfig} {s : Storage Observed}
    (reachable : Reachable config s) (call : StorageCall) (w : World) (log : List Access) :
    (w.DecodesSafely → ∀ text, (execT call.run w s log).1.1 = .error (.invalidArgument text) ↔
      (call = .resolve "" ∨ call = .read "") ∧ text = "path must not be empty") ∧
    s.config = config ∧ s.HandlesKeyed ∧ s.stats.openShards = s.shardNumbers.toFinset.card ∧
    (∀ n ∈ s.shardNumbers, n ∈ (execT call.run w s log).1.2.shardNumbers) ∧
    ∀ n h, (execT (Storage.shard n) w s log).1.1 = .ok h →
      h.number = n ∧ h.path = config.shardPath n ∧ h.useMmap = config.enableMmap ∧
      ∀ s', Leads (execT (Storage.shard n) w s log).1.2 s' → ∀ w' log',
        ∃ h', execT (Storage.shard n) w' s' log' = ((.ok h', s'), log') ∧ h.SameShard h' := by
  obtain ⟨observing, -⟩ := reachable.keeps
  obtain ⟨configured, keyed⟩ := reachable.handlesKeyed
  refine ⟨fun decodes text => StorageCall.refuses_iff_empty observing keyed decodes call log text,
    configured, keyed, ?_, (call.keepsHandles w s log).kept, fun n h answered => ?_⟩
  · rw [List.toFinset_card_of_nodup keyed.distinct, Storage.shardNumbers, List.length_map]
    rfl
  · obtain ⟨numbered, held⟩ := Storage.shard_answer answered
    have opened := Storage.shard_guards n s w log
    have placed := (opened.1.keyed keyed).placed h held
    rw [opened.1.config_eq, configured, numbered] at placed
    exact ⟨numbered, placed.1, placed.2, fun s' leads w' log' =>
      Storage.shard_answers_same keyed answered leads w' log'⟩

/-- Storage freshly opened on `zeroKeysConfig` is reachable. -/
theorem zeroKeysOpened_reachable : Reachable zeroKeysConfig zeroKeysOpened := by
  refine ⟨emptyWorld, [], zeroKeysOpened, ?_, .refl _⟩
  unfold Storage.ofConfig
  rw [StorageConfig.encodingKey?, StorageConfig.rootChecksum?, zeroKeysConfig,
    StorageConfig.parseKey_hex, StorageConfig.parseKey_hex]
  rfl

/-- Freshly opened storage refuses a read of the empty path. -/
theorem invalid_argument_only_for_empty_path_opened :
    Reachable zeroKeysConfig zeroKeysOpened ∧ emptyWorld.DecodesSafely ∧
      (execT (StorageCall.read "").run emptyWorld zeroKeysOpened []).1.1 =
        .error (.invalidArgument "path must not be empty") := by
  have decodes : emptyWorld.DecodesSafely := fun _ payload => noInvalidArgument_ok payload
  exact ⟨zeroKeysOpened_reachable, decodes,
    ((invalid_argument_only_for_empty_path zeroKeysOpened_reachable (.read "") emptyWorld []).1
      decodes _).mpr ⟨.inr rfl, rfl⟩⟩

end AssetStore
