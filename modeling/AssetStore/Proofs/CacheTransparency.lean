import AssetStore.Proofs.FixedFiles
import AssetStore.Proofs.LazyTables
import AssetStore.Proofs.StorageRead
/-!
# Caches that change no answer

Opened storage remembers what it has read: the three tables once built, the shard handles, and
in each handle the shard file's bytes and the block headers it accepted. Over files that stay as
they are, none of this changes an answer.

Storage over files `F` agrees with the storage `o` it was opened as (`Storage.Coherent`) when it
has `o`'s configuration up to memory mapping, `o`'s keys and decoder, when every table it built
is what the getter of that table answers on `o`, and when every handle it keeps sits at the
configured path of its shard, which names a file, and agrees with the file. An operation is
transparent (`Storage.Transparent`) when from every such storage it answers as on `o` itself,
and leaves the storage agreeing. Transparency is closed under `>>=`; a table cell is transparent
when its initialiser is (`Transparent.cached`); a read through a shard handle is when it reads
the same through every handle that agrees (`Storage.withShard_transparent`).

So every lookup is transparent, every call keeps the storage agreeing, and after any calls a
lookup answers as on freshly opened storage, with memory mapping on or off
(`answers_ignore_caches`).
-/

namespace AssetStore

open FixedFiles

namespace Storage

/-! ### Storage that agrees with the files -/

/-- Storage as it is opened: no table built and no shard handle kept. -/
structure Blank {m : Type → Type} (s : Storage m) : Prop where
  index_eq : s.indexCell = .unparsed
  encoding_eq : s.encodingCell = .unparsed
  root_eq : s.rootCell = .unparsed
  shards_eq : s.shards = []

/-- A kept handle agrees with files `F` under configuration `c`: it sits at the configured path
of its shard, that path names a file, and what the handle kept is the file's. -/
structure Placed (F : Files) (c : StorageConfig) (h : ShardHandle) : Prop where
  path_eq : h.path = c.shardPath h.number
  present : F.kindOf h.path = some .file
  agrees : h.Agrees F

/-- Storage over files `F` that agrees with the storage `o` it was opened as: the same
configuration up to memory mapping, the same keys and decoder; every table it built is what the
getter answers on `o`; every handle it keeps is placed. -/
structure Coherent (F : Files) (o s : Storage FixedFiles) : Prop where
  config_eq : { s.config with enableMmap := o.config.enableMmap } = o.config
  encodingKey_eq : s.encodingKey = o.encodingKey
  rootChecksum_eq : s.rootChecksum = o.rootChecksum
  decoder_eq : s.decoder = o.decoder
  index_eq : ∀ I, s.indexCell = .parsed I → (runOn index F o).1 = .ok I
  encoding_eq : ∀ E, s.encodingCell = .parsed E → (runOn encoding F o).1 = .ok E
  root_eq : ∀ R, s.rootCell = .parsed R → (runOn root F o).1 = .ok R
  handles : ∀ h ∈ s.shards, Placed F o.config h

variable {F : Files} {o s : Storage FixedFiles}

theorem Coherent.blank (blank : o.Blank) : Coherent F o o where
  config_eq := rfl
  encodingKey_eq := rfl
  rootChecksum_eq := rfl
  decoder_eq := rfl
  index_eq _ built := by rw [blank.index_eq] at built; cases built
  encoding_eq _ built := by rw [blank.encoding_eq] at built; cases built
  root_eq _ built := by rw [blank.root_eq] at built; cases built
  handles _ kept := by rw [blank.shards_eq] at kept; cases kept

theorem Coherent.dataPath_eq (coherent : Coherent F o s) : s.dataPath = o.dataPath :=
  (congrArg StorageConfig.dataPath coherent.config_eq :)

theorem Coherent.maxShard_eq (coherent : Coherent F o s) :
    s.config.maxShardNumber = o.config.maxShardNumber :=
  (congrArg StorageConfig.maxShardNumber coherent.config_eq :)

theorem Coherent.shardPath_eq (coherent : Coherent F o s) (n : Nat) :
    s.config.shardPath n = o.config.shardPath n :=
  (congrArg (StorageConfig.shardPath · n) coherent.config_eq :)

/-- Storage opened as `o` was, under a configuration that differs from `o`'s in memory mapping
alone, agrees with `o`. -/
theorem Coherent.withConfig (blank : o.Blank) {c : StorageConfig}
    (same : { c with enableMmap := o.config.enableMmap } = o.config) :
    Coherent F o { o with config := c } :=
  { Coherent.blank blank with config_eq := same }

theorem Coherent.withShards (coherent : Coherent F o s) {shards : List ShardHandle}
    (placed : ∀ h ∈ shards, Placed F o.config h) : Coherent F o { s with shards := shards } :=
  { coherent with handles := placed }

/-! ### Operations that answer as on the opened storage -/

/-- An operation that, from storage agreeing with the files, answers as on the storage as it was
opened, and leaves the storage agreeing. -/
def Transparent {α : Type} (op : StorageOp FixedFiles α) : Prop :=
  ∀ F o s, o.Blank → Coherent F o s →
    (runOn op F s).1 = (runOn op F o).1 ∧ Coherent F o (runOn op F s).2

/-- An operation that leaves storage agreeing with the files. -/
def KeepsCoherent {α : Type} (op : StorageOp FixedFiles α) : Prop :=
  ∀ F o s, o.Blank → Coherent F o s → Coherent F o (runOn op F s).2

theorem runOn_ofExcept {α : Type} (result : Except Error α) (F : Files) (s : Storage FixedFiles) :
    runOn (ofExcept result) F s = (result, s) := by
  cases result <;> rfl

namespace Transparent

variable {α β : Type}

theorem keepsCoherent {op : StorageOp FixedFiles α} (transparent : Transparent op) :
    KeepsCoherent op :=
  fun F o s blank coherent => (transparent F o s blank coherent).2

theorem pure (a : α) : Transparent (Pure.pure a : StorageOp FixedFiles α) :=
  fun _ _ _ _ coherent => ⟨rfl, coherent⟩

theorem throw (e : Error) : Transparent (MonadExcept.throw e : StorageOp FixedFiles α) :=
  fun _ _ _ _ coherent => ⟨rfl, coherent⟩

theorem ofExcept (result : Except Error α) : Transparent (Storage.ofExcept result) := by
  intro F o s _ coherent
  rw [runOn_ofExcept, runOn_ofExcept]
  exact ⟨rfl, coherent⟩

theorem lift (x : FixedFiles α) : Transparent (monadLift x : StorageOp FixedFiles α) :=
  fun _ _ _ _ coherent => ⟨rfl, coherent⟩

theorem bind {x : StorageOp FixedFiles α} {f : α → StorageOp FixedFiles β} (first : Transparent x)
    (next : ∀ a, Transparent (f a)) : Transparent (x >>= f) := by
  intro F o s blank coherent
  obtain ⟨answered, kept⟩ := first F o s blank coherent
  have keptFresh := (first F o o blank (Coherent.blank blank)).2
  rw [runOn_bind, runOn_bind, answered]
  cases (runOn x F o).1 with
  | error e => exact ⟨rfl, kept⟩
  | ok a =>
    obtain ⟨answered', kept'⟩ := next a F o (runOn x F s).2 blank kept
    exact ⟨answered'.trans (next a F o (runOn x F o).2 blank keptFresh).1.symm, kept'⟩

theorem map {x : StorageOp FixedFiles α} (f : α → β) (transparent : Transparent x) :
    Transparent (f <$> x) := by
  rw [map_eq_pure_bind]
  exact transparent.bind fun a => pure (f a)

/-- An operation that looks at the storage first is transparent when what it does depends only
on what agreeing storage shares with `o`. -/
theorem getThen {f : Storage FixedFiles → StorageOp FixedFiles α}
    (same : ∀ F o s, o.Blank → Coherent F o s → f s = f o) (ran : ∀ s, Transparent (f s)) :
    Transparent (get >>= f) := by
  intro F o s blank coherent
  rw [runOn_bind, runOn_get, runOn_bind, runOn_get]
  dsimp only
  rw [same F o s blank coherent]
  exact ran o F o s blank coherent

end Transparent

/-! ### Tables built once -/

theorem runOn_liftState {α : Type} (x : StateT (Storage FixedFiles) FixedFiles α) (F : Files)
    (s : Storage FixedFiles) :
    runOn (monadLift x : StorageOp FixedFiles α) F s =
      (.ok ((x.run s).run F).1, ((x.run s).run F).2) := rfl

theorem run_getOrTryInit {α : Type} {c : OnceCell α} (unbuilt : ∀ v, c ≠ .parsed v)
    (init : OnceCell α → StateT (Storage FixedFiles) FixedFiles (Except Error α)) (F : Files)
    (s : Storage FixedFiles) :
    ((c.getOrTryInit init).run s).run F = match ((init .parsing).run s).run F with
      | (.ok v, s₁) => ((.ok v, .parsed v), s₁)
      | (.error e, s₁) => ((.error e, .unparsed), s₁) := by
  cases c with
  | parsed v => exact absurd rfl (unbuilt v)
  | unparsed | parsing =>
    simp only [OnceCell.getOrTryInit, StateT.run_bind, ReaderT.run_bind]
    rcases ((init .parsing).run s).run F with ⟨_ | v, s₁⟩ <;> rfl

/-- A cell that is built answers its value and changes nothing; one that is not runs its
initialiser with the cell parsing, and keeps what it built or becomes unparsed again. -/
theorem runOn_cached {α : Type} {cell : Storage FixedFiles → OnceCell α}
    {store : Storage FixedFiles → OnceCell α → Storage FixedFiles} {init : StorageOp FixedFiles α}
    (restore : ∀ s, store s (cell s) = s) (F : Files) (s : Storage FixedFiles) :
    runOn (cached cell store init) F s = match cell s with
      | .parsed v => (.ok v, s)
      | _ => match runOn init F (store s .parsing) with
        | (.ok v, s₁) => (.ok v, store s₁ (.parsed v))
        | (.error e, s₁) => (.error e, store s₁ .unparsed) := by
  unfold cached
  rw [runOn_bind, runOn_get]
  dsimp only
  rw [runOn_bind, runOn_liftState]
  have start : ((do modify fun s => store s OnceCell.parsing; ExceptT.run init :
      StateT (Storage FixedFiles) FixedFiles _).run s).run F = runOn init F (store s .parsing) := rfl
  cases found : cell s with
  | parsed v =>
    have kept : store s (.parsed v) = s := found ▸ restore s
    show (Except.ok v, store s (.parsed v)) = (Except.ok v, s)
    rw [kept]
  | unparsed | parsing =>
    rw [run_getOrTryInit (fun _ => by simp), start]
    rcases runOn init F (store s .parsing) with ⟨_ | v, s₁⟩ <;> rfl

/-- A table cell is transparent when its initialiser is: a built cell holds what the cell
answers on `o`, where it is built by the same initialiser. -/
theorem Transparent.cached {α : Type} {cell : Storage FixedFiles → OnceCell α}
    {store : Storage FixedFiles → OnceCell α → Storage FixedFiles} {init : StorageOp FixedFiles α}
    (restore : ∀ s, store s (cell s) = s)
    (built : ∀ F o s v, o.Blank → Coherent F o s → cell s = .parsed v →
      (runOn (Storage.cached cell store init) F o).1 = .ok v)
    (stored : ∀ F o s c, o.Blank → Coherent F o s →
      (∀ v, c = .parsed v → (runOn (Storage.cached cell store init) F o).1 = .ok v) →
      Coherent F o (store s c))
    (unbuilt : ∀ o : Storage FixedFiles, o.Blank → cell o = .unparsed) (ran : Transparent init) :
    Transparent (Storage.cached cell store init) := by
  intro F o s blank coherent
  have parsingFresh := stored F o o .parsing blank (Coherent.blank blank) fun _ other => by cases other
  have fresh : (runOn (Storage.cached cell store init) F o).1 = (runOn init F o).1 := by
    rw [runOn_cached restore, unbuilt o blank, ← (ran F o (store o .parsing) blank parsingFresh).1]
    rcases runOn init F (store o .parsing) with ⟨_ | v, o₁⟩ <;> rfl
  rw [runOn_cached restore]
  cases found : cell s with
  | parsed v => exact ⟨(built F o s v blank coherent found).symm, coherent⟩
  | unparsed | parsing =>
    dsimp only
    have parsing := stored F o s .parsing blank coherent fun _ other => by cases other
    obtain ⟨answered, kept⟩ := ran F o (store s .parsing) blank parsing
    rw [fresh, ← answered]
    generalize runOn init F (store s .parsing) = ran at answered kept ⊢
    obtain ⟨_ | v, s₁⟩ := ran
    · exact ⟨rfl, stored F o s₁ .unparsed blank kept fun _ other => by cases other⟩
    · refine ⟨rfl, stored F o s₁ (.parsed v) blank kept fun v' same => ?_⟩
      cases same
      exact fresh.trans answered.symm

/-! ### Shard handles -/

/-- The kept handle on a shard, or a new one kept from now on when the shard's path names a
file. -/
theorem runOn_shard (n : Nat) (F : Files) (s : Storage FixedFiles) :
    runOn (shard n) F s = match s.shards.find? (·.number == n) with
      | some h => (.ok h, s)
      | none => match F.kindOf (s.config.shardPath n) with
        | some .file =>
          (.ok ⟨n, s.config.shardPath n, s.config.enableMmap, none, []⟩,
            { s with shards := s.shards ++ [⟨n, s.config.shardPath n, s.config.enableMmap, none, []⟩] })
        | _ => (.error (.ioFailure n (s.config.shardPath n) 0 .shardMissing), s) := by
  unfold shard
  rw [runOn_bind, runOn_get]
  dsimp only
  cases s.shards.find? (·.number == n) with
  | some h => rfl
  | none =>
    dsimp only
    rw [runOn_bind, runOn_lift, ShardHandle.make_run]
    cases F.kindOf (s.config.shardPath n) with
    | none => rfl
    | some kind => cases kind <;> rfl

/-- A read through the handle on shard `n`, with the handle it leaves kept in its place. -/
theorem runOn_withShard {α : Type} (n : Nat) (read : ShardRead FixedFiles α) (F : Files)
    (s : Storage FixedFiles) :
    runOn (withShard n read) F s = match runOn (shard n) F s with
      | (.ok h, s₁) => ((runOn read F h).1,
          { s₁ with shards := s₁.shards.map fun k => if k.number == n then (runOn read F h).2 else k })
      | (.error e, s₁) => (.error e, s₁) := by
  unfold withShard
  rw [runOn_bind]
  rcases runOn (shard n) F s with ⟨_ | h, s₁⟩
  · rfl
  · dsimp only
    rw [runOn_bind, runOn_lift]
    dsimp only
    rw [runOn_bind, runOn_modify]
    exact runOn_ofExcept _ F _

/-- Placed handles stay placed when those on shard `n` are replaced by a placed one on it. -/
theorem placed_map {c : StorageConfig} {shards : List ShardHandle} {n : Nat} {h' : ShardHandle}
    (placed : ∀ h ∈ shards, Placed F c h) (placed' : Placed F c h') :
    ∀ k ∈ shards.map (fun k => if k.number == n then h' else k), Placed F c k := by
  intro k member
  obtain ⟨k₀, kept, rfl⟩ := List.mem_map.mp member
  split
  · exact placed'
  · exact placed k₀ kept

/-- The handle on shard `n` keeps storage agreeing. -/
theorem shard_keepsCoherent (n : Nat) : KeepsCoherent (shard n) := by
  intro F o s _ coherent
  rw [runOn_shard]
  cases s.shards.find? (·.number == n) with
  | some h => exact coherent
  | none =>
    dsimp only
    cases kind : F.kindOf (s.config.shardPath n) with
    | none => exact coherent
    | some entry =>
      cases entry with
      | directory => exact coherent
      | file =>
        refine coherent.withShards fun h member => ?_
        rcases List.mem_append.mp member with old | new
        · exact coherent.handles h old
        · rw [List.mem_singleton.mp new]
          exact ⟨coherent.shardPath_eq n, kind, ShardHandle.agrees_fresh _ _ _⟩

/-- A read through the handle on shard `n` is transparent when, through every handle on it that
agrees with the files, it answers what the files give at the handle's path, and keeps the
handle agreeing. -/
theorem withShard_transparent {α : Type} (n : Nat) {read : ShardRead FixedFiles α}
    (answer : Files → String → Except Error α)
    (reads : ∀ F h, h.Agrees F → h.number = n →
      (runOn read F h).1 = answer F h.path ∧ ShardHandle.Kept F h (runOn read F h).2) :
    Transparent (withShard n read) := by
  intro F o s blank coherent
  rw [runOn_withShard, runOn_withShard, runOn_shard, runOn_shard, blank.shards_eq]
  have freshRead : ∀ useMmap, F.kindOf (o.config.shardPath n) = some .file →
      (runOn read F ⟨n, o.config.shardPath n, useMmap, none, []⟩).1 = answer F (o.config.shardPath n) ∧
      ShardHandle.Kept F ⟨n, o.config.shardPath n, useMmap, none, []⟩
        (runOn read F ⟨n, o.config.shardPath n, useMmap, none, []⟩).2 :=
    fun useMmap _ => reads F _ (ShardHandle.agrees_fresh _ _ _) rfl
  have placedAfter : ∀ h : ShardHandle, h.number = n → Placed F o.config h →
      Placed F o.config (runOn read F h).2 := by
    intro h numbered placed
    obtain ⟨-, kept⟩ := reads F h placed.agrees numbered
    refine ⟨?_, ?_, kept.agrees⟩
    · rw [kept.path_eq, kept.number_eq]
      exact placed.path_eq
    · rw [kept.path_eq]
      exact placed.present
  cases found : s.shards.find? (·.number == n) with
  | some h =>
    have numbered : h.number = n := by simpa using List.find?_some found
    have placed := coherent.handles h (List.mem_of_find?_eq_some found)
    have present : F.kindOf (o.config.shardPath n) = some .file := by
      rw [← numbered, ← placed.path_eq]
      exact placed.present
    rw [List.find?_nil, present]
    dsimp only
    refine ⟨?_, coherent.withShards (placed_map coherent.handles (placedAfter h numbered placed))⟩
    rw [(reads F h placed.agrees numbered).1, (freshRead _ present).1, placed.path_eq, numbered]
  | none =>
    rw [List.find?_nil, coherent.shardPath_eq]
    cases kind : F.kindOf (o.config.shardPath n) with
    | none => exact ⟨rfl, coherent⟩
    | some entry =>
      cases entry with
      | directory => exact ⟨rfl, coherent⟩
      | file =>
        dsimp only
        refine ⟨by rw [(freshRead _ kind).1, (freshRead _ kind).1], ?_⟩
        refine coherent.withShards (placed_map (fun h member => ?_)
          (placedAfter _ rfl ⟨rfl, kind, ShardHandle.agrees_fresh _ _ _⟩))
        rcases List.mem_append.mp member with old | new
        · exact coherent.handles h old
        · rw [List.mem_singleton.mp new]
          exact ⟨rfl, kind, ShardHandle.agrees_fresh _ _ _⟩

/-- The block an entry points at reads as it reads straight from its shard's file. -/
theorem blockOf_transparent (entry : IndexEntry) : Transparent (blockOf entry) :=
  withShard_transparent entry.shard (fun F path => ShardHandle.blockIn entry.shard path (F.readFile path) entry)
    fun F h agrees numbered => by
      rw [← numbered]
      exact ShardHandle.block_runOn agrees numbered.symm

/-! ### The tables and the lookups -/

theorem readEntry_transparent (entry : IndexEntry) : Transparent (readEntry entry) := by
  unfold readEntry
  refine (blockOf_transparent entry).bind fun block =>
    Transparent.getThen (fun F o s _ coherent => by simp only [coherent.decoder_eq]) fun s => ?_
  exact (Transparent.lift _).bind Transparent.ofExcept

theorem index_transparent : Transparent (index : StorageOp FixedFiles _) := by
  unfold index
  refine Transparent.cached (fun _ => rfl) (fun F o s I _ coherent found => coherent.index_eq I found)
    (fun F o s c _ coherent built => { coherent with index_eq := built })
    (fun _ blank => blank.index_eq) ?_
  refine Transparent.getThen (fun F o s _ coherent => by
    simp only [coherent.dataPath_eq, coherent.maxShard_eq]) fun s => ?_
  exact (Transparent.lift _).bind Transparent.ofExcept

theorem encoding_transparent : Transparent (encoding : StorageOp FixedFiles _) := by
  unfold encoding
  refine Transparent.cached (fun _ => rfl)
    (fun F o s E _ coherent found => coherent.encoding_eq E found)
    (fun F o s c _ coherent built => { coherent with encoding_eq := built })
    (fun _ blank => blank.encoding_eq) ?_
  refine index_transparent.bind fun store => Transparent.getThen (fun F o s _ coherent => by
    simp only [coherent.encodingKey_eq]) fun s => ?_
  dsimp only
  split
  · exact Transparent.throw _
  · exact (readEntry_transparent _).bind fun bytes => Transparent.ofExcept _

theorem root_transparent : Transparent (root : StorageOp FixedFiles _) := by
  unfold root
  refine Transparent.cached (fun _ => rfl) (fun F o s R _ coherent found => coherent.root_eq R found)
    (fun F o s c _ coherent built => { coherent with root_eq := built })
    (fun _ blank => blank.root_eq) ?_
  refine encoding_transparent.bind fun table => index_transparent.bind fun store =>
    Transparent.getThen (fun F o s _ coherent => by simp only [coherent.rootChecksum_eq])
      fun s => ?_
  dsimp only
  split
  · exact Transparent.throw _
  · split
    · exact Transparent.throw _
    · exact (readEntry_transparent _).bind fun bytes => Transparent.ofExcept _

theorem initialise_transparent : Transparent (initialise : StorageOp FixedFiles _) :=
  index_transparent.bind fun _ => encoding_transparent.bind fun _ =>
    root_transparent.bind fun _ => Transparent.pure _

theorem locate_transparent (nameHash : UInt64) :
    Transparent (locate nameHash : StorageOp FixedFiles _) :=
  root_transparent.bind fun _ => encoding_transparent.bind fun _ =>
    index_transparent.bind fun _ => Transparent.pure _

theorem resolveHash_transparent (nameHash : UInt64) :
    Transparent (resolveHash nameHash : StorageOp FixedFiles _) := by
  unfold resolveHash
  refine (locate_transparent nameHash).bind fun resolution => ?_
  cases resolution with
  | found entry => exact (blockOf_transparent entry).map some
  | missingAt _ => exact Transparent.pure _

theorem resolve_transparent (path : String) :
    Transparent (resolve path : StorageOp FixedFiles _) := by
  by_cases named : path = ""
  · unfold resolve
    rw [if_pos (by simp [named])]
    exact (Transparent.throw _).bind fun _ => resolveHash_transparent _
  · rw [resolve_eq path named]
    exact resolveHash_transparent _

theorem read_transparent (path : String) : Transparent (read path : StorageOp FixedFiles _) := by
  unfold read
  refine (resolve_transparent path).bind fun found => ?_
  cases found with
  | none => exact Transparent.pure _
  | some block =>
    refine Transparent.getThen (fun F o s _ coherent => by simp only [coherent.decoder_eq])
      fun s => ?_
    exact (Transparent.lift _).bind fun decoded => (Transparent.ofExcept _).map some

theorem contentChecksums_transparent (nameHash : UInt64) :
    Transparent (contentChecksums nameHash : StorageOp FixedFiles _) :=
  root_transparent.bind fun _ => Transparent.pure _

/-! ### Opening -/

/-- Opened storage has the configuration and the decoder it was opened with, and nothing built
or kept. -/
theorem ofConfig_blank {config : StorageConfig} {decoder : PayloadDecoder FixedFiles}
    {opened : Storage FixedFiles} (opening : (ofConfig config decoder).run F = Except.ok opened) :
    opened.Blank ∧ opened.config = config ∧ opened.decoder = decoder := by
  unfold ofConfig at opening
  split at opening
  · cases opening
  · cases opening
  · cases kind : F.kindOf config.dataPath with
    | none => simp only [ReaderT.run_bind, kindOf_run, kind] at opening; cases opening
    | some entry =>
      cases entry <;> simp only [ReaderT.run_bind, kindOf_run, kind] at opening <;> cases opening
      exact ⟨⟨rfl, rfl, rfl, rfl⟩, rfl, rfl⟩

/-- Memory mapping plays no part in opening: storage opened with it switched is the same but for
that setting. -/
theorem ofConfig_withMmap {config : StorageConfig} {decoder : PayloadDecoder FixedFiles}
    {opened : Storage FixedFiles} (opening : (ofConfig config decoder).run F = Except.ok opened)
    (mmap : Bool) :
    (ofConfig { config with enableMmap := mmap } decoder).run F =
      Except.ok { opened with config := { config with enableMmap := mmap } } := by
  unfold ofConfig at opening ⊢
  simp only [StorageConfig.encodingKey?, StorageConfig.rootChecksum?, StorageConfig.dataPath]
    at opening ⊢
  split at opening
  · cases opening
  · cases opening
  · cases kind : F.kindOf (Layout.dataPath config.installPath) with
    | none => simp only [ReaderT.run_bind, kindOf_run, kind] at opening; cases opening
    | some entry =>
      cases entry <;> simp only [ReaderT.run_bind, kindOf_run, kind] at opening ⊢ <;>
        cases opening
      rfl

end Storage

/-! ### Calls -/

namespace StorageCall

open Storage

/-- Every lookup answers, from storage that agrees with the files, as on the storage as it was
opened. -/
theorem transparent : ∀ call : StorageCall, 0 < call.reach → Transparent call.run
  | .index, _ => index_transparent.map _
  | .encoding, _ => encoding_transparent.map _
  | .root, _ => root_transparent.map _
  | .initialise, _ => initialise_transparent.map _
  | .locate nameHash, _ => (locate_transparent nameHash).map _
  | .resolve path, _ => (resolve_transparent path).map _
  | .resolveHash nameHash, _ => (resolveHash_transparent nameHash).map _
  | .read path, _ => (read_transparent path).map _
  | .contentChecksums nameHash, _ => (contentChecksums_transparent nameHash).map _
  | .shard _, lookup | .stats, lookup | .tableState _, lookup => absurd lookup (Nat.lt_irrefl 0)

/-- Every call keeps storage agreeing with the files. -/
theorem keepsCoherent (call : StorageCall) : KeepsCoherent call.run := by
  cases call with
  | shard n =>
    intro F o s blank coherent
    rw [StorageCall.run, runOn_map]
    exact shard_keepsCoherent n F o s blank coherent
  | stats | tableState _ => exact fun _ _ _ _ coherent => coherent
  | _ => exact (transparent _ (by simp [reach])).keepsCoherent

end StorageCall

/-- `s'` is where calls, one after another over files `F`, lead from `s`. -/
inductive LeadsOver (F : Files) : Storage FixedFiles → Storage FixedFiles → Prop
  | refl (s : Storage FixedFiles) : LeadsOver F s s
  | call {s s' : Storage FixedFiles} (call : StorageCall) :
      LeadsOver F s s' → LeadsOver F s (runOn call.run F s').2

/-- Storage that calls lead to from the storage as it was opened agrees with the files. -/
theorem LeadsOver.coherent {F : Files} {o s : Storage FixedFiles} (blank : o.Blank)
    (leads : LeadsOver F o s) : Storage.Coherent F o s := by
  induction leads with
  | refl => exact Storage.Coherent.blank blank
  | call call _ inductionHypothesis => exact call.keepsCoherent F o _ blank inductionHypothesis

/-! ### Answers that caches do not change -/

/-- Over files that stay as they are, nothing opened storage remembers changes an answer. After
any calls, a lookup (a table, a location, a payload, a file or the checksums of a name) answers,
error or value, as it does on storage freshly opened with the same configuration and decoder, and
as on storage opened with memory mapping switched either way; so a lookup answers the same after
any further call, and asking twice gives the same answer twice. A path that is not empty
resolves as its filename hash does. -/
theorem answers_ignore_caches {F : Files} {config : StorageConfig}
    {decoder : PayloadDecoder FixedFiles} {opened s : Storage FixedFiles}
    (opening : (Storage.ofConfig config decoder).run F = Except.ok opened)
    (calls : LeadsOver F opened s) {call : StorageCall} (lookup : 0 < call.reach) :
    (runOn call.run F s).1 = (runOn call.run F opened).1 ∧
    (∀ mmap : Bool, ∃ fresh,
      (Storage.ofConfig { config with enableMmap := mmap } decoder).run F = Except.ok fresh ∧
        (runOn call.run F s).1 = (runOn call.run F fresh).1) ∧
    (∀ other : StorageCall,
      (runOn call.run F (runOn other.run F s).2).1 = (runOn call.run F s).1) ∧
    ∀ path, path ≠ "" → (runOn (StorageCall.resolve path).run F s).1 =
      (runOn (StorageCall.resolveHash (AssetPath.filenameHash path)).run F s).1 := by
  obtain ⟨blank, configured, -⟩ := Storage.ofConfig_blank opening
  have transparent := StorageCall.transparent call lookup
  have answered := (transparent F opened s blank (calls.coherent blank)).1
  refine ⟨answered, fun mmap => ⟨_, Storage.ofConfig_withMmap opening mmap, ?_⟩, fun other => ?_,
    fun path named => ?_⟩
  · -- storage opened with either setting agrees with `opened`
    have fresh : Storage.Coherent F opened
        { opened with config := { config with enableMmap := mmap } } :=
      Storage.Coherent.withConfig blank (by rw [configured])
    rw [answered, (transparent F opened _ blank fresh).1]
  · have after := (LeadsOver.call other calls).coherent blank
    rw [(transparent F opened _ blank after).1, answered]
  · simp only [StorageCall.run, Storage.resolve_eq path named]

/-- Files in which every path names an empty directory and no file can be read. -/
def emptyFiles : Files :=
  ⟨fun _ => some .directory, fun _ => .error .notFound, fun _ => .ok [], fun _ _ => .error .notFound⟩

/-- The storage opened on `zeroKeysConfig` over `emptyFiles`, taking payloads as they are. -/
def zeroKeysFresh : Storage FixedFiles :=
  ⟨zeroKeysConfig, zeroKey, zeroKey, PayloadDecoder.raw, .unparsed, .unparsed, .unparsed, []⟩

/-- After a get of the index, a second get answers as on storage freshly opened with memory
mapping off. -/
theorem answers_ignore_caches_index :
    (Storage.ofConfig zeroKeysConfig PayloadDecoder.raw : FixedFiles _).run emptyFiles = Except.ok zeroKeysFresh ∧
      ∃ fresh, (Storage.ofConfig { zeroKeysConfig with enableMmap := false }
          PayloadDecoder.raw : FixedFiles _).run emptyFiles = Except.ok fresh ∧
        (runOn StorageCall.index.run emptyFiles (runOn StorageCall.index.run emptyFiles zeroKeysFresh).2).1 =
          (runOn StorageCall.index.run emptyFiles fresh).1 := by
  have opening : (Storage.ofConfig zeroKeysConfig PayloadDecoder.raw : FixedFiles _).run emptyFiles =
      Except.ok zeroKeysFresh := by
    unfold Storage.ofConfig
    rw [StorageConfig.encodingKey?, StorageConfig.rootChecksum?, zeroKeysConfig,
      StorageConfig.parseKey_hex, StorageConfig.parseKey_hex]
    rfl
  exact ⟨opening, (answers_ignore_caches opening (.call .index (.refl _)) (by decide)).2.1 false⟩

end AssetStore
