import AssetStore.Proofs.Observed
import AssetStore.Proofs.KeyText
/-!
# Tables built lazily

The three tables of opened storage are built in an order, the index first, then the encoding
table, then the root table (`TableKind.rank`), each on first demand, and the storage is watched
against a world that may change at every access (`Observed`).

What one call may do is summed up once (`Effect`) and every operation is shown to have such an
effect, from the shard reads up: a call builds only the tables up to its reach
(`StorageCall.reach`), and a built table stays built with the same value; when it succeeds,
every table up to its reach is built; the tables stay in order; and the listings of the data
directory and the decoder calls it makes are paid for by the tables up to its reach that were
not built. A table's cell pays when it is built (`cached_effects`), and the effect of a sequence
is assembled from those of its parts (`Effects.bind`).
-/

namespace AssetStore

open Observed

/-! ### Calls on opened storage -/

/-- What a call on opened storage answers. -/
inductive Answer
  | index (store : IndexStore)
  | encoding (table : EncodingTable)
  | root (table : RootTable)
  | done
  | location (resolution : Resolution IndexEntry)
  | payload (block : Option SegmentedStream)
  | file (bytes : Option (List UInt8))
  | checksums (keys : List Key)
  | handle (shard : ShardHandle)
  | stats (stats : StorageStats)
  | state (state : CellState)

/-- A call a program makes on opened storage. -/
inductive StorageCall
  | index
  | encoding
  | root
  | initialise
  | locate (nameHash : UInt64)
  | resolve (path : String)
  | resolveHash (nameHash : UInt64)
  | read (path : String)
  | contentChecksums (nameHash : UInt64)
  | shard (n : Nat)
  | stats
  | tableState (kind : TableKind)

namespace StorageCall

/-- The operation a call stands for. -/
def run {m : Type → Type} [Monad m] [DiskAccess m] : StorageCall → StorageOp m Answer
  | .index => .index <$> Storage.index
  | .encoding => .encoding <$> Storage.encoding
  | .root => .root <$> Storage.root
  | .initialise => (fun _ => .done) <$> Storage.initialise
  | .locate nameHash => .location <$> Storage.locate nameHash
  | .resolve path => .payload <$> Storage.resolve path
  | .resolveHash nameHash => .payload <$> Storage.resolveHash nameHash
  | .read path => .file <$> Storage.read path
  | .contentChecksums nameHash => .checksums <$> Storage.contentChecksums nameHash
  | .shard n => .handle <$> Storage.shard n
  | .stats => do return .stats (← get).stats
  | .tableState kind => do return .state ((← get).tableState kind)

/-- How far up the order of tables a call may build: the index alone, also the encoding table,
or all three; a look at a shard or at the storage builds none. -/
def reach : StorageCall → Nat
  | .index => 1
  | .encoding => 2
  | .root | .initialise | .locate _ | .resolve _ | .resolveHash _ | .read _
    | .contentChecksums _ => 3
  | .shard _ | .stats | .tableState _ => 0

end StorageCall

namespace TableKind

/-- The place of a table in the order the tables are built in. -/
def rank : TableKind → Nat
  | .index => 0
  | .encoding => 1
  | .root => 2

/-- The call that gets a table. -/
def getter : TableKind → StorageCall
  | .index => .index
  | .encoding => .encoding
  | .root => .root

end TableKind

/-- A cell with its value mapped. -/
def OnceCell.map {α β : Type} (f : α → β) : OnceCell α → OnceCell β
  | .unparsed => .unparsed
  | .parsing => .parsing
  | .parsed v => .parsed (f v)

@[simp] theorem OnceCell.state_map {α β : Type} (f : α → β) (c : OnceCell α) :
    (c.map f).state = c.state := by
  cases c <;> rfl

namespace Storage

variable {m : Type → Type}

/-- The cell of a table, holding the table as its getter answers it. -/
def table (s : Storage m) : TableKind → OnceCell Answer
  | .index => s.indexCell.map .index
  | .encoding => s.encodingCell.map .encoding
  | .root => s.rootCell.map .root

@[simp] theorem state_table (s : Storage m) (T : TableKind) : (s.table T).state = s.tableState T := by
  cases T <;> exact OnceCell.state_map _ _

theorem tableState_eq_parsed {s : Storage m} {T : TableKind} :
    s.tableState T = .parsed ↔ ∃ a, s.table T = .parsed a := by
  rw [← state_table]
  cases s.table T with
  | unparsed => simp [OnceCell.state]
  | parsing => simp [OnceCell.state]
  | parsed a => simp [OnceCell.state]

/-- Whether `T` is among the tables below `reach` that are not built: one if it is. -/
def unbuilt (s : Storage m) (reach : Nat) (T : TableKind) : Nat :=
  if T.rank < reach ∧ s.tableState T ≠ .parsed then 1 else 0

/-- Every built table's earlier tables are built. -/
def Chained (s : Storage m) : Prop :=
  ∀ T S : TableKind, S.rank < T.rank → s.tableState T = .parsed → s.tableState S = .parsed

/-- The tables are in order below `reach`: every built table's earlier tables are built, and
no build of a table below `reach` is under way. -/
structure OrderedBelow (s : Storage m) (reach : Nat) : Prop where
  chained : s.Chained
  settled : ∀ T, T.rank < reach → s.tableState T ≠ .parsing

end Storage

/-! ### What a run does to the tables -/

/-- What a run from `s` to `s'` making the accesses `new` did, as the tables judge it. It kept
the decoder. A built table stayed built with the same value, and no table from `reach` on
changed. Started with the tables in order below `reach`, it kept them so; if it succeeded, every
table below `reach` is built; and its listings of a directory and its decoder calls are paid
for by the tables below `reach` that were not built (a listing by the index, a decoder call by
the encoding or the root table) and by `extraListings` and `extraDecodes`. -/
structure Effect (reach extraListings extraDecodes : Nat) (s : Storage Observed) (ok : Bool)
    (s' : Storage Observed) (new : List Access) : Prop where
  decoder_eq : s'.decoder = s.decoder
  persists : ∀ T a, s.table T = .parsed a → s'.table T = .parsed a
  frame : ∀ T, reach ≤ T.rank → s'.table T = s.table T
  keeps : s.OrderedBelow reach → s'.OrderedBelow reach
  built : s.OrderedBelow reach → ok = true → ∀ T, T.rank < reach → s'.tableState T = .parsed
  listings_le : s.OrderedBelow reach → listings new ≤ s.unbuilt reach .index + extraListings
  decodes_le : s.OrderedBelow reach →
    decodes new ≤ s.unbuilt reach .encoding + s.unbuilt reach .root + extraDecodes

/-- Every run of `op` from storage `s`, against any world, has an effect up to `reach`, with
the extras given. -/
def EffectsFrom {α : Type} (reach extraListings extraDecodes : Nat) (op : StorageOp Observed α)
    (s : Storage Observed) : Prop :=
  ∀ w log, ∃ new, (execT op w s log).2 = log ++ new ∧
    Effect reach extraListings extraDecodes s (execT op w s log).1.1.toBool
      (execT op w s log).1.2 new

/-- Every run of `op` from storage with the observing decoder has an effect up to `reach`, with
the extras given. -/
def Effects {α : Type} (reach extraListings extraDecodes : Nat) (op : StorageOp Observed α) : Prop :=
  ∀ s : Storage Observed, s.decoder = Observed.decoder → EffectsFrom reach extraListings extraDecodes op s

namespace Storage

variable {s s₁ : Storage Observed}

theorem tableState_eq_of_table_eq {T : TableKind} (same : s₁.table T = s.table T) :
    s₁.tableState T = s.tableState T := by
  rw [← state_table, same, state_table]

theorem unbuilt_le_of_le {r r' : Nat} (le : r ≤ r') (T : TableKind) :
    s.unbuilt r T ≤ s.unbuilt r' T := by
  unfold unbuilt
  by_cases parsed : s.tableState T = .parsed
  · simp [parsed]
  · simp only [parsed, ne_eq, not_false_eq_true, and_true]
    split <;> split <;> omega

theorem OrderedBelow.mono {r r' : Nat} (ordered : s.OrderedBelow r') (le : r ≤ r') :
    s.OrderedBelow r :=
  ⟨ordered.chained, fun T below => ordered.settled T (by omega)⟩

end Storage

namespace Effect

variable {r r₁ r₂ l₁ l₂ d₁ d₂ : Nat} {s s₁ s₂ : Storage Observed} {ok : Bool}
  {new more : List Access}

/-- A run that changes no table has an effect that reaches no table, paid for by the extras
alone. -/
theorem unchanged {l d : Nat} (same : ∀ T, s₁.table T = s.table T) (decoder : s₁.decoder = s.decoder)
    (listed : listings new ≤ l) (decoded : decodes new ≤ d) : Effect 0 l d s ok s₁ new where
  decoder_eq := decoder
  persists T a parsed := by rw [same]; exact parsed
  frame T _ := same T
  keeps ordered := ⟨fun T S earlier parsed => by
      rw [Storage.tableState_eq_of_table_eq (same S)]
      exact ordered.chained T S earlier (by rw [← Storage.tableState_eq_of_table_eq (same T)]; exact parsed),
    fun _ below => absurd below (Nat.not_lt_zero _)⟩
  built _ _ _ below := absurd below (Nat.not_lt_zero _)
  listings_le _ := by simp only [Storage.unbuilt, Nat.not_lt_zero, false_and, if_false]; omega
  decodes_le _ := by simp only [Storage.unbuilt, Nat.not_lt_zero, false_and, if_false]; omega

theorem weaken {l l' d d' : Nat} (effect : Effect r l d s ok s₁ new) (listed : l ≤ l')
    (decoded : d ≤ d') : Effect r l' d' s ok s₁ new :=
  { effect with
    listings_le := fun ordered => by have := effect.listings_le ordered; omega
    decodes_le := fun ordered => by have := effect.decodes_le ordered; omega }

/-- The tables stay in order below a reach that covers the run's: those below the run's reach
are kept so by the run, and the others were not touched. -/
theorem orderedBelow_after (effect : Effect r₁ l₁ d₁ s ok s₁ new) (ordered : s.OrderedBelow r)
    (covers : r₁ ≤ r) : s₁.OrderedBelow r := by
  have kept := effect.keeps (ordered.mono covers)
  refine ⟨kept.chained, fun T below => ?_⟩
  by_cases reached : T.rank < r₁
  · exact kept.settled T reached
  · rw [Storage.tableState_eq_of_table_eq (effect.frame T (by omega))]
    exact ordered.settled T below

/-- A run that failed part way has the effect of its first part. -/
theorem stop (first : Effect r₁ l₁ d₁ s ok s₁ new) :
    Effect (max r₁ r₂) (l₁ + l₂) (d₁ + d₂) s false s₁ new where
  decoder_eq := first.decoder_eq
  persists := first.persists
  frame T above := first.frame T (by omega)
  keeps ordered := first.orderedBelow_after ordered (Nat.le_max_left r₁ r₂)
  built _ failed := by cases failed
  listings_le ordered := by
    have := first.listings_le (ordered.mono (Nat.le_max_left r₁ r₂))
    have := Storage.unbuilt_le_of_le (s := s) (Nat.le_max_left r₁ r₂) .index
    omega
  decodes_le ordered := by
    have := first.decodes_le (ordered.mono (Nat.le_max_left r₁ r₂))
    have := Storage.unbuilt_le_of_le (s := s) (Nat.le_max_left r₁ r₂) .encoding
    have := Storage.unbuilt_le_of_le (s := s) (Nat.le_max_left r₁ r₂) .root
    omega

/-- After a first part that succeeded, a table below its reach is built, and one from its reach
on is as it was: either way, what the second part may still build of it was counted before. -/
theorem unbuilt_seq (first : Effect r₁ l₁ d₁ s true s₁ new) (ordered : s.OrderedBelow r₁)
    (r₂ : Nat) (T : TableKind) : s.unbuilt r₁ T + s₁.unbuilt r₂ T ≤ s.unbuilt (max r₁ r₂) T := by
  by_cases reached : T.rank < r₁
  · have parsed := first.built ordered rfl T reached
    have none : s₁.unbuilt r₂ T = 0 := by simp [Storage.unbuilt, parsed]
    rw [none, Nat.add_zero]
    exact Storage.unbuilt_le_of_le (Nat.le_max_left r₁ r₂) T
  · have none : s.unbuilt r₁ T = 0 := by simp [Storage.unbuilt, reached]
    have same : s₁.unbuilt r₂ T = s.unbuilt r₂ T := by
      simp only [Storage.unbuilt, Storage.tableState_eq_of_table_eq (first.frame T (by omega))]
    rw [none, same, Nat.zero_add]
    exact Storage.unbuilt_le_of_le (Nat.le_max_right r₁ r₂) T

/-- A run in two parts, the first of which succeeded, has the effect of both: it reaches as far
as either part and is paid for by both. -/
theorem seq (first : Effect r₁ l₁ d₁ s true s₁ new) (next : Effect r₂ l₂ d₂ s₁ ok s₂ more) :
    Effect (max r₁ r₂) (l₁ + l₂) (d₁ + d₂) s ok s₂ (new ++ more) where
  decoder_eq := next.decoder_eq.trans first.decoder_eq
  persists T a parsed := next.persists T a (first.persists T a parsed)
  frame T above := (next.frame T (by omega)).trans (first.frame T (by omega))
  keeps ordered :=
    next.orderedBelow_after (first.orderedBelow_after ordered (Nat.le_max_left r₁ r₂)) (Nat.le_max_right r₁ r₂)
  built ordered succeeded T below := by
    have middle := first.orderedBelow_after ordered (Nat.le_max_left r₁ r₂)
    by_cases reached : T.rank < r₂
    · exact next.built (middle.mono (Nat.le_max_right r₁ r₂)) succeeded T reached
    · obtain ⟨a, parsed⟩ := Storage.tableState_eq_parsed.mp
        (first.built (ordered.mono (Nat.le_max_left r₁ r₂)) rfl T (by omega))
      exact Storage.tableState_eq_parsed.mpr ⟨a, next.persists T a parsed⟩
  listings_le ordered := by
    have before := ordered.mono (Nat.le_max_left r₁ r₂)
    have middle := (first.orderedBelow_after ordered (Nat.le_max_left r₁ r₂)).mono (Nat.le_max_right r₁ r₂)
    have := first.listings_le before
    have := next.listings_le middle
    have := first.unbuilt_seq before r₂ .index
    rw [listings_append]
    omega
  decodes_le ordered := by
    have before := ordered.mono (Nat.le_max_left r₁ r₂)
    have middle := (first.orderedBelow_after ordered (Nat.le_max_left r₁ r₂)).mono (Nat.le_max_right r₁ r₂)
    have := first.decodes_le before
    have := next.decodes_le middle
    have := first.unbuilt_seq before r₂ .encoding
    have := first.unbuilt_seq before r₂ .root
    rw [decodes_append]
    omega

end Effect

namespace Effects

variable {α β : Type} {r r₁ r₂ l l₁ l₂ d d₁ d₂ : Nat}

/-- The effect of a sequence: the first part's, and if it succeeds, the rest's after it. -/
theorem bind {x : StorageOp Observed α} {f : α → StorageOp Observed β} (first : Effects r₁ l₁ d₁ x)
    (next : ∀ a, Effects r₂ l₂ d₂ (f a)) : Effects (max r₁ r₂) (l₁ + l₂) (d₁ + d₂) (x >>= f) := by
  intro s observing w log
  obtain ⟨new, made, effect⟩ := first s observing w log
  rw [execT_bind]
  generalize execT x w s log = ran at made effect ⊢
  obtain ⟨⟨result, s₁⟩, log₁⟩ := ran
  dsimp only at made effect ⊢
  subst made
  cases result with
  | error e => exact ⟨new, rfl, effect.stop⟩
  | ok a =>
    obtain ⟨more, made', effect'⟩ := next a s₁ (effect.decoder_eq.trans observing) w (log ++ new)
    exact ⟨new ++ more, by rw [made', List.append_assoc], effect.seq effect'⟩

theorem weaken {x : StorageOp Observed α} (ran : Effects r l d x) {l' d' : Nat} (listed : l ≤ l')
    (decoded : d ≤ d') : Effects r l' d' x := fun s observing w log => by
  obtain ⟨new, made, effect⟩ := ran s observing w log
  exact ⟨new, made, effect.weaken listed decoded⟩

theorem getThen {f : Storage Observed → StorageOp Observed α}
    (next : ∀ s, s.decoder = Observed.decoder → EffectsFrom r l d (f s) s) :
    Effects r l d (get >>= f) :=
  fun s observing => next s observing

/-- A run that changes no table and makes no listing or decoder call. -/
theorem unchanged {x : StorageOp Observed α}
    (same : ∀ w s log, (∀ T, (execT x w s log).1.2.table T = s.table T) ∧
      (execT x w s log).1.2.decoder = s.decoder ∧
      ∃ new, (execT x w s log).2 = log ++ new ∧ listings new = 0 ∧ decodes new = 0) :
    Effects 0 0 0 x := fun s _ w log => by
  obtain ⟨tables, decoder, new, made, listed, decoded⟩ := same w s log
  exact ⟨new, made, Effect.unchanged tables decoder (Nat.le_of_eq listed) (Nat.le_of_eq decoded)⟩

theorem pure (a : α) : Effects 0 0 0 (Pure.pure a : StorageOp Observed α) :=
  unchanged fun _ _ log => ⟨fun _ => rfl, rfl, [], (List.append_nil log).symm, rfl, rfl⟩

theorem throw (e : Error) : Effects 0 0 0 (MonadExcept.throw e : StorageOp Observed α) :=
  unchanged fun _ _ log => ⟨fun _ => rfl, rfl, [], (List.append_nil log).symm, rfl, rfl⟩

theorem get : Effects 0 0 0 (MonadState.get : StorageOp Observed (Storage Observed)) :=
  unchanged fun _ _ log => ⟨fun _ => rfl, rfl, [], (List.append_nil log).symm, rfl, rfl⟩

theorem ofExcept (result : Except Error α) : Effects 0 0 0 (Storage.ofExcept result : StorageOp Observed α) := by
  cases result with
  | error e => exact throw e
  | ok a => exact pure a

theorem map {x : StorageOp Observed α} (f : α → β) (ran : Effects r l d x) :
    Effects r l d (f <$> x) := by
  rw [map_eq_pure_bind]
  have whole := ran.bind fun a => pure (f a)
  rwa [Nat.max_zero, Nat.add_zero, Nat.add_zero] at whole

theorem lift {x : Observed α} (files : OnlyFiles x) : Effects 0 0 0 (monadLift x : StorageOp Observed α) :=
  unchanged fun w _ log => by
    obtain ⟨new, made, looks⟩ := files w log
    exact ⟨fun _ => rfl, rfl, new, made, listings_decodes_of_looksAtFile looks⟩

theorem modifyShards (f : Storage Observed → List ShardHandle) :
    Effects 0 0 0 (modify fun s => { s with shards := f s } : StorageOp Observed Unit) :=
  unchanged fun _ s log => ⟨fun T => by cases T <;> rfl, rfl, [], (List.append_nil log).symm, rfl, rfl⟩

end Effects

theorem execT_ofExcept {α : Type} (result : Except Error α) (w : World) (s : Storage Observed)
    (log : List Access) : execT (Storage.ofExcept result) w s log = ((result, s), log) := by
  cases result <;> rfl

/-! ### Shard reads and decoding -/

namespace Storage

theorem shard_effects (n : Nat) : Effects 0 0 0 (shard n : StorageOp Observed _) := by
  unfold shard
  refine Effects.get.bind fun st => (?_ : Effects 0 0 0 _)
  split
  · exact Effects.pure _
  · refine (Effects.lift (ShardHandle.make_onlyFiles _ _ _)).bind fun made => (?_ : Effects 0 0 0 _)
    split
    · exact Effects.throw _
    · exact (Effects.modifyShards _).bind fun _ => Effects.pure _

/-- A read through a shard handle that only looks at files changes no table and makes no listing
or decoder call. -/
theorem withShard_effects {α : Type} (n : Nat) {read : ShardRead Observed α}
    (files : OnlyFilesT read) : Effects 0 0 0 (withShard n read) := by
  unfold withShard
  refine (shard_effects n).bind fun h => (?_ : Effects 0 0 0 _)
  refine (Effects.lift fun w log => files w h log).bind fun ran => (?_ : Effects 0 0 0 _)
  obtain ⟨result, h'⟩ := ran
  exact (Effects.modifyShards _).bind fun _ => Effects.ofExcept result

theorem blockOf_effects (entry : IndexEntry) : Effects 0 0 0 (blockOf entry : StorageOp Observed _) :=
  withShard_effects _ (ShardHandle.block_onlyFiles entry)

/-- Decoding a payload with the observing decoder is one decoder call, and what follows it
changes no table. -/
theorem decodeThen {β : Type} (bytes : List UInt8)
    {f : Except Error (List UInt8) → StorageOp Observed β} (next : ∀ r, Effects 0 0 0 (f r))
    (s : Storage Observed) (observing : s.decoder = Observed.decoder) :
    EffectsFrom 0 0 1 (monadLift (s.decoder bytes) >>= f) s := by
  intro w log
  rw [observing, execT_bind, execT_lift,
    show exec (Observed.decoder bytes) w log = (w.decode log bytes, log ++ [.decode bytes]) from rfl]
  dsimp only
  obtain ⟨more, made, effect⟩ := next (w.decode log bytes) s observing w (log ++ [.decode bytes])
  have decoded : Effect 0 0 1 s true s [.decode bytes] :=
    Effect.unchanged (fun _ => rfl) rfl (by simp [Access.isListing]) (by simp [Access.isDecode])
  exact ⟨[Access.decode bytes] ++ more, by rw [made, List.append_assoc], decoded.seq effect⟩

theorem readEntry_effects (entry : IndexEntry) : Effects 0 0 1 (readEntry entry : StorageOp Observed _) := by
  unfold readEntry
  refine (blockOf_effects entry).bind fun block => (?_ : Effects 0 0 1 _)
  exact Effects.getThen (decodeThen _ Effects.ofExcept)

end Storage

theorem execT_liftState {α : Type} (x : StateT (Storage Observed) Observed α) (w : World)
    (s : Storage Observed) (log : List Access) :
    execT (monadLift x : StorageOp Observed α) w s log =
      ((.ok (exec (x.run s) w log).1.1, (exec (x.run s) w log).1.2), (exec (x.run s) w log).2) := rfl

theorem exec_getOrTryInit {α : Type} {c : OnceCell α} (unbuilt : ∀ v, c ≠ .parsed v)
    (init : OnceCell α → StateT (Storage Observed) Observed (Except Error α)) (w : World)
    (s : Storage Observed) (log : List Access) :
    exec ((c.getOrTryInit init).run s) w log = match exec ((init .parsing).run s) w log with
      | ((.ok v, s₁), log₁) => (((.ok v, .parsed v), s₁), log₁)
      | ((.error e, s₁), log₁) => (((.error e, .unparsed), s₁), log₁) := by
  cases c with
  | parsed v => exact absurd rfl (unbuilt v)
  | unparsed | parsing =>
    simp only [OnceCell.getOrTryInit, StateT.run_bind, exec_bind]
    rcases exec ((init .parsing).run s) w log with ⟨⟨_ | v, s₁⟩, log₁⟩ <;> rfl

/-- A cell that is built answers its value and changes nothing; one that is not runs its
initialiser with the cell parsing, and keeps what it built or becomes unparsed again. -/
theorem execT_cached {α : Type} {cell : Storage Observed → OnceCell α}
    {store : Storage Observed → OnceCell α → Storage Observed} {init : StorageOp Observed α}
    (restore : ∀ s, store s (cell s) = s) (w : World) (s : Storage Observed) (log : List Access) :
    execT (Storage.cached cell store init) w s log = match cell s with
      | .parsed v => ((.ok v, s), log)
      | _ => match execT init w (store s .parsing) log with
        | ((.ok v, s₁), log₁) => ((.ok v, store s₁ (.parsed v)), log₁)
        | ((.error e, s₁), log₁) => ((.error e, store s₁ .unparsed), log₁) := by
  unfold Storage.cached
  rw [execT_bind, execT_get]
  dsimp only
  rw [execT_bind, execT_liftState]
  have start : exec ((do modify fun s => store s OnceCell.parsing; ExceptT.run init :
      StateT (Storage Observed) Observed _).run s) w log = execT init w (store s .parsing) log := rfl
  cases found : cell s with
  | parsed v =>
    have kept : store s (.parsed v) = s := found ▸ restore s
    show ((Except.ok v, store s (.parsed v)), log) = ((Except.ok v, s), log)
    rw [kept]
  | unparsed | parsing =>
    rw [exec_getOrTryInit (fun _ => by simp), start]
    rcases execT init w (store s .parsing) log with ⟨⟨_ | v, s₁⟩, log₁⟩ <;> rfl

/-! ### Tables built once -/

theorem TableKind.rank_ne {X T : TableKind} (other : X ≠ T) : X.rank ≠ T.rank := by
  cases X <;> cases T <;> simp_all [TableKind.rank]

/-- How a table is kept in the storage: `cell` reads its cell, `store` replaces it, and its
getter answers `toAnswer` of its value. Replacing the cell changes no other table and keeps the
decoder, and storing back the cell read changes nothing. -/
structure Slot (T : TableKind) {α : Type} (cell : Storage Observed → OnceCell α)
    (store : Storage Observed → OnceCell α → Storage Observed) (toAnswer : α → Answer) : Prop where
  table_eq : ∀ s, s.table T = (cell s).map toAnswer
  table_store : ∀ s c, (store s c).table T = c.map toAnswer
  table_store_ne : ∀ s c T', T' ≠ T → (store s c).table T' = s.table T'
  store_cell : ∀ s, store s (cell s) = s
  decoder_store : ∀ s c, (store s c).decoder = s.decoder

theorem indexSlot :
    Slot .index (·.indexCell) (fun s c => { s with indexCell := c }) Answer.index where
  table_eq _ := rfl
  table_store _ _ := rfl
  table_store_ne _ _ T' other := by
    cases T' with
    | index => exact absurd rfl other
    | encoding | root => rfl
  store_cell _ := rfl
  decoder_store _ _ := rfl

theorem encodingSlot :
    Slot .encoding (·.encodingCell) (fun s c => { s with encodingCell := c }) Answer.encoding where
  table_eq _ := rfl
  table_store _ _ := rfl
  table_store_ne _ _ T' other := by
    cases T' with
    | encoding => exact absurd rfl other
    | index | root => rfl
  store_cell _ := rfl
  decoder_store _ _ := rfl

theorem rootSlot :
    Slot .root (·.rootCell) (fun s c => { s with rootCell := c }) Answer.root where
  table_eq _ := rfl
  table_store _ _ := rfl
  table_store_ne _ _ T' other := by
    cases T' with
    | root => exact absurd rfl other
    | index | encoding => rfl
  store_cell _ := rfl
  decoder_store _ _ := rfl

namespace Slot

variable {T : TableKind} {α : Type} {cell : Storage Observed → OnceCell α}
  {store : Storage Observed → OnceCell α → Storage Observed} {toAnswer : α → Answer}
  {s s₁ : Storage Observed}

theorem tableState_eq (slot : Slot T cell store toAnswer) (s : Storage Observed) :
    s.tableState T = (cell s).state := by
  rw [← Storage.state_table, slot.table_eq, OnceCell.state_map]

theorem tableState_store (slot : Slot T cell store toAnswer) (s : Storage Observed) (c : OnceCell α) :
    (store s c).tableState T = c.state := by
  rw [← Storage.state_table, slot.table_store, OnceCell.state_map]

theorem tableState_store_ne (slot : Slot T cell store toAnswer) (s : Storage Observed) (c : OnceCell α)
    {T' : TableKind} (other : T' ≠ T) : (store s c).tableState T' = s.tableState T' :=
  Storage.tableState_eq_of_table_eq (slot.table_store_ne s c T' other)

/-- Marking an unbuilt table's cell as parsing keeps the tables below it in order. -/
theorem orderedBelow_parsing (slot : Slot T cell store toAnswer) (ordered : s.OrderedBelow (T.rank + 1))
    (unbuilt : s.tableState T ≠ .parsed) : (store s .parsing).OrderedBelow T.rank := by
  refine ⟨fun X S earlier parsed => ?_, fun X below => ?_⟩
  · have other : X ≠ T := by
      rintro rfl
      rw [slot.tableState_store] at parsed
      cases parsed
    rw [slot.tableState_store_ne s _ other] at parsed
    by_cases source : S = T
    · exact absurd (source ▸ ordered.chained X S earlier parsed) unbuilt
    · rw [slot.tableState_store_ne s _ source]
      exact ordered.chained X S earlier parsed
  · have other : X ≠ T := fun same => by rw [same] at below; omega
    rw [slot.tableState_store_ne s _ other]
    exact ordered.settled X (by omega)

/-- What a build of an unbuilt table still has to pay for: the tables below it, as the
initialiser sees them, and the table itself. -/
theorem unbuilt_parsing (slot : Slot T cell store toAnswer) (unbuilt : s.tableState T ≠ .parsed)
    (X : TableKind) :
    (store s .parsing).unbuilt T.rank X + (if X = T then 1 else 0) ≤ s.unbuilt (T.rank + 1) X := by
  by_cases same : X = T
  · subst same
    simp [Storage.unbuilt, unbuilt]
  · rw [if_neg same, Nat.add_zero]
    simp only [Storage.unbuilt, slot.tableState_store_ne s _ same]
    exact Storage.unbuilt_le_of_le (Nat.le_succ _) X

/-- A built table answers at once: nothing changes and every table below it is built, since
the tables are in order. -/
theorem effect_parsed (slot : Slot T cell store toAnswer) {v : α} (found : cell s = .parsed v) :
    Effect (T.rank + 1) 0 0 s true s [] := by
  have parsed : s.tableState T = .parsed := by rw [slot.tableState_eq, found]; rfl
  refine ⟨rfl, fun _ _ kept => kept, fun _ _ => rfl, id, fun ordered _ X below => ?_,
    fun _ => Nat.zero_le _, fun _ => Nat.zero_le _⟩
  by_cases same : X = T
  · rw [same]
    exact parsed
  · exact ordered.chained T X (by
      have : X.rank ≠ T.rank := fun ranks => same (by cases X <;> cases T <;> simp_all [TableKind.rank])
      omega) parsed

/-- A build of an unbuilt table: the initialiser ran with the cell parsing, and the cell then
holds what it built, or is unparsed again when it failed. The build pays for the table itself,
and every table below it that the initialiser built. -/
theorem effect_built (slot : Slot T cell store toAnswer) (unbuilt : s.tableState T ≠ .parsed)
    {l d : Nat} {ok : Bool} {new : List Access} (init : Effect T.rank l d (store s .parsing) ok s₁ new)
    (listingsPaid : l ≤ if TableKind.index = T then 1 else 0)
    (decodesPaid : d ≤ (if TableKind.encoding = T then 1 else 0) + (if TableKind.root = T then 1 else 0))
    {c : OnceCell α} (result : c.state = if ok then .parsed else .unparsed) :
    Effect (T.rank + 1) 0 0 s ok (store s₁ c) new where
  decoder_eq := by rw [slot.decoder_store, init.decoder_eq, slot.decoder_store]
  persists X a kept := by
    by_cases same : X = T
    · subst same
      exact absurd (Storage.tableState_eq_parsed.mpr ⟨a, kept⟩) unbuilt
    · rw [slot.table_store_ne _ _ _ same]
      exact init.persists X a (by rw [slot.table_store_ne _ _ _ same]; exact kept)
  frame X above := by
    have same : X ≠ T := fun same => by rw [same] at above; omega
    rw [slot.table_store_ne _ _ _ same, init.frame X (by omega), slot.table_store_ne _ _ _ same]
  keeps ordered := by
    have before := slot.orderedBelow_parsing ordered unbuilt
    have after := init.keeps before
    refine ⟨fun X S earlier parsed => ?_, fun X below => ?_⟩
    · by_cases top : X = T
      · -- the table built: the initialiser succeeded, so every table below it is built
        subst top
        rw [slot.tableState_store, result] at parsed
        cases ok with
        | false => cases parsed
        | true =>
          have other : S ≠ X := fun same => by rw [same] at earlier; omega
          rw [slot.tableState_store_ne _ _ other]
          exact init.built before rfl S earlier
      · rw [slot.tableState_store_ne _ _ top] at parsed
        by_cases source : S = T
        · -- a later table was not touched, and it was not built while this one was not
          subst source
          rw [Storage.tableState_eq_of_table_eq (init.frame X (by omega)),
            slot.tableState_store_ne _ _ top] at parsed
          exact absurd (ordered.chained X S earlier parsed) unbuilt
        · rw [slot.tableState_store_ne _ _ source]
          exact after.chained X S earlier parsed
    · by_cases top : X = T
      · subst top
        rw [slot.tableState_store, result]
        cases ok <;> simp
      · rw [slot.tableState_store_ne _ _ top]
        exact after.settled X (by have := TableKind.rank_ne top; omega)
  built ordered succeeded X below := by
    by_cases top : X = T
    · subst top
      rw [slot.tableState_store, result, succeeded]
      rfl
    · rw [slot.tableState_store_ne _ _ top]
      exact init.built (slot.orderedBelow_parsing ordered unbuilt) succeeded X
        (by have := TableKind.rank_ne top; omega)
  listings_le ordered := by
    have := init.listings_le (slot.orderedBelow_parsing ordered unbuilt)
    have := slot.unbuilt_parsing unbuilt .index
    split at listingsPaid <;> simp_all <;> omega
  decodes_le ordered := by
    have := init.decodes_le (slot.orderedBelow_parsing ordered unbuilt)
    have := slot.unbuilt_parsing unbuilt .encoding
    have := slot.unbuilt_parsing unbuilt .root
    cases T <;> simp_all <;> omega

end Slot

/-- A table's cell pays for its build: when the initialiser builds only tables below it, with a
listing more for the index or a decoder call more for the other two, the getter builds up to
the table itself with no extras. -/
theorem cached_effects {T : TableKind} {α : Type} {cell : Storage Observed → OnceCell α}
    {store : Storage Observed → OnceCell α → Storage Observed} {toAnswer : α → Answer}
    (slot : Slot T cell store toAnswer) {init : StorageOp Observed α} {l d : Nat}
    (ran : Effects T.rank l d init) (listingsPaid : l ≤ if TableKind.index = T then 1 else 0)
    (decodesPaid : d ≤ (if TableKind.encoding = T then 1 else 0) + (if TableKind.root = T then 1 else 0)) :
    Effects (T.rank + 1) 0 0 (Storage.cached cell store init) := by
  intro s observing w log
  rw [execT_cached slot.store_cell]
  cases found : cell s with
  | parsed v => exact ⟨[], (List.append_nil log).symm, slot.effect_parsed found⟩
  | unparsed | parsing =>
    have unbuilt : s.tableState T ≠ .parsed := by rw [slot.tableState_eq, found]; simp [OnceCell.state]
    obtain ⟨new, made, effect⟩ :=
      ran (store s .parsing) (by rw [slot.decoder_store]; exact observing) w log
    dsimp only
    generalize execT init w (store s .parsing) log = ran at made effect ⊢
    obtain ⟨⟨result, s₁⟩, log₁⟩ := ran
    dsimp only at made effect
    subst made
    cases result with
    | ok v => exact ⟨new, rfl, slot.effect_built unbuilt effect listingsPaid decodesPaid rfl⟩
    | error e => exact ⟨new, rfl, slot.effect_built unbuilt effect listingsPaid decodesPaid rfl⟩

/-! ### The getters -/

namespace Storage

/-- Getting the index lists the data directory only to build it. -/
theorem index_effects : Effects 1 0 0 (index : StorageOp Observed _) := by
  unfold index
  refine cached_effects indexSlot (?_ : Effects 0 1 0 _) (by decide) (by decide)
  refine Effects.getThen fun st _ w log => ?_
  rw [execT_bind, execT_lift]
  dsimp only
  rw [execT_ofExcept]
  obtain ⟨new, made, looks⟩ := IndexStore.loadDir_accesses st.dataPath st.config.maxShardNumber w log
  obtain ⟨listed, decoded⟩ := listings_decodes_of_looksAtFile looks
  refine ⟨.listDir st.dataPath :: new, made, Effect.unchanged (fun _ => rfl) rfl ?_ ?_⟩
  · simp [listed, Access.isListing]
  · simp [decoded, Access.isDecode]

/-- Getting the encoding table builds at most the index and the table itself. -/
theorem encoding_effects : Effects 2 0 0 (encoding : StorageOp Observed _) := by
  unfold encoding
  refine cached_effects encodingSlot (?_ : Effects 1 0 1 _) (by decide) (by decide)
  refine index_effects.bind fun store => (?_ : Effects 0 0 1 _)
  refine Effects.get.bind fun st => (?_ : Effects 0 0 1 _)
  dsimp only
  split
  · exact (Effects.throw _).weaken (Nat.le_refl 0) (Nat.zero_le 1)
  · exact (readEntry_effects _).bind fun bytes => Effects.ofExcept _

/-- Getting the root table builds at most the three tables. -/
theorem root_effects : Effects 3 0 0 (root : StorageOp Observed _) := by
  unfold root
  refine cached_effects rootSlot (?_ : Effects 2 0 1 _) (by decide) (by decide)
  refine encoding_effects.bind fun table => (?_ : Effects 1 0 1 _)
  refine index_effects.bind fun store => (?_ : Effects 0 0 1 _)
  refine Effects.get.bind fun st => (?_ : Effects 0 0 1 _)
  dsimp only
  split
  · exact (Effects.throw _).weaken (Nat.le_refl 0) (Nat.zero_le 1)
  · split
    · exact (Effects.throw _).weaken (Nat.le_refl 0) (Nat.zero_le 1)
    · exact (readEntry_effects _).bind fun bytes => Effects.ofExcept _

theorem initialise_effects : Effects 3 0 0 (initialise : StorageOp Observed _) := by
  unfold initialise
  exact index_effects.bind fun _ => encoding_effects.bind fun _ => root_effects.bind fun _ =>
    Effects.pure _

theorem locate_effects (nameHash : UInt64) : Effects 3 0 0 (locate nameHash : StorageOp Observed _) := by
  unfold locate
  exact root_effects.bind fun _ => encoding_effects.bind fun _ => index_effects.bind fun _ =>
    Effects.pure _

theorem resolveHash_effects (nameHash : UInt64) :
    Effects 3 0 0 (resolveHash nameHash : StorageOp Observed _) := by
  unfold resolveHash
  refine (locate_effects nameHash).bind fun found => (?_ : Effects 0 0 0 _)
  split
  · exact (blockOf_effects _).map _
  · exact Effects.pure _

theorem resolve_effects (path : String) : Effects 3 0 0 (resolve path : StorageOp Observed _) := by
  unfold resolve
  dsimp only
  split
  · exact (Effects.throw _).bind fun _ => resolveHash_effects _
  · exact resolveHash_effects _

/-- Reading a file decodes its payload once more. -/
theorem read_effects (path : String) : Effects 3 0 1 (read path : StorageOp Observed _) := by
  unfold read
  refine (resolve_effects path).bind fun found => (?_ : Effects 0 0 1 _)
  split
  · exact (Effects.pure _).weaken (Nat.le_refl 0) (Nat.zero_le 1)
  · exact Effects.getThen (decodeThen _ fun r => (Effects.ofExcept r).map _)

theorem contentChecksums_effects (nameHash : UInt64) :
    Effects 3 0 0 (contentChecksums nameHash : StorageOp Observed _) := by
  unfold contentChecksums
  exact root_effects.bind fun _ => Effects.pure _

end Storage

theorem execT_map {α β : Type} (f : α → β) (x : StorageOp Observed α) (w : World)
    (s : Storage Observed) (log : List Access) :
    execT (f <$> x) w s log = match execT x w s log with
      | ((.ok a, s'), log') => ((.ok (f a), s'), log')
      | ((.error e, s'), log') => ((.error e, s'), log') := by
  rw [map_eq_pure_bind, execT_bind]
  rcases execT x w s log with ⟨⟨_ | a, s'⟩, log'⟩ <;> rfl

namespace Slot

variable {T : TableKind} {α : Type} {cell : Storage Observed → OnceCell α}
  {store : Storage Observed → OnceCell α → Storage Observed} {toAnswer : α → Answer}
  {init : StorageOp Observed α} {s : Storage Observed}

/-- A built table's getter answers it, changes nothing and makes no access. -/
theorem execT_parsed (slot : Slot T cell store toAnswer) {a : Answer} (built : s.table T = .parsed a)
    (w : World) (log : List Access) :
    execT (toAnswer <$> Storage.cached cell store init) w s log = ((.ok a, s), log) := by
  rw [slot.table_eq] at built
  rw [execT_map, execT_cached slot.store_cell]
  cases found : cell s with
  | parsed v =>
    rw [found] at built
    cases built
    rfl
  | unparsed | parsing =>
    rw [found] at built
    cases built

/-- A getter that answers a table leaves it built with that value. -/
theorem table_of_ok (slot : Slot T cell store toAnswer) {w : World} {log : List Access} {a : Answer}
    (answered : (execT (toAnswer <$> Storage.cached cell store init) w s log).1.1 = .ok a) :
    (execT (toAnswer <$> Storage.cached cell store init) w s log).1.2.table T = .parsed a := by
  rw [execT_map, execT_cached slot.store_cell] at answered ⊢
  cases found : cell s with
  | parsed v =>
    simp only [found] at answered ⊢
    cases answered
    rw [slot.table_eq, found]
    rfl
  | unparsed | parsing =>
    simp only [found] at answered ⊢
    generalize execT init w (store s .parsing) log = ran at answered ⊢
    obtain ⟨⟨_ | v, s₁⟩, log₁⟩ := ran
    · cases answered
    · cases answered
      rw [slot.table_store]
      rfl

end Slot

/-! ### Calls -/

namespace StorageCall

/-- The decoder calls a call makes beyond building tables: one for the payload a read found. -/
def payloadDecodes : StorageCall → Nat
  | .read _ => 1
  | _ => 0

/-- What every call does to the tables. -/
theorem effects : ∀ call : StorageCall, Effects call.reach 0 call.payloadDecodes call.run
  | .index => Storage.index_effects.map _
  | .encoding => Storage.encoding_effects.map _
  | .root => Storage.root_effects.map _
  | .initialise => Storage.initialise_effects.map _
  | .locate nameHash => (Storage.locate_effects nameHash).map _
  | .resolve path => (Storage.resolve_effects path).map _
  | .resolveHash nameHash => (Storage.resolveHash_effects nameHash).map _
  | .read path => (Storage.read_effects path).map _
  | .contentChecksums nameHash => (Storage.contentChecksums_effects nameHash).map _
  | .shard n => (Storage.shard_effects n).map _
  | .stats => Effects.get.bind fun _ => Effects.pure _
  | .tableState _ => Effects.get.bind fun _ => Effects.pure _

theorem reach_le (call : StorageCall) : call.reach ≤ 3 := by
  cases call <;> simp [reach]

theorem slot_run (T : TableKind) : ∃ (α : Type) (cell : Storage Observed → OnceCell α)
    (store : Storage Observed → OnceCell α → Storage Observed) (toAnswer : α → Answer)
    (init : StorageOp Observed α), Slot T cell store toAnswer ∧
      (T.getter.run : StorageOp Observed Answer) = toAnswer <$> Storage.cached cell store init := by
  cases T with
  | index => exact ⟨_, _, _, _, _, indexSlot, rfl⟩
  | encoding => exact ⟨_, _, _, _, _, encodingSlot, rfl⟩
  | root => exact ⟨_, _, _, _, _, rootSlot, rfl⟩

/-- A built table's getter answers it, changes nothing and makes no access. -/
theorem getter_parsed {T : TableKind} {s : Storage Observed} {a : Answer} (built : s.table T = .parsed a)
    (w : World) (log : List Access) : execT T.getter.run w s log = ((.ok a, s), log) := by
  obtain ⟨_, _, _, _, _, slot, run⟩ := slot_run T
  rw [run]
  exact slot.execT_parsed built w log

/-- A getter that answers a table leaves it built with that value. -/
theorem getter_ok {T : TableKind} {s : Storage Observed} {w : World} {log : List Access} {a : Answer}
    (answered : (execT T.getter.run w s log).1.1 = .ok a) :
    (execT T.getter.run w s log).1.2.table T = .parsed a := by
  obtain ⟨_, _, _, _, _, slot, run⟩ := slot_run T
  rw [run] at answered ⊢
  exact slot.table_of_ok answered

theorem eq_read_of_payloadDecodes {call : StorageCall} (decoding : call.payloadDecodes ≠ 0) :
    ∃ path, call = .read path := by
  cases call <;> simp_all [payloadDecodes]

/-- The answer of a read that found a payload, or that failed, is never "no file". -/
theorem read_found_answer {path : String} {s : Storage Observed} {w : World} {log : List Access}
    (missed : (execT (run (read path)) w s log).1.1 = .ok (.file none)) :
    ∃ s₁, execT (Storage.resolve path) w s log = ((.ok none, s₁), (execT (run (read path)) w s log).2) := by
  unfold run Storage.read at missed ⊢
  rw [execT_map, execT_bind] at missed ⊢
  generalize execT (Storage.resolve path) w s log = ran at missed ⊢
  obtain ⟨⟨_ | found, s₁⟩, log₁⟩ := ran
  · cases missed
  · cases found with
    | none => exact ⟨s₁, rfl⟩
    | some block =>
      exfalso
      dsimp only at missed
      rw [execT_bind, execT_get] at missed
      dsimp only at missed
      rw [execT_bind, execT_lift] at missed
      dsimp only at missed
      rw [execT_map, execT_ofExcept] at missed
      generalize exec (s₁.decoder block.toBytes) w log₁ = decoded at missed
      obtain ⟨_ | bytes, log₂⟩ := decoded <;> cases missed

end StorageCall

/-! ### Runs of calls -/

/-- `s'` is where some calls, each against any world, lead from `s`. -/
inductive Leads : Storage Observed → Storage Observed → Prop
  | refl (s : Storage Observed) : Leads s s
  | call {s s' : Storage Observed} (call : StorageCall) (w : World) (log : List Access) :
      Leads s s' → Leads s (execT call.run w s' log).1.2

/-- Storage that opening a configuration with the observing decoder, against any world, and
then some calls lead to. -/
def Reachable (config : StorageConfig) (s : Storage Observed) : Prop :=
  ∃ w log opened, (exec (Storage.ofConfig config Observed.decoder) w log).1 = .ok opened ∧
    Leads opened s

/-- Opened storage has its decoder and no table built. -/
theorem Storage.ofConfig_opened {config : StorageConfig} {decoder : PayloadDecoder Observed}
    {w : World} {log : List Access} {s : Storage Observed}
    (opened : (exec (Storage.ofConfig config decoder) w log).1 = .ok s) :
    s.decoder = decoder ∧ ∀ T, s.tableState T = .unparsed := by
  unfold Storage.ofConfig at opened
  split at opened
  · cases opened
  · cases opened
  · rw [exec_bind] at opened
    split at opened
    · cases opened
      exact ⟨rfl, fun T => by cases T <;> rfl⟩
    · cases opened

/-- Along any calls the decoder stays the observing one, the tables stay in order, and a built
table stays built with the same value. -/
theorem Leads.keeps {s s' : Storage Observed} (leads : Leads s s')
    (observing : s.decoder = Observed.decoder) (ordered : s.OrderedBelow 3) :
    s'.decoder = Observed.decoder ∧ s'.OrderedBelow 3 ∧
      ∀ T a, s.table T = .parsed a → s'.table T = .parsed a := by
  induction leads with
  | refl => exact ⟨observing, ordered, fun _ _ kept => kept⟩
  | call call w log _ inductionHypothesis =>
    obtain ⟨observing', ordered', persists⟩ := inductionHypothesis
    obtain ⟨_, -, effect⟩ := call.effects _ observing' w log
    exact ⟨effect.decoder_eq.trans observing', effect.orderedBelow_after ordered' call.reach_le,
      fun T a kept => effect.persists T a (persists T a kept)⟩

theorem Reachable.keeps {config : StorageConfig} {s : Storage Observed} (reachable : Reachable config s) :
    s.decoder = Observed.decoder ∧ s.OrderedBelow 3 := by
  obtain ⟨w, log, opened, made, leads⟩ := reachable
  obtain ⟨observing, unbuilt⟩ := Storage.ofConfig_opened made
  have chained : opened.Chained := fun T _ _ parsed => by
    rw [unbuilt T] at parsed
    cases parsed
  have ordered : opened.OrderedBelow 3 := ⟨chained, fun T _ => by simp [unbuilt T]⟩
  obtain ⟨observing', ordered', -⟩ := leads.keeps observing ordered
  exact ⟨observing', ordered'⟩

/-! ### The lazy tables -/

/-- The tables of reachable storage are built lazily and in order. In every reachable state a
built root table has its encoding table built, a built encoding table has its index built, and
no build is under way. A call reads the index files, listing the data directory, only to build
the index, and at most once; it calls the decoder at most once for each of the encoding and root
tables it builds, and once more only for the payload a read finds. It builds no table beyond its
reach: a get of the index builds neither other table, and a get of the encoding table does not
build the root table. A built table stays built with the same value, and its getter answers it
with no access and no change; once a getter has answered a table, every later getter answers
the same table, whatever the world does in between. A look at the statistics or at a table's
state changes nothing. -/
theorem tables_build_lazily {config : StorageConfig} {s : Storage Observed}
    (reachable : Reachable config s) (call : StorageCall) (w : World) (log : List Access) :
    ((s.tableState .root = .parsed → s.tableState .encoding = .parsed) ∧
      (s.tableState .encoding = .parsed → s.tableState .index = .parsed) ∧
      ∀ T, s.tableState T ≠ .parsing) ∧
    ∃ new, (execT call.run w s log).2 = log ++ new ∧
      listings new ≤ s.unbuilt call.reach .index ∧
      decodes new ≤ s.unbuilt call.reach .encoding + s.unbuilt call.reach .root + call.payloadDecodes ∧
      ((execT call.run w s log).1.1 = .ok (.file none) →
        decodes new ≤ s.unbuilt call.reach .encoding + s.unbuilt call.reach .root) ∧
      (∀ T, call.reach ≤ T.rank → (execT call.run w s log).1.2.table T = s.table T) ∧
      (∀ (T : TableKind) (a : Answer), s.table T = .parsed a →
        (execT call.run w s log).1.2.table T = .parsed a ∧
        (call = T.getter →
          (execT call.run w s log).1.1 = .ok a ∧ (execT call.run w s log).1.2 = s ∧ new = [])) ∧
      (∀ (T : TableKind) (a : Answer), call = T.getter → (execT call.run w s log).1.1 = .ok a →
        ∀ s', Leads (execT call.run w s log).1.2 s' → ∀ w' log',
          (execT T.getter.run w' s' log').1.1 = .ok a) ∧
      ((call = .stats ∨ ∃ kind, call = .tableState kind) →
        (execT call.run w s log).1.2 = s ∧ new = []) := by
  obtain ⟨observing, ordered⟩ := reachable.keeps
  obtain ⟨new, made, effect⟩ := call.effects s observing w log
  have within := ordered.mono call.reach_le
  refine ⟨⟨ordered.chained .root .encoding (by decide), ordered.chained .encoding .index (by decide),
    fun T => ordered.settled T (by cases T <;> decide)⟩, new, made, ?_, ?_, ?_, effect.frame, ?_, ?_, ?_⟩
  · simpa using effect.listings_le within
  · exact effect.decodes_le within
  · -- a read that finds nothing makes the accesses of the resolution alone
    intro missed
    by_cases decoding : call.payloadDecodes = 0
    · simpa [decoding] using effect.decodes_le within
    · obtain ⟨path, rfl⟩ := StorageCall.eq_read_of_payloadDecodes decoding
      obtain ⟨s₁, resolved⟩ := StorageCall.read_found_answer missed
      obtain ⟨new', made', effect'⟩ := Storage.resolve_effects path s observing w log
      rw [resolved, made] at made'
      rw [List.append_cancel_left made']
      simpa [StorageCall.reach] using effect'.decodes_le within
  · intro T a built
    refine ⟨effect.persists T a built, fun getter => ?_⟩
    subst getter
    have ran := StorageCall.getter_parsed built w log
    rw [ran] at made ⊢
    exact ⟨rfl, rfl, (List.append_cancel_left (made.symm.trans (List.append_nil log).symm))⟩
  · intro T a getter answered s' leads w' log'
    subst getter
    have built := StorageCall.getter_ok answered
    obtain ⟨-, -, persists⟩ := leads.keeps (effect.decoder_eq.trans observing)
      (effect.orderedBelow_after ordered (StorageCall.reach_le _))
    rw [StorageCall.getter_parsed (persists T a built) w' log']
  · rintro (rfl | ⟨kind, rfl⟩) <;>
      exact ⟨rfl, (List.append_cancel_left (made.symm.trans (List.append_nil log).symm))⟩

/-- The one-byte key 0. -/
def zeroKey : Key := ⟨[0], List.cons_ne_nil 0 []⟩

/-- The default configuration with both keys set to `zeroKey`. -/
def zeroKeysConfig : StorageConfig :=
  { StorageConfig.default with encodingKey := zeroKey.hex, rootChecksum := zeroKey.hex }

/-- A world in which every path names an empty directory and no file can be read. -/
def emptyWorld : World :=
  ⟨fun _ _ => some .directory, fun _ _ => .error .notFound, fun _ _ => .ok [],
    fun _ _ _ => .error .notFound, fun _ payload => .ok payload⟩

/-- The storage opened on `zeroKeysConfig`, with no table built. -/
def zeroKeysOpened : Storage Observed :=
  ⟨zeroKeysConfig, zeroKey, zeroKey, Observed.decoder, .unparsed, .unparsed, .unparsed, []⟩

/-- Freshly opened storage is reachable, and getting the index from it lists the data directory
at most once. -/
theorem tables_build_lazily_opened :
    Reachable zeroKeysConfig zeroKeysOpened ∧
      ∃ new, (execT StorageCall.index.run emptyWorld zeroKeysOpened []).2 = [] ++ new ∧
        listings new ≤ zeroKeysOpened.unbuilt 1 .index := by
  have opened : (exec (Storage.ofConfig zeroKeysConfig Observed.decoder) emptyWorld []).1 =
      .ok zeroKeysOpened := by
    unfold Storage.ofConfig
    rw [StorageConfig.encodingKey?, StorageConfig.rootChecksum?, zeroKeysConfig,
      StorageConfig.parseKey_hex, StorageConfig.parseKey_hex]
    rfl
  have reachable : Reachable zeroKeysConfig zeroKeysOpened :=
    ⟨emptyWorld, [], zeroKeysOpened, opened, .refl _⟩
  obtain ⟨-, new, made, listed, -⟩ := tables_build_lazily reachable .index emptyWorld []
  exact ⟨reachable, new, made, listed⟩

end AssetStore
