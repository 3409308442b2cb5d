import AssetStore.Storage
/-!
# Storage observed against a changing world

To see what the storage asks of the world outside it, it is run against a world that answers
every access as it pleases, knowing the accesses made before (`World`): files may change, appear
or vanish between any two accesses, and the decoder may answer differently every time. The
accesses are kept in order (`Observed`), so that a statement about the storage can count them:
the listings of a directory, with which the reading of the index files starts, and the decoder
calls.

A read through a shard handle only looks at files: it asks what a path names or reads a file,
and never lists a directory or decodes (`ShardHandle.block_onlyFiles`). Building the index lists
the data directory once and then only reads files (`IndexStore.loadDir_accesses`).
-/

namespace AssetStore

/-- What the storage asks of the world outside it: a file-system access or a decoder call. -/
inductive Access
  | kindOf (path : String)
  | readFile (path : String)
  | listDir (path : String)
  | writeFile (path : String)
  | decode (payload : List UInt8)
  deriving DecidableEq

namespace Access

/-- Whether an access lists a directory. -/
def isListing : Access → Bool
  | .listDir _ => true
  | _ => false

/-- Whether an access calls the decoder. -/
def isDecode : Access → Bool
  | .decode _ => true
  | _ => false

/-- Whether an access only looks at a file: it asks what a path names, or reads its bytes. -/
def looksAtFile : Access → Bool
  | .kindOf _ | .readFile _ => true
  | _ => false

end Access

/-- The listings of a directory among some accesses. -/
def listings (accesses : List Access) : Nat := accesses.countP Access.isListing

/-- The decoder calls among some accesses. -/
def decodes (accesses : List Access) : Nat := accesses.countP Access.isDecode

@[simp] theorem listings_nil : listings [] = 0 := rfl

@[simp] theorem decodes_nil : decodes [] = 0 := rfl

@[simp] theorem listings_append (first second : List Access) :
    listings (first ++ second) = listings first + listings second :=
  List.countP_append

@[simp] theorem decodes_append (first second : List Access) :
    decodes (first ++ second) = decodes first + decodes second :=
  List.countP_append

@[simp] theorem listings_cons (a : Access) (rest : List Access) :
    listings (a :: rest) = listings rest + if a.isListing then 1 else 0 :=
  List.countP_cons

@[simp] theorem decodes_cons (a : Access) (rest : List Access) :
    decodes (a :: rest) = decodes rest + if a.isDecode then 1 else 0 :=
  List.countP_cons

/-- Accesses that only look at files neither list a directory nor call the decoder. -/
theorem listings_decodes_of_looksAtFile {accesses : List Access}
    (files : ∀ a ∈ accesses, a.looksAtFile) : listings accesses = 0 ∧ decodes accesses = 0 := by
  refine ⟨List.countP_eq_zero.mpr fun a member => ?_, List.countP_eq_zero.mpr fun a member => ?_⟩
  all_goals
    have looks := files a member
    cases a <;> simp_all [Access.looksAtFile, Access.isListing, Access.isDecode]

/-- A world outside the storage that may change at any moment: it answers every access as it
pleases, knowing every access made before it. -/
structure World where
  kindOf : List Access → String → Option EntryKind
  readFile : List Access → String → Except IoError (List UInt8)
  listDir : List Access → String → Except IoError (List String)
  writeFile : List Access → String → List UInt8 → Except IoError Unit
  decode : List Access → List UInt8 → Except Error (List UInt8)

/-- A run against a world that keeps the accesses made, in order. -/
abbrev Observed := ReaderT World (StateM (List Access))

namespace Observed

variable {α β σ : Type}

/-- Makes an access: the world answers it knowing the accesses before, and it is kept. -/
def ask (access : Access) (answer : World → List Access → α) : Observed α := do
  let world ← read
  let before ← get
  set (before ++ [access])
  return answer world before

/-- The decoder that hands every payload to the world. -/
def decoder : PayloadDecoder Observed := fun payload =>
  ask (.decode payload) fun world before => world.decode before payload

/-- Runs against world `w` after the accesses `log`: the value, and all accesses made. -/
def exec (x : Observed α) (w : World) (log : List Access) : α × List Access :=
  (x.run w).run log

theorem exec_pure (a : α) (w : World) (log : List Access) : exec (pure a) w log = (a, log) := rfl

theorem exec_bind (x : Observed α) (f : α → Observed β) (w : World) (log : List Access) :
    exec (x >>= f) w log = exec (f (exec x w log).1) w (exec x w log).2 := rfl

theorem exec_ask (access : Access) (answer : World → List Access → α) (w : World)
    (log : List Access) : exec (ask access answer) w log = (answer w log, log ++ [access]) := rfl

/-- Runs a read that keeps state `σ` and may fail: its outcome, its last state, and all
accesses made. -/
def execT (x : ExceptT Error (StateT σ Observed) α) (w : World) (s : σ) (log : List Access) :
    (Except Error α × σ) × List Access :=
  exec ((ExceptT.run x).run s) w log

theorem execT_bind (x : ExceptT Error (StateT σ Observed) α)
    (f : α → ExceptT Error (StateT σ Observed) β) (w : World) (s : σ) (log : List Access) :
    execT (x >>= f) w s log = match execT x w s log with
      | ((.ok a, s'), log') => execT (f a) w s' log'
      | ((.error e, s'), log') => ((.error e, s'), log') := by
  simp only [execT, ExceptT.run_bind, StateT.run_bind, exec_bind]
  rcases exec ((ExceptT.run x).run s) w log with ⟨⟨_ | _, s'⟩, log'⟩ <;> rfl

theorem execT_pure (a : α) (w : World) (s : σ) (log : List Access) :
    execT (pure a : ExceptT Error (StateT σ Observed) α) w s log = ((.ok a, s), log) := rfl

theorem execT_throw (e : Error) (w : World) (s : σ) (log : List Access) :
    execT (throw e : ExceptT Error (StateT σ Observed) α) w s log = ((.error e, s), log) := rfl

theorem execT_get (w : World) (s : σ) (log : List Access) :
    execT (get : ExceptT Error (StateT σ Observed) σ) w s log = ((.ok s, s), log) := rfl

theorem execT_set (s' : σ) (w : World) (s : σ) (log : List Access) :
    execT (set s' : ExceptT Error (StateT σ Observed) PUnit) w s log = ((.ok ⟨⟩, s'), log) := rfl

theorem execT_modify (f : σ → σ) (w : World) (s : σ) (log : List Access) :
    execT (modify f : ExceptT Error (StateT σ Observed) PUnit) w s log = ((.ok ⟨⟩, f s), log) :=
  rfl

theorem execT_lift (x : Observed α) (w : World) (s : σ) (log : List Access) :
    execT (monadLift x : ExceptT Error (StateT σ Observed) α) w s log =
      ((.ok (exec x w log).1, s), (exec x w log).2) := rfl

/-! ### Runs that only look at files -/

/-- A run that only looks at files: every access it makes asks what a path names or reads a
file. -/
def OnlyFiles (x : Observed α) : Prop :=
  ∀ w log, ∃ new, (exec x w log).2 = log ++ new ∧ ∀ a ∈ new, a.looksAtFile

/-- A stateful read that only looks at files, from every state. -/
def OnlyFilesT (x : ExceptT Error (StateT σ Observed) α) : Prop :=
  ∀ w s log, ∃ new, (execT x w s log).2 = log ++ new ∧ ∀ a ∈ new, a.looksAtFile

namespace OnlyFiles

theorem pure (a : α) : OnlyFiles (Pure.pure a : Observed α) :=
  fun _ log => ⟨[], (List.append_nil log).symm, fun _ none => by cases none⟩

theorem ask {access : Access} (looks : access.looksAtFile) (answer : World → List Access → α) :
    OnlyFiles (Observed.ask access answer) :=
  fun _ _ => ⟨[access], rfl, fun a member => by rw [List.mem_singleton.mp member]; exact looks⟩

theorem bind {x : Observed α} {f : α → Observed β} (first : OnlyFiles x)
    (next : ∀ a, OnlyFiles (f a)) : OnlyFiles (x >>= f) := by
  intro w log
  obtain ⟨new, made, looks⟩ := first w log
  obtain ⟨more, made', looks'⟩ := next (exec x w log).1 w (exec x w log).2
  refine ⟨new ++ more, ?_, ?_⟩
  · rw [exec_bind, made', made, List.append_assoc]
  · intro a member
    rcases List.mem_append.mp member with old | fresh
    · exact looks a old
    · exact looks' a fresh

end OnlyFiles

namespace OnlyFilesT

theorem pure (a : α) : OnlyFilesT (Pure.pure a : ExceptT Error (StateT σ Observed) α) :=
  fun _ _ log => ⟨[], (List.append_nil log).symm, fun _ none => by cases none⟩

theorem throw (e : Error) : OnlyFilesT (MonadExcept.throw e : ExceptT Error (StateT σ Observed) α) :=
  fun _ _ log => ⟨[], (List.append_nil log).symm, fun _ none => by cases none⟩

theorem get : OnlyFilesT (MonadState.get : ExceptT Error (StateT σ Observed) σ) :=
  fun _ _ log => ⟨[], (List.append_nil log).symm, fun _ none => by cases none⟩

theorem modify (f : σ → σ) :
    OnlyFilesT (MonadStateOf.modifyGet fun s => ((), f s) : ExceptT Error (StateT σ Observed) Unit) :=
  fun _ _ log => ⟨[], (List.append_nil log).symm, fun _ none => by cases none⟩

theorem set (s' : σ) : OnlyFilesT (MonadStateOf.set s' : ExceptT Error (StateT σ Observed) PUnit) :=
  fun _ _ log => ⟨[], (List.append_nil log).symm, fun _ none => by cases none⟩

theorem lift {x : Observed α} (files : OnlyFiles x) :
    OnlyFilesT (monadLift x : ExceptT Error (StateT σ Observed) α) :=
  fun w _ log => files w log

theorem bind {x : ExceptT Error (StateT σ Observed) α} {f : α → ExceptT Error (StateT σ Observed) β}
    (first : OnlyFilesT x) (next : ∀ a, OnlyFilesT (f a)) : OnlyFilesT (x >>= f) := by
  intro w s log
  obtain ⟨new, made, looks⟩ := first w s log
  rw [execT_bind]
  generalize execT x w s log = ran at made ⊢
  obtain ⟨⟨result, s'⟩, log'⟩ := ran
  dsimp only at made
  subst made
  cases result with
  | error e => exact ⟨new, rfl, looks⟩
  | ok a =>
    obtain ⟨more, made', looks'⟩ := next a w s' (log ++ new)
    refine ⟨new ++ more, by rw [made', List.append_assoc], fun a member => ?_⟩
    rcases List.mem_append.mp member with old | fresh
    · exact looks a old
    · exact looks' a fresh

end OnlyFilesT

end Observed

open Observed

instance : DiskAccess Observed where
  readFile path := ask (.readFile path) fun w before => w.readFile before path
  kindOf path := ask (.kindOf path) fun w before => w.kindOf before path
  listDir path := ask (.listDir path) fun w before => w.listDir before path
  writeFile path bytes := ask (.writeFile path) fun w before => w.writeFile before path bytes

theorem readFile_onlyFiles (path : String) :
    OnlyFiles (DiskAccess.readFile path : Observed (Except IoError (List UInt8))) :=
  OnlyFiles.ask rfl _

theorem kindOf_onlyFiles (path : String) :
    OnlyFiles (DiskAccess.kindOf path : Observed (Option EntryKind)) :=
  OnlyFiles.ask rfl _

/-! ### Reads through a shard handle -/

namespace ShardHandle

theorem make_onlyFiles (n : Nat) (path : String) (useMmap : Bool) :
    OnlyFiles (make n path useMmap : Observed _) := by
  unfold make
  refine (kindOf_onlyFiles path).bind fun kind => ?_
  split
  · exact OnlyFiles.pure _
  · exact OnlyFiles.pure _

theorem contents?_onlyFiles : OnlyFilesT (contents? : ShardRead Observed _) := by
  unfold contents?
  refine OnlyFilesT.get.bind fun h => ?_
  split
  · exact OnlyFilesT.pure _
  · refine (OnlyFilesT.lift (readFile_onlyFiles h.path)).bind fun read => ?_
    split
    · exact (OnlyFilesT.set _).bind fun _ => OnlyFilesT.pure _
    · exact OnlyFilesT.throw _

theorem readAt_onlyFiles (start length : Nat) : OnlyFilesT (readAt start length : ShardRead Observed _) := by
  unfold readAt
  refine contents?_onlyFiles.bind fun bytes => ?_
  split
  · exact OnlyFilesT.pure _
  · exact OnlyFilesT.get.bind fun _ => OnlyFilesT.throw _

theorem headerAt_onlyFiles (offset : Nat) : OnlyFilesT (headerAt offset : ShardRead Observed _) := by
  unfold headerAt
  refine OnlyFilesT.get.bind fun h => ?_
  split
  · exact OnlyFilesT.pure _
  · refine (readAt_onlyFiles _ _).bind fun raw => ?_
    split
    · exact OnlyFilesT.throw _
    · exact (OnlyFilesT.modify _).bind fun _ => OnlyFilesT.pure _

theorem payloadStream_onlyFiles (payload : List UInt8) :
    OnlyFilesT (payloadStream payload : ShardRead Observed _) := by
  unfold payloadStream
  split
  · exact OnlyFilesT.pure _
  · exact OnlyFilesT.throw _

/-- Reading a block only looks at the shard file. -/
theorem block_onlyFiles (entry : IndexEntry) : OnlyFilesT (block entry : ShardRead Observed _) := by
  unfold block
  refine OnlyFilesT.get.bind fun h => ?_
  have rest : OnlyFilesT (do
      let header ← headerAt entry.offset
      let payload ← readAt (header.dataStart entry.offset) header.dataSize
      payloadStream payload : ShardRead Observed _) :=
    (headerAt_onlyFiles _).bind fun header => (readAt_onlyFiles _ _).bind fun payload =>
      payloadStream_onlyFiles payload
  dsimp only
  split
  · exact (OnlyFilesT.throw _).bind fun _ => rest
  · exact rest

end ShardHandle

/-! ### Loading the index -/

namespace IndexStore

theorem readAll_onlyFiles (maxShard : Nat) (files : List (Layout.IndexFileId × String))
    (merged : List IndexEntry) : OnlyFiles (readAll maxShard files merged : Observed _) := by
  induction files generalizing merged with
  | nil => exact OnlyFiles.pure _
  | cons file rest inductionHypothesis =>
    obtain ⟨id, path⟩ := file
    unfold readAll
    refine (readFile_onlyFiles path).bind fun read => ?_
    split
    · exact OnlyFiles.pure _
    · split
      · exact OnlyFiles.pure _
      · exact inductionHypothesis _

/-- Loading the index lists the data directory, and from then on only reads files. -/
theorem loadDir_accesses (dir : String) (maxShard : Nat) (w : World) (log : List Access) :
    ∃ new, (exec (loadDir dir maxShard) w log).2 = log ++ .listDir dir :: new ∧
      ∀ a ∈ new, a.looksAtFile := by
  have listing : exec (DiskAccess.listDir dir : Observed _) w log =
      (w.listDir log dir, log ++ [.listDir dir]) := rfl
  have after : ∀ x : Observed (Except Error IndexStore), OnlyFiles x →
      ∃ new, (exec x w (log ++ [.listDir dir])).2 = log ++ .listDir dir :: new ∧
        ∀ a ∈ new, a.looksAtFile := by
    intro x files
    obtain ⟨new, made, looks⟩ := files w (log ++ [.listDir dir])
    exact ⟨new, made.trans (by rw [List.append_assoc, List.singleton_append]), looks⟩
  unfold loadDir
  rw [exec_bind, listing]
  split
  · exact after _ (OnlyFiles.pure _)
  · exact after _ ((readAll_onlyFiles _ _ _).bind fun _ => by
      split
      · exact OnlyFiles.pure _
      · exact OnlyFiles.pure _)

end IndexStore

end AssetStore
