import AssetStore.Proofs.LazyTables
/-!
# The lookup chain

A filename hash is located in three stages: the root table gives its content checksums in file
order, the encoding table gives the first file key of each, and the index gives the place of that
key (`placeOf`). This file says what `locate` answers in terms of the checksums alone
(`locate_eq`): the place of the first checksum, in root file order, that passes all three stages.
When none does, the miss is reported at `root` for a hash with no checksums, at `index` when some
checksum had a file key, and at `encoding` otherwise (`missedAt`). Only the first file key of an
encoding record is ever looked up, whatever keys follow it.

Opened storage answers a location from the tables it has published, without touching anything
(`Storage.locate_published`), and a miss keeps its stage when the resolution is mapped or turned
into an error.

The main statement is `locate_follows_chain`.
-/

namespace AssetStore

/-- The place of a content checksum's file: its first file key, looked up in the index. -/
def placeOf (encoding : EncodingTable) (index : IndexStore) (checksum : Key) : Option IndexEntry :=
  (encoding.fileKey? checksum).bind index.lookup

/-- The stage a miss among some checksums is reported at: `root` when there are none, `index`
when one of them has a file key, and `encoding` otherwise. -/
def missedAt (encoding : EncodingTable) (checksums : List Key) : Stage :=
  if checksums = [] then .root
  else if ∃ c ∈ checksums, (encoding.fileKey? c).isSome then .index
  else .encoding

/-- A checksum's place is where its first file key is, whatever keys follow. -/
theorem placeOf_first_key {encoding : EncodingTable} (index : IndexStore) {checksum : Key}
    {record : EncodingEntry} {first : Key} {others : List Key}
    (recorded : encoding.entry? checksum = some record) (keys : record.fileKeys = first :: others) :
    placeOf encoding index checksum = index.lookup first := by
  simp [placeOf, EncodingTable.fileKey?, recorded, keys]

/-! ### The candidates in order -/

/-- Trying checksums in order finds the place of the first that has one; a miss is reported at
`index` when some checksum tried had a file key, and otherwise at the stage reached before. -/
theorem locateAmong_eq (encoding : EncodingTable) (index : IndexStore) (checksums : List Key)
    (furthest : Stage) :
    locateAmong encoding index checksums furthest =
      match checksums.findSome? (placeOf encoding index) with
      | some entry => .found entry
      | none =>
        .missingAt (if ∃ c ∈ checksums, (encoding.fileKey? c).isSome then .index else furthest) := by
  induction checksums generalizing furthest with
  | nil => simp [locateAmong]
  | cons checksum rest inductionHypothesis =>
    cases keyed : encoding.fileKey? checksum with
    | none => simp [locateAmong, keyed, placeOf, inductionHypothesis]
    | some fileKey =>
      cases placed : index.lookup fileKey with
      | some entry => simp [locateAmong, keyed, placed, placeOf]
      | none => simp [locateAmong, keyed, placed, inductionHypothesis, placeOf]

theorem locate_eq (root : RootTable) (encoding : EncodingTable) (index : IndexStore)
    (nameHash : UInt64) :
    locate root encoding index nameHash =
      match (root.checksumsFor nameHash).findSome? (placeOf encoding index) with
      | some entry => .found entry
      | none => .missingAt (missedAt encoding (root.checksumsFor nameHash)) := by
  unfold locate missedAt
  split
  · next empty => rw [empty]; rfl
  · next checksums filled => rw [locateAmong_eq, if_neg filled]

/-- A location is found exactly at the first checksum, in file order, whose first file key the
index holds. -/
theorem locate_eq_found {root : RootTable} {encoding : EncodingTable} {index : IndexStore}
    {nameHash : UInt64} {entry : IndexEntry} :
    locate root encoding index nameHash = .found entry ↔
      ∃ earlier checksum later, root.checksumsFor nameHash = earlier ++ checksum :: later ∧
        placeOf encoding index checksum = some entry ∧
        ∀ c ∈ earlier, placeOf encoding index c = none := by
  rw [locate_eq, ← List.findSome?_eq_some_iff]
  cases (root.checksumsFor nameHash).findSome? (placeOf encoding index) <;> simp

/-- A miss is reported when no checksum has a place, at the stage `missedAt` gives. -/
theorem locate_eq_missingAt {root : RootTable} {encoding : EncodingTable} {index : IndexStore}
    {nameHash : UInt64} {stage : Stage} :
    locate root encoding index nameHash = .missingAt stage ↔
      (∀ c ∈ root.checksumsFor nameHash, placeOf encoding index c = none) ∧
        missedAt encoding (root.checksumsFor nameHash) = stage := by
  rw [locate_eq, ← List.findSome?_eq_none_iff]
  cases (root.checksumsFor nameHash).findSome? (placeOf encoding index) <;> simp

theorem placeOf_of_fileKey?_eq_none {encoding : EncodingTable} (index : IndexStore) {checksum : Key}
    (unkeyed : encoding.fileKey? checksum = none) : placeOf encoding index checksum = none := by
  simp [placeOf, unkeyed]

theorem missedAt_eq_root {encoding : EncodingTable} {checksums : List Key} :
    missedAt encoding checksums = .root ↔ checksums = [] := by
  unfold missedAt
  split_ifs <;> simp_all

theorem missedAt_eq_encoding {encoding : EncodingTable} {checksums : List Key} :
    missedAt encoding checksums = .encoding ↔
      checksums ≠ [] ∧ ∀ c ∈ checksums, encoding.fileKey? c = none := by
  unfold missedAt
  split_ifs with empty keyed
  · simp [empty]
  · obtain ⟨c, member, some⟩ := keyed
    simp only [false_iff, not_and, not_forall]
    exact fun _ => ⟨c, member, Option.isSome_iff_ne_none.mp some⟩
  · simp_all

theorem missedAt_eq_index {encoding : EncodingTable} {checksums : List Key} :
    missedAt encoding checksums = .index ↔ ∃ c ∈ checksums, (encoding.fileKey? c).isSome := by
  unfold missedAt
  split_ifs <;> simp_all

/-! ### Resolutions -/

namespace Resolution

variable {α β : Type}

theorem map_eq_missingAt (f : α → β) (r : Resolution α) (stage : Stage) :
    r.map f = .missingAt stage ↔ r = .missingAt stage := by
  cases r <;> simp [map]

theorem toExcept_eq_entryNotFound (key : String) (r : Resolution α) (stage : Stage) :
    r.toExcept key = .error (.entryNotFound stage key) ↔ r = .missingAt stage := by
  cases r <;> simp [toExcept]

end Resolution

/-! ### Opened storage -/

/-- Storage whose three tables are published answers a location from them, with no access and
no change. -/
theorem Storage.locate_published {root : RootTable} {encoding : EncodingTable} {index : IndexStore}
    {s : Storage Observed} (rooted : s.rootCell = .parsed root)
    (encoded : s.encodingCell = .parsed encoding) (indexed : s.indexCell = .parsed index)
    (nameHash : UInt64) (w : World) (log : List Access) :
    Observed.execT (Storage.locate nameHash) w s log =
      ((.ok (AssetStore.locate root encoding index nameHash), s), log) := by
  unfold Storage.locate Storage.root Storage.encoding Storage.index
  rw [Observed.execT_bind, execT_cached (fun _ => rfl), rooted]
  dsimp only
  rw [Observed.execT_bind, execT_cached (fun _ => rfl), encoded]
  dsimp only
  rw [Observed.execT_bind, execT_cached (fun _ => rfl), indexed]
  rfl

/-- The staged lookup of a filename hash. With `checksums` its content checksums in root file
order, the location found is the place of the first checksum whose first file key the index
holds; when there is none, the miss is at `root` exactly when there are no checksums, at
`encoding` exactly when none of them has a file key, and at `index` exactly when some has one.
A checksum's place is the index entry of the first key of its encoding record, whatever keys
follow. Opened storage with the three tables published answers this location without touching
anything, and mapping the resolution or turning it into an error keeps the stage of a miss. -/
theorem locate_follows_chain (root : RootTable) (encoding : EncodingTable) (index : IndexStore)
    (nameHash : UInt64) :
    (∀ entry, locate root encoding index nameHash = .found entry ↔
      ∃ earlier checksum later, root.checksumsFor nameHash = earlier ++ checksum :: later ∧
        placeOf encoding index checksum = some entry ∧
        ∀ c ∈ earlier, placeOf encoding index c = none) ∧
    (locate root encoding index nameHash = .missingAt .root ↔ root.checksumsFor nameHash = []) ∧
    (locate root encoding index nameHash = .missingAt .encoding ↔
      root.checksumsFor nameHash ≠ [] ∧
        ∀ c ∈ root.checksumsFor nameHash, encoding.fileKey? c = none) ∧
    (locate root encoding index nameHash = .missingAt .index ↔
      (∃ c ∈ root.checksumsFor nameHash, (encoding.fileKey? c).isSome) ∧
        ∀ c ∈ root.checksumsFor nameHash, placeOf encoding index c = none) ∧
    (∀ checksum record first others, encoding.entry? checksum = some record →
      record.fileKeys = first :: others → placeOf encoding index checksum = index.lookup first) ∧
    (∀ (s : Storage Observed) w log, s.rootCell = .parsed root →
      s.encodingCell = .parsed encoding → s.indexCell = .parsed index →
      Observed.execT (Storage.locate nameHash) w s log =
        ((.ok (locate root encoding index nameHash), s), log)) ∧
    (∀ (β : Type) (f : IndexEntry → β) stage,
      (locate root encoding index nameHash).map f = .missingAt stage ↔
        locate root encoding index nameHash = .missingAt stage) ∧
    (∀ key stage, (locate root encoding index nameHash).toExcept key =
        .error (.entryNotFound stage key) ↔
      locate root encoding index nameHash = .missingAt stage) := by
  refine ⟨fun _ => locate_eq_found, ?_, ?_, ?_,
    fun _ _ _ _ recorded keys => placeOf_first_key index recorded keys,
    fun s w log rooted encoded indexed => Storage.locate_published rooted encoded indexed nameHash w log,
    fun _ f stage => Resolution.map_eq_missingAt f _ stage,
    fun key stage => Resolution.toExcept_eq_entryNotFound key _ stage⟩
  · rw [locate_eq_missingAt, missedAt_eq_root]
    constructor
    · exact fun ⟨_, empty⟩ => empty
    · intro empty
      exact ⟨fun c member => (by rw [empty] at member; cases member), empty⟩
  · rw [locate_eq_missingAt, missedAt_eq_encoding]
    constructor
    · exact fun ⟨_, missed⟩ => missed
    · intro missed
      exact ⟨fun c member => placeOf_of_fileKey?_eq_none index (missed.2 c member), missed⟩
  · rw [locate_eq_missingAt, missedAt_eq_index]
    exact And.comm

end AssetStore
