import Mathlib.Data.List.Sort
import AssetStore.Proofs.IndexStore
/-!
# The order of index paths

`Index.selectLatest` keeps, for each bucket, the highest version that a path names, with the
first path that names it, and puts the files in bucket order. This file shows what the choice
depends on. Its (bucket, version) ids are those of the latest version of each bucket named by
some path, so they do not depend on the order of the paths. The paths kept do: two different
paths may name the same version of a bucket (`0300000007.idx` and `0300000007.IDX` name bucket 3,
version 7), and then the first one given is read. When the latest version of each bucket is
named by one path only (`Index.UniqueLatest`), the choice, and so the whole building of the
index store, is the same for every order of the paths (`build_ignores_path_order`); without it,
building can succeed in one order and fail in another (`build_depends_on_alias_order`).

The fold that makes the choice keeps an invariant (`Index.Chosen`): one file per bucket, each the
latest version of its bucket among the paths seen and named by one of them, and a file for every
bucket a path seen names. Each path keeps it (`Index.Chosen.consider`).
-/

namespace AssetStore.Index

open Layout

/-- `id` is the latest version of its bucket among some paths: no path names a higher one. -/
def Latest (paths : List String) (id : IndexFileId) : Prop :=
  ∀ q ∈ paths, ∀ j, fileIdOf? q = some j → j.bucket = id.bucket → j.version ≤ id.version

/-- The latest version of each bucket is named by one path only. -/
def UniqueLatest (paths : List String) : Prop :=
  ∀ p ∈ paths, ∀ q ∈ paths, ∀ id, fileIdOf? p = some id → fileIdOf? q = some id →
    Latest paths id → p = q

theorem latest_perm {paths paths' : List String} (perm : paths.Perm paths') (id : IndexFileId) :
    Latest paths id ↔ Latest paths' id := by
  unfold Latest
  simp only [perm.mem_iff]

theorem uniqueLatest_perm {paths paths' : List String} (perm : paths.Perm paths') :
    UniqueLatest paths ↔ UniqueLatest paths' := by
  unfold UniqueLatest
  simp only [perm.mem_iff, latest_perm perm]

/-- A path added to those seen keeps a version latest when it names no higher one of its
bucket. -/
theorem Latest.append {seen : List String} {id : IndexFileId} (latest : Latest seen id)
    {path : String}
    (below : ∀ j, fileIdOf? path = some j → j.bucket = id.bucket → j.version ≤ id.version) :
    Latest (seen ++ [path]) id := by
  intro q member j named same
  rcases List.mem_append.mp member with old | new
  · exact latest q old j named same
  · rw [List.mem_singleton.mp new] at named
    exact below j named same

/-- Two ids of one bucket, each latest among paths that name them both, are the same. -/
theorem Latest.eq {seen : List String} {id id' : IndexFileId} (latest : Latest seen id)
    (latest' : Latest seen id') {p p' : String} (named : p ∈ seen ∧ fileIdOf? p = some id)
    (named' : p' ∈ seen ∧ fileIdOf? p' = some id') (same : id.bucket = id'.bucket) : id = id' := by
  have below := latest p' named'.1 id' named'.2 same.symm
  have above := latest' p named.1 id named.2 same
  obtain ⟨bucket, version⟩ := id
  obtain ⟨bucket', version'⟩ := id'
  simp only at same below above
  rw [same, UInt32.le_antisymm below above]

/-! ### The choice made so far -/

/-- What the choice after some paths holds: one file per bucket, each the latest version of its
bucket among the paths seen and named by one of them, and a file for every bucket that a path
seen names. -/
structure Chosen (seen : List String) (chosen : List (IndexFileId × String)) : Prop where
  buckets : (chosen.map (·.1.bucket)).Nodup
  named : ∀ x ∈ chosen, x.2 ∈ seen ∧ fileIdOf? x.2 = some x.1 ∧ Latest seen x.1
  covers : ∀ q ∈ seen, ∀ j, fileIdOf? q = some j → ∃ x ∈ chosen, x.1.bucket = j.bucket

theorem chosen_nil : Chosen [] [] :=
  ⟨List.nodup_nil, fun _ member => absurd member List.not_mem_nil,
    fun _ member => absurd member List.not_mem_nil⟩

namespace Chosen

variable {seen : List String} {chosen : List (IndexFileId × String)} {path : String}

theorem eq_of_bucket (inv : Chosen seen chosen) {x y : IndexFileId × String} (hx : x ∈ chosen)
    (hy : y ∈ chosen) (same : x.1.bucket = y.1.bucket) : x = y :=
  List.inj_on_of_nodup_map inv.buckets hx hy same

/-- A path that names no version above the file kept for its bucket changes nothing. -/
theorem skip (inv : Chosen seen chosen)
    (older : ∀ j, fileIdOf? path = some j → ∃ x ∈ chosen, x.1.bucket = j.bucket ∧ j.version ≤ x.1.version) :
    Chosen (seen ++ [path]) chosen := by
  refine ⟨inv.buckets, fun x member => ?_, fun q member j named => ?_⟩
  · obtain ⟨kept, idOf, latest⟩ := inv.named x member
    refine ⟨List.mem_append_left _ kept, idOf, latest.append fun j named same => ?_⟩
    obtain ⟨y, chosenY, bucketY, le⟩ := older j named
    rwa [inv.eq_of_bucket member chosenY (same.symm.trans bucketY.symm)]
  · rcases List.mem_append.mp member with old | new
    · exact inv.covers q old j named
    · rw [List.mem_singleton.mp new] at named
      obtain ⟨x, chosenX, bucketX, -⟩ := older j named
      exact ⟨x, chosenX, bucketX⟩

/-- A path that names a higher version than the file kept for its bucket takes its place. -/
theorem replace (inv : Chosen seen chosen) {id : IndexFileId} (named : fileIdOf? path = some id)
    {current : IndexFileId × String} (kept : current ∈ chosen) (same : current.1.bucket = id.bucket)
    (newer : current.1.version < id.version) :
    Chosen (seen ++ [path])
      (chosen.map fun entry => if entry.1.bucket == id.bucket then (id, path) else entry) := by
  have buckets : (chosen.map fun entry => if entry.1.bucket == id.bucket then (id, path) else entry).map
      (·.1.bucket) = chosen.map (·.1.bucket) :=
    map_replace_keys (fun entry : IndexFileId × String => entry.1.bucket) chosen rfl
  refine ⟨buckets ▸ inv.buckets, fun x member => ?_, fun q member j named' => ?_⟩
  · obtain ⟨entry, chosenEntry, rfl⟩ := List.mem_map.mp member
    obtain ⟨seenEntry, idOf, latest⟩ := inv.named entry chosenEntry
    by_cases hit : entry.1.bucket = id.bucket
    · -- the replaced file: above every version seen of its bucket, which is at most `current`'s
      simp only [hit, beq_self_eq_true, if_true]
      refine ⟨List.mem_append_right _ (List.mem_singleton_self _), named, fun q member' j named' bucket => ?_⟩
      rcases List.mem_append.mp member' with old | new
      · have := (inv.named current kept).2.2 q old j named' (bucket.trans same.symm)
        exact UInt32.le_of_lt (UInt32.lt_of_le_of_lt this newer)
      · rw [List.mem_singleton.mp new, named] at named'
        cases named'
        exact UInt32.le_refl _
    · simp only [beq_iff_eq, hit, if_false]
      refine ⟨List.mem_append_left _ seenEntry, idOf, latest.append fun j named' bucket => ?_⟩
      rw [named] at named'
      cases named'
      exact absurd bucket.symm hit
  · have present : ∀ y ∈ chosen, y.1.bucket = j.bucket →
        ∃ x ∈ chosen.map fun entry => if entry.1.bucket == id.bucket then (id, path) else entry,
          x.1.bucket = j.bucket := by
      intro y chosenY bucketY
      refine ⟨_, List.mem_map_of_mem chosenY, ?_⟩
      by_cases hit : y.1.bucket = id.bucket
      · simp only [hit, beq_self_eq_true, if_true]
        exact hit.symm.trans bucketY
      · simp only [beq_iff_eq, hit, if_false]
        exact bucketY
    rcases List.mem_append.mp member with old | new
    · obtain ⟨y, chosenY, bucketY⟩ := inv.covers q old j named'
      exact present y chosenY bucketY
    · rw [List.mem_singleton.mp new, named] at named'
      cases named'
      exact present current kept same

/-- A path that names a bucket without a file kept adds its file. -/
theorem add (inv : Chosen seen chosen) {id : IndexFileId} (named : fileIdOf? path = some id)
    (fresh : ∀ x ∈ chosen, x.1.bucket ≠ id.bucket) : Chosen (seen ++ [path]) (chosen ++ [(id, path)]) := by
  refine ⟨?_, fun x member => ?_, fun q member j named' => ?_⟩
  · exact nodup_map_append (fun x : IndexFileId × String => x.1.bucket) inv.buckets fresh
  · rcases List.mem_append.mp member with old | new
    · obtain ⟨seenX, idOf, latest⟩ := inv.named x old
      refine ⟨List.mem_append_left _ seenX, idOf, latest.append fun j named' bucket => ?_⟩
      rw [named] at named'
      cases named'
      exact absurd bucket.symm (fresh x old)
    · rw [List.mem_singleton.mp new]
      refine ⟨List.mem_append_right _ (List.mem_singleton_self _), named, fun q member' j named' bucket => ?_⟩
      rcases List.mem_append.mp member' with old | new'
      · obtain ⟨y, chosenY, bucketY⟩ := inv.covers q old j named'
        exact absurd (bucketY.trans bucket) (fresh y chosenY)
      · rw [List.mem_singleton.mp new', named] at named'
        cases named'
        exact UInt32.le_refl _
  · rcases List.mem_append.mp member with old | new
    · obtain ⟨y, chosenY, bucketY⟩ := inv.covers q old j named'
      exact ⟨y, List.mem_append_left _ chosenY, bucketY⟩
    · rw [List.mem_singleton.mp new, named] at named'
      cases named'
      exact ⟨(id, path), List.mem_append_right _ (List.mem_singleton_self _), rfl⟩

/-- Each path considered keeps the invariant. -/
theorem consider (inv : Chosen seen chosen) (path : String) :
    Chosen (seen ++ [path]) (considerLatest chosen path) := by
  unfold considerLatest
  cases named : fileIdOf? path with
  | none => exact inv.skip fun j named' => by rw [named] at named'; cases named'
  | some id =>
    dsimp only
    cases found : chosen.find? (fun entry => entry.1.bucket == id.bucket) with
    | some current =>
      have kept := List.mem_of_find?_eq_some found
      have same : current.1.bucket = id.bucket := by simpa using List.find?_some found
      dsimp only
      split
      · next older =>
        exact inv.skip fun j named' => by
          rw [named] at named'
          cases named'
          exact ⟨current, kept, same, older⟩
      · next newer => exact inv.replace named kept same (UInt32.not_le.mp newer)
    | none =>
      refine inv.add named fun x member same => ?_
      have := List.find?_eq_none.mp found x member
      simp [same] at this

end Chosen

theorem chosen_foldl (seen rest : List String) {chosen : List (IndexFileId × String)}
    (inv : Chosen seen chosen) : Chosen (seen ++ rest) (rest.foldl considerLatest chosen) := by
  induction rest generalizing seen chosen with
  | nil => simpa using inv
  | cons path rest inductionHypothesis =>
    rw [List.foldl_cons, ← List.singleton_append, ← List.append_assoc]
    exact inductionHypothesis _ (inv.consider path)

theorem chosen_paths (paths : List String) : Chosen paths (paths.foldl considerLatest []) := by
  simpa using chosen_foldl [] paths chosen_nil

/-! ### What the choice holds -/

namespace Chosen

variable {seen : List String} {chosen : List (IndexFileId × String)}

/-- The ids chosen are the latest versions of the buckets the paths name. -/
theorem mem_ids (inv : Chosen seen chosen) (id : IndexFileId) :
    id ∈ chosen.map (·.1) ↔ (∃ p ∈ seen, fileIdOf? p = some id) ∧ Latest seen id := by
  constructor
  · intro member
    obtain ⟨x, chosenX, rfl⟩ := List.mem_map.mp member
    obtain ⟨seenX, idOf, latest⟩ := inv.named x chosenX
    exact ⟨⟨x.2, seenX, idOf⟩, latest⟩
  · rintro ⟨⟨p, seenP, idOf⟩, latest⟩
    obtain ⟨x, chosenX, bucket⟩ := inv.covers p seenP id idOf
    obtain ⟨seenX, idOfX, latestX⟩ := inv.named x chosenX
    have same := Latest.eq latestX latest ⟨seenX, idOfX⟩ ⟨seenP, idOf⟩ bucket
    exact List.mem_map.mpr ⟨x, chosenX, same⟩

/-- When the latest version of each bucket is named by one path only, the files chosen are
exactly the latest versions with the paths that name them. -/
theorem mem_iff (inv : Chosen seen chosen) (unique : UniqueLatest seen) (x : IndexFileId × String) :
    x ∈ chosen ↔ x.2 ∈ seen ∧ fileIdOf? x.2 = some x.1 ∧ Latest seen x.1 := by
  refine ⟨inv.named x, fun ⟨seenX, idOf, latest⟩ => ?_⟩
  obtain ⟨y, chosenY, idY⟩ := List.mem_map.mp ((inv.mem_ids x.1).mpr ⟨⟨x.2, seenX, idOf⟩, latest⟩)
  obtain ⟨seenY, idOfY, -⟩ := inv.named y chosenY
  have path := unique y.2 seenY x.2 seenX x.1 (idY ▸ idOfY) idOf latest
  rw [← Prod.ext idY path]
  exact chosenY

end Chosen

/-! ### Sorting by bucket -/

/-- Lists with the same members and distinct keys sort by key to the same list. -/
theorem mergeSort_eq_of_mem_iff {α : Type} (key : α → UInt8) {l₁ l₂ : List α}
    (distinct₁ : (l₁.map key).Nodup) (distinct₂ : (l₂.map key).Nodup)
    (same : ∀ x, x ∈ l₁ ↔ x ∈ l₂) :
    l₁.mergeSort (fun x y => key x ≤ key y) = l₂.mergeSort (fun x y => key x ≤ key y) := by
  have perm : l₁.Perm l₂ :=
    (List.perm_ext_iff_of_nodup distinct₁.of_map distinct₂.of_map).mpr same
  have sorted : ∀ l : List α, (l.mergeSort fun x y => key x ≤ key y).Pairwise
      (fun x y => decide (key x ≤ key y) = true) :=
    List.pairwise_mergeSort (fun a b c ab bc => by simp only [decide_eq_true_eq] at *; exact UInt8.le_trans ab bc)
      (fun a b => by simpa using UInt8.le_total (key a) (key b))
  refine List.Perm.eq_of_pairwise (fun a b memberA memberB ab ba => ?_) (sorted l₁) (sorted l₂)
    (((List.mergeSort_perm l₁ _).trans perm).trans (List.mergeSort_perm l₂ _).symm)
  simp only [decide_eq_true_eq] at ab ba
  exact List.inj_on_of_nodup_map distinct₁ ((List.mergeSort_perm l₁ _).mem_iff.mp memberA)
    ((same b).mpr ((List.mergeSort_perm l₂ _).mem_iff.mp memberB)) (UInt8.le_antisymm ab ba)

/-- The ids chosen do not depend on the order of the paths. -/
theorem selectLatest_ids_perm {paths paths' : List String} (perm : paths.Perm paths') :
    (selectLatest paths').map (·.1) = (selectLatest paths).map (·.1) := by
  have inv := chosen_paths paths
  have inv' := chosen_paths paths'
  unfold selectLatest
  have sortIds : ∀ chosen : List (IndexFileId × String),
      (chosen.mergeSort fun x y => decide (x.1.bucket ≤ y.1.bucket)).map (·.1) =
        (chosen.map (·.1)).mergeSort fun x y => decide (x.bucket ≤ y.bucket) :=
    fun _ => List.map_mergeSort fun _ _ _ _ => rfl
  rw [sortIds, sortIds]
  refine mergeSort_eq_of_mem_iff IndexFileId.bucket (by rw [List.map_map]; exact inv'.buckets)
    (by rw [List.map_map]; exact inv.buckets) fun id => ?_
  rw [inv'.mem_ids, inv.mem_ids, latest_perm perm]
  simp only [perm.mem_iff]

/-- When the latest version of each bucket is named by one path only, the choice does not depend
on the order of the paths. -/
theorem selectLatest_perm {paths paths' : List String} (perm : paths.Perm paths')
    (unique : UniqueLatest paths) : selectLatest paths' = selectLatest paths := by
  have inv := chosen_paths paths
  have inv' := chosen_paths paths'
  unfold selectLatest
  refine mergeSort_eq_of_mem_iff (fun x : IndexFileId × String => x.1.bucket) inv'.buckets inv.buckets fun x => ?_
  rw [inv'.mem_iff ((uniqueLatest_perm perm).mp unique), inv.mem_iff unique, latest_perm perm]
  simp only [perm.mem_iff]

end AssetStore.Index

namespace AssetStore.IndexStore

/-- Building the index store from paths in another order. The (bucket, version) ids of the files
chosen are always the same. When the latest version of each bucket is named by one path only,
building is the same computation, in any monad and so over any file system: it reads the same
files in the same order, fails with the same error or gives the same store, with the same files
and the same entry for every key. Loading a directory builds from its listing, so then the order
in which the directory is listed does not matter either. -/
theorem build_ignores_path_order (paths paths' : List String) (perm : paths.Perm paths') :
    (Index.selectLatest paths').map (·.1) = (Index.selectLatest paths).map (·.1) ∧
    (Index.UniqueLatest paths → ∀ (m : Type → Type) [Monad m] [DiskAccess m] (maxShard : Nat),
      (build paths' maxShard : m _) = build paths maxShard) := by
  refine ⟨Index.selectLatest_ids_perm perm, fun unique m _ _ maxShard => ?_⟩
  unfold build
  rw [Index.selectLatest_perm perm unique]

/-- Two paths of different buckets, each the only one naming its latest version, in both
orders. -/
theorem build_ignores_path_order_swapped :
    ["idx/0300000007.idx", "idx/0400000002.idx"].Perm ["idx/0400000002.idx", "idx/0300000007.idx"] ∧
      Index.UniqueLatest ["idx/0300000007.idx", "idx/0400000002.idx"] ∧
      (Index.selectLatest ["idx/0400000002.idx", "idx/0300000007.idx"]).map (·.1) =
          (Index.selectLatest ["idx/0300000007.idx", "idx/0400000002.idx"]).map (·.1) ∧
      ∀ (m : Type → Type) [Monad m] [DiskAccess m] (maxShard : Nat),
        (build ["idx/0400000002.idx", "idx/0300000007.idx"] maxShard : m _) =
          build ["idx/0300000007.idx", "idx/0400000002.idx"] maxShard := by
  have perm : ["idx/0300000007.idx", "idx/0400000002.idx"].Perm
      ["idx/0400000002.idx", "idx/0300000007.idx"] := by
    decide
  have named : Index.fileIdOf? "idx/0300000007.idx" = some ⟨3, 7⟩ ∧
      Index.fileIdOf? "idx/0400000002.idx" = some ⟨4, 2⟩ := by
    decide +kernel
  have unique : Index.UniqueLatest ["idx/0300000007.idx", "idx/0400000002.idx"] := by
    intro p hp q hq id hpId hqId _
    simp only [List.mem_cons, List.not_mem_nil, or_false] at hp hq
    rcases hp with rfl | rfl <;> rcases hq with rfl | rfl
    · rfl
    · rw [named.1] at hpId
      rw [named.2, ← hpId] at hqId
      cases hqId
    · rw [named.2] at hpId
      rw [named.1, ← hpId] at hqId
      cases hqId
    · rfl
  have ordered := build_ignores_path_order _ _ perm
  exact ⟨perm, unique, ordered.1, ordered.2 unique⟩

/-- An index file of version 7 with 9-byte keys and an empty entry block. -/
def emptyIndexFile : List UInt8 :=
  [0x10, 0, 0, 0, 0, 0, 0, 0, 7, 0, 3, 0, 4, 5, 9, 0x1E, 0, 0, 0, 0x40, 0, 0, 0, 0,
    0, 0, 0, 0, 0, 0, 0, 0, 0, 0, 0, 0, 0, 0, 0, 0]

/-- Files in which `idx/0300000007.idx` is an index file without entries and every other path
is an empty file, among them `idx/0300000007.IDX`, which names the same bucket and version. -/
def aliasFiles (path : String) : Except IoError (List UInt8) :=
  if path = "idx/0300000007.idx" then .ok emptyIndexFile else .ok []

/-- Order matters when two paths name the latest version of a bucket: the first given is read,
so the same two paths build a store in one order and fail in the other. -/
theorem build_depends_on_alias_order :
    (((build ["idx/0300000007.idx", "idx/0300000007.IDX"] 32 : Recorder _).run aliasFiles).run []).1 =
        .ok ⟨[(⟨3, 7⟩, "idx/0300000007.idx")], []⟩ ∧
      (((build ["idx/0300000007.IDX", "idx/0300000007.idx"] 32 : Recorder _).run aliasFiles).run []).1 =
        .error (.truncated .index "idx/0300000007.IDX: ") := by
  constructor <;> decide +kernel

end AssetStore.IndexStore
