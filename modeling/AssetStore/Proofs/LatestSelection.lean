import AssetStore.Proofs.IndexOrder
/-!
# What the choice of index files is

`Index.selectLatest` is described here without its fold: it holds one file for each bucket that
some path names, in strictly ascending bucket order, and the file of a bucket is its latest
version with the first path, in the order given, that names that version
(`selectLatest_chooses_first_latest`). Paths whose file name is no index file name play no part.

Beside `Index.Chosen`, the fold keeps that each path it holds is the first among the paths seen
to name its file (`Index.FirstNamed`): a path only enters the choice with a version that no path
before it names.
-/

namespace AssetStore.Index

open Layout

/-- The first of some paths whose file name denotes index file `id`. -/
def firstNaming (paths : List String) (id : IndexFileId) : Option String :=
  paths.find? fun q => fileIdOf? q == some id

theorem firstNaming_named {paths : List String} {id : IndexFileId} {p : String}
    (first : firstNaming paths id = some p) : p ∈ paths ∧ fileIdOf? p = some id := by
  unfold firstNaming at first
  exact ⟨List.mem_of_find?_eq_some first, by simpa using List.find?_some first⟩

/-- A path added after the others leaves the first path naming a file as it was. -/
theorem firstNaming_append_of_some {seen : List String} {id : IndexFileId} {p : String}
    (first : firstNaming seen id = some p) (path : String) :
    firstNaming (seen ++ [path]) id = some p := by
  unfold firstNaming at first ⊢
  rw [List.find?_append, first]
  rfl

/-- A path that names a file no path before it names is the first to name it. -/
theorem firstNaming_append_new {seen : List String} {id : IndexFileId} {path : String}
    (unnamed : ∀ q ∈ seen, fileIdOf? q ≠ some id) (named : fileIdOf? path = some id) :
    firstNaming (seen ++ [path]) id = some path := by
  have none : firstNaming seen id = none :=
    List.find?_eq_none.mpr fun q member => by simpa using unnamed q member
  unfold firstNaming at none ⊢
  rw [List.find?_append, none]
  simp [named]

/-- Each path held is the first of the paths seen to name its file. -/
def FirstNamed (seen : List String) (chosen : List (IndexFileId × String)) : Prop :=
  ∀ x ∈ chosen, firstNaming seen x.1 = some x.2

namespace FirstNamed

variable {seen : List String} {chosen : List (IndexFileId × String)}

theorem append (first : FirstNamed seen chosen) (path : String) :
    FirstNamed (seen ++ [path]) chosen :=
  fun x member => firstNaming_append_of_some (first x member) path

/-- Each path considered keeps the paths held first: a path enters only with a version above
every version of its bucket seen so far, or for a bucket no path seen names, and in both cases
no path before it names its file. -/
theorem consider (inv : Chosen seen chosen) (first : FirstNamed seen chosen) (path : String) :
    FirstNamed (seen ++ [path]) (considerLatest chosen path) := by
  unfold considerLatest
  cases named : fileIdOf? path with
  | none => exact first.append path
  | some id =>
    dsimp only
    cases found : chosen.find? (fun entry => entry.1.bucket == id.bucket) with
    | some current =>
      have kept := List.mem_of_find?_eq_some found
      have same : current.1.bucket = id.bucket := by simpa using List.find?_some found
      dsimp only
      split
      · exact first.append path
      · next newer =>
        have unnamed : ∀ q ∈ seen, fileIdOf? q ≠ some id := fun q member named' =>
          newer ((inv.named current kept).2.2 q member id named' same.symm)
        intro x member
        obtain ⟨entry, held, rfl⟩ := List.mem_map.mp member
        by_cases hit : entry.1.bucket = id.bucket
        · simp only [hit, beq_self_eq_true, if_true]
          exact firstNaming_append_new unnamed named
        · simp only [beq_iff_eq, hit, if_false]
          exact firstNaming_append_of_some (first entry held) path
    | none =>
      have unnamed : ∀ q ∈ seen, fileIdOf? q ≠ some id := fun q member named' => by
        obtain ⟨y, held, bucket⟩ := inv.covers q member id named'
        have := List.find?_eq_none.mp found y held
        simp [bucket] at this
      intro x member
      rcases List.mem_append.mp member with old | new
      · exact firstNaming_append_of_some (first x old) path
      · rw [List.mem_singleton.mp new]
        exact firstNaming_append_new unnamed named

end FirstNamed

theorem firstNamed_foldl (seen rest : List String) {chosen : List (IndexFileId × String)}
    (inv : Chosen seen chosen) (first : FirstNamed seen chosen) :
    FirstNamed (seen ++ rest) (rest.foldl considerLatest chosen) := by
  induction rest generalizing seen chosen with
  | nil => simpa using first
  | cons path rest inductionHypothesis =>
    rw [List.foldl_cons, ← List.singleton_append, ← List.append_assoc]
    exact inductionHypothesis _ (inv.consider path) (first.consider inv path)

theorem firstNamed_paths (paths : List String) :
    FirstNamed paths (paths.foldl considerLatest []) := by
  simpa using firstNamed_foldl [] paths chosen_nil fun _ member => absurd member List.not_mem_nil

/-! ### The choice, sorted -/

theorem mem_selectLatest {paths : List String} {x : IndexFileId × String} :
    x ∈ selectLatest paths ↔ x ∈ paths.foldl considerLatest [] :=
  (List.mergeSort_perm _ _).mem_iff

/-- A file is chosen exactly when its version is the latest of its bucket and its path is the
first to name it. -/
theorem mem_selectLatest_iff (paths : List String) (x : IndexFileId × String) :
    x ∈ selectLatest paths ↔ Latest paths x.1 ∧ firstNaming paths x.1 = some x.2 := by
  have inv := chosen_paths paths
  have first := firstNamed_paths paths
  rw [mem_selectLatest]
  constructor
  · intro held
    exact ⟨(inv.named x held).2.2, first x held⟩
  · rintro ⟨latest, named⟩
    obtain ⟨seenX, idOf⟩ := firstNaming_named named
    obtain ⟨y, held, same⟩ := List.mem_map.mp ((inv.mem_ids x.1).mpr ⟨⟨x.2, seenX, idOf⟩, latest⟩)
    have path : y.2 = x.2 := by
      have := first y held
      rw [same, named] at this
      exact (Option.some.inj this).symm
    rwa [← Prod.ext same path]

/-- A file is chosen for exactly the buckets that the paths name. -/
theorem bucket_mem_selectLatest (paths : List String) (bucket : UInt8) :
    (∃ x ∈ selectLatest paths, x.1.bucket = bucket) ↔
      ∃ p ∈ paths, ∃ id, fileIdOf? p = some id ∧ id.bucket = bucket := by
  have inv := chosen_paths paths
  simp only [mem_selectLatest]
  constructor
  · rintro ⟨x, held, rfl⟩
    obtain ⟨seenX, idOf, -⟩ := inv.named x held
    exact ⟨x.2, seenX, x.1, idOf, rfl⟩
  · rintro ⟨p, seenP, id, idOf, rfl⟩
    exact inv.covers p seenP id idOf

/-- The files chosen come in strictly ascending bucket order: sorted by bucket, one per bucket. -/
theorem selectLatest_buckets_ascending (paths : List String) :
    ((selectLatest paths).map (·.1.bucket)).Pairwise (· < ·) := by
  have distinct : ((selectLatest paths).map (·.1.bucket)).Nodup :=
    ((List.mergeSort_perm _ _).map _).nodup_iff.mpr (chosen_paths paths).buckets
  have sorted : ((selectLatest paths).map (·.1.bucket)).Pairwise (· ≤ ·) := by
    rw [List.pairwise_map]
    refine (List.pairwise_mergeSort (fun a b c ab bc => ?_) (fun a b => ?_) _).imp ?_
    · simp only [decide_eq_true_eq] at *
      exact UInt8.le_trans ab bc
    · simpa using UInt8.le_total a.1.bucket b.1.bucket
    · intro a b ab
      simpa using ab
  exact (sorted.and distinct).imp fun ⟨le, ne⟩ => UInt8.lt_of_le_of_ne le ne

theorem considerLatest_unnamed (chosen : List (IndexFileId × String)) {path : String}
    (unnamed : fileIdOf? path = none) : considerLatest chosen path = chosen := by
  rw [considerLatest, unnamed]

theorem foldl_considerLatest_filter (paths : List String) (chosen : List (IndexFileId × String)) :
    (paths.filter fun p => (fileIdOf? p).isSome).foldl considerLatest chosen =
      paths.foldl considerLatest chosen := by
  induction paths generalizing chosen with
  | nil => rfl
  | cons path paths inductionHypothesis =>
    cases named : fileIdOf? path with
    | none =>
      rw [List.filter_cons_of_neg (by simp [named]), inductionHypothesis, List.foldl_cons,
        considerLatest_unnamed chosen named]
    | some id =>
      rw [List.filter_cons_of_pos (by simp [named]), List.foldl_cons, List.foldl_cons,
        inductionHypothesis]

/-- The choice of index files. It holds a file for exactly the buckets that the paths name, in
strictly ascending bucket order; the file of a bucket is its latest version, named by the first
path, in the order given, that names that version. Paths whose file name is missing or is no
index file name play no part. So the ids chosen, though not always the paths, are the same for
every order of the paths. -/
theorem selectLatest_chooses_first_latest (paths : List String) :
    ((selectLatest paths).map (·.1.bucket)).Pairwise (· < ·) ∧
    (∀ bucket, (∃ x ∈ selectLatest paths, x.1.bucket = bucket) ↔
      ∃ p ∈ paths, ∃ id, fileIdOf? p = some id ∧ id.bucket = bucket) ∧
    (∀ x, x ∈ selectLatest paths ↔ Latest paths x.1 ∧ firstNaming paths x.1 = some x.2) ∧
    selectLatest (paths.filter fun p => (fileIdOf? p).isSome) = selectLatest paths ∧
    (∀ paths', paths.Perm paths' → (selectLatest paths').map (·.1) = (selectLatest paths).map (·.1)) ∧
    ∃ aliases aliases' : List String, aliases.Perm aliases' ∧
      (selectLatest aliases').map (·.1) = (selectLatest aliases).map (·.1) ∧
      selectLatest aliases' ≠ selectLatest aliases := by
  refine ⟨selectLatest_buckets_ascending paths, bucket_mem_selectLatest paths,
    mem_selectLatest_iff paths, ?_, fun paths' perm => selectLatest_ids_perm perm, ?_⟩
  · unfold selectLatest
    rw [foldl_considerLatest_filter]
  · -- two spellings of one index file name: the first one given is kept
    exact ⟨["idx/0300000007.idx", "idx/0300000007.IDX"], ["idx/0300000007.IDX", "idx/0300000007.idx"],
      List.Perm.swap _ _ _, by decide +kernel, by decide +kernel⟩

theorem selectLatest_chooses_first_latest_listed :
    ["idx/0300000005.idx", "idx/0300000007.idx", "idx/0100000002.idx", "idx/notes.txt"].Perm
        ["idx/notes.txt", "idx/0100000002.idx", "idx/0300000007.idx", "idx/0300000005.idx"] ∧
      (selectLatest ["idx/notes.txt", "idx/0100000002.idx", "idx/0300000007.idx",
          "idx/0300000005.idx"]).map (·.1) =
        (selectLatest ["idx/0300000005.idx", "idx/0300000007.idx", "idx/0100000002.idx",
          "idx/notes.txt"]).map (·.1) :=
  ⟨by decide, (selectLatest_chooses_first_latest _).2.2.2.2.1 _ (by decide)⟩

end AssetStore.Index
