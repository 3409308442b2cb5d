import AssetStore.Index.Store
import AssetStore.Proofs.FirstByKey
import AssetStore.Proofs.IndexBounds
/-!
# Building the index store

What `IndexStore.build` reads and what it answers. To see which files it opens, the store is run
against a file system given by what reading each path returns, recording every path it reads
(`Recorder`). Of the paths given, only the latest index file of each bucket is read, in the
order `Index.selectLatest` puts them, and reading stops at the first file that cannot be read or
parsed, whose error is the store's: the input-output error of the read, or the refusal of the
bytes as a malformed index whose detail starts with the file's path. Otherwise the store answers
as the concatenation `L` of the files' entries in that order: its size is the number of distinct
keys in `L`, and a lookup finds the first entry of `L` whose key is the first nine bytes of the
key asked for.

The main statement is `build_reads_latest`.
-/

namespace AssetStore

/-! ### A file system that records its reads -/

/-- Runs against fixed read results, one per path, keeping the paths read in order. -/
abbrev Recorder := ReaderT (String → Except IoError (List UInt8)) (StateM (List String))

/-- Reads answer from the fixed results and are recorded; nothing else is there to see: no path
names a directory to list, and writes are refused. -/
instance : DiskAccess Recorder where
  readFile path := do
    modify (· ++ [path])
    return (← read) path
  kindOf _ := pure none
  listDir _ := pure (.error .notFound)
  writeFile _ _ := pure (.error .notFound)

namespace Recorder

variable (contents : String → Except IoError (List UInt8)) (opened : List String)

theorem run_bind {α β : Type} (first : Recorder α) (continuation : α → Recorder β) :
    ((first >>= continuation : Recorder β).run contents).run opened =
      ((continuation ((first.run contents).run opened).1).run contents).run
        ((first.run contents).run opened).2 := rfl

theorem run_readFile (path : String) :
    ((DiskAccess.readFile path : Recorder _).run contents).run opened =
      (contents path, opened ++ [path]) := rfl

end Recorder

namespace IndexStore

/-- What reading and parsing one chosen file gives: its entries, or the error the store reports
for it, an input-output error or the parser's refusal naming the file. -/
def fileEntries (contents : String → Except IoError (List UInt8)) (maxShard : Nat)
    (path : String) : Except Error (List IndexEntry) :=
  match contents path with
  | .error e => .error (.io e)
  | .ok data => (IndexFile.parse data maxShard).mapError (·.toError.atPath path)

/-! ### The error of a file -/

theorem message_atPath_malformed (path detail : String) :
    ((Error.malformed .index detail).atPath path).message =
      "Malformed index: " ++ path ++ ": " ++ detail := by
  unfold Error.atPath Error.message Table.name
  simp only [toString, String.append_assoc]
  rw [← String.append_assoc, ← String.append_assoc]
  rfl

theorem message_atPath_truncated (path : String) :
    ((Error.truncated .index "").atPath path).message =
      "Malformed index: " ++ path ++ ": " ++ "input ends inside a fixed-size field" := by
  unfold Error.atPath Error.message Table.name
  simp only [toString, String.append_assoc]
  rw [← String.append_assoc, ← String.append_assoc]
  rfl

/-- A refusal of a file's bytes is reported with the file's path first in its detail, short
reads included. -/
theorem message_atPath {data : List UInt8} {maxShard : Nat} {f : IndexFile.Fault}
    (refused : IndexFile.parse data maxShard = .error f) (path : String) :
    ∃ rest, (f.toError.atPath path).message = "Malformed index: " ++ path ++ ": " ++ rest := by
  cases f with
  | truncated => exact ⟨_, message_atPath_truncated path⟩
  | invalidKeySize => exact ⟨_, message_atPath_malformed path _⟩
  | unsupportedWidths => exact ⟨_, message_atPath_malformed path _⟩
  | blockPastEnd => exact ⟨_, message_atPath_malformed path _⟩
  | shardAboveMaximum => exact ⟨_, message_atPath_malformed path _⟩
  | keyRefused cause => exact absurd rfl (IndexFile.parse_keys_made refused cause)

variable (contents : String → Except IoError (List UInt8)) (maxShard : Nat)

/-- A chosen file fails for an input-output error of its read, or for a refusal of its bytes
reported as a malformed index whose detail starts with the file's path. -/
theorem fileEntries_error {path : String} {e : Error}
    (failed : fileEntries contents maxShard path = .error e) :
    (∃ cause, contents path = .error cause ∧ e = .io cause) ∨
      e.refusedTable? = some .index ∧ ∃ rest, e.message = "Malformed index: " ++ path ++ ": " ++ rest := by
  unfold fileEntries at failed
  cases read : contents path with
  | error cause =>
    rw [read] at failed
    cases failed
    exact .inl ⟨cause, rfl, rfl⟩
  | ok data =>
    rw [read] at failed
    dsimp only at failed
    cases parsed : IndexFile.parse data maxShard with
    | ok entries =>
      rw [parsed] at failed
      cases failed
    | error f =>
      rw [parsed] at failed
      cases failed
      exact .inr ⟨(IndexFile.refusedTable?_of_parse parsed).2 path, message_atPath parsed path⟩

theorem mergeEntries_eq (merged more : List IndexEntry) :
    mergeEntries merged more = more.foldl (appendNew IndexEntry.key) merged := rfl

/-! ### Reading the chosen files -/

/-- One chosen file is read: its path is recorded, and its entries are merged or its error ends
the reading. -/
theorem readAll_cons (id : Layout.IndexFileId) (path : String)
    (rest : List (Layout.IndexFileId × String)) (merged : List IndexEntry) (opened : List String) :
    ((readAll maxShard ((id, path) :: rest) merged : Recorder _).run contents).run opened =
      match fileEntries contents maxShard path with
      | .error e => (.error e, opened ++ [path])
      | .ok entries =>
        ((readAll maxShard rest (mergeEntries merged entries) : Recorder _).run contents).run
          (opened ++ [path]) := by
  rw [readAll, Recorder.run_bind, Recorder.run_readFile, fileEntries]
  cases contents path with
  | error e => rfl
  | ok data =>
    dsimp only
    cases IndexFile.parse data maxShard with
    | error f => rfl
    | ok entries => rfl

/-- When every chosen file reads and parses, all of them are read, in order, and their entries
are merged one file after another. -/
theorem readAll_loaded (files : List (Layout.IndexFileId × String)) (lists : List (List IndexEntry))
    (loaded : files.mapM (fun f => fileEntries contents maxShard f.2) = .ok lists)
    (merged : List IndexEntry) (opened : List String) :
    ((readAll maxShard files merged : Recorder _).run contents).run opened =
      (.ok (lists.flatten.foldl (appendNew IndexEntry.key) merged), opened ++ files.map (·.2)) := by
  induction files generalizing lists merged opened with
  | nil =>
    cases loaded
    simp [readAll]
    rfl
  | cons f rest inductionHypothesis =>
    obtain ⟨id, path⟩ := f
    rw [List.mapM_cons] at loaded
    rw [readAll_cons]
    cases first : fileEntries contents maxShard path with
    | error e => simp [first] at loaded; cases loaded
    | ok entries =>
      cases others : rest.mapM (fun f => fileEntries contents maxShard f.2) with
      | error e => simp [first, others] at loaded; cases loaded
      | ok lists' =>
        simp only [first, others] at loaded
        cases loaded
        dsimp only
        rw [inductionHypothesis lists' others, mergeEntries_eq, List.flatten_cons,
          List.foldl_append]
        simp

/-- The first chosen file that fails ends the reading with its error, after it was read. -/
theorem readAll_failed (before : List (Layout.IndexFileId × String))
    (failed : Layout.IndexFileId × String) (after : List (Layout.IndexFileId × String))
    (e : Error) (fine : ∀ g ∈ before, ∃ entries, fileEntries contents maxShard g.2 = .ok entries)
    (fails : fileEntries contents maxShard failed.2 = .error e) (merged : List IndexEntry)
    (opened : List String) :
    ((readAll maxShard (before ++ failed :: after) merged : Recorder _).run contents).run opened =
      (.error e, opened ++ (before ++ [failed]).map (·.2)) := by
  induction before generalizing merged opened with
  | nil =>
    obtain ⟨id, path⟩ := failed
    rw [List.nil_append, readAll_cons]
    simp only at fails
    rw [fails]
    simp
  | cons g before inductionHypothesis =>
    obtain ⟨entries, readable⟩ := fine g List.mem_cons_self
    obtain ⟨id, path⟩ := g
    rw [List.cons_append, readAll_cons]
    simp only at readable
    rw [readable]
    dsimp only
    rw [inductionHypothesis (fun g member => fine g (List.mem_cons_of_mem _ member))]
    simp

/-! ### The store built -/

/-- The store holds the chosen files and the merged entries, or the error of the reading. -/
theorem build_recorded (paths : List String) (opened : List String) :
    ((build paths maxShard : Recorder _).run contents).run opened =
      ((((readAll maxShard (Index.selectLatest paths) [] : Recorder _).run contents).run
          opened).1.map (IndexStore.mk (Index.selectLatest paths)),
        (((readAll maxShard (Index.selectLatest paths) [] : Recorder _).run contents).run
          opened).2) := by
  rw [build, Recorder.run_bind]
  cases (((readAll maxShard (Index.selectLatest paths) [] : Recorder _).run contents).run
    opened).1 <;> rfl

/-- Building the index store reads only the latest index file of each bucket, in the order of
`Index.selectLatest`. When all of them read and parse, all are read and the store answers as the
concatenation of their entries in that order: it keeps the chosen files, its size is the number of
distinct keys, and a lookup finds the first entry whose key is the first nine bytes of the key
asked for. Otherwise reading stops at the first file that fails, and its error is the store's:
the input-output error of its read, or the refusal of its bytes as a malformed index whose detail
starts with its path. -/
theorem build_reads_latest (paths : List String) :
    (∀ lists, (Index.selectLatest paths).mapM (fun f => fileEntries contents maxShard f.2) =
        .ok lists →
      ∃ store, ((build paths maxShard : Recorder _).run contents).run [] =
          (.ok store, (Index.selectLatest paths).map (·.2)) ∧
        store.files = Index.selectLatest paths ∧
        store.size = (lists.flatten.map (·.key)).toFinset.card ∧
        ∀ k, store.lookup k = lists.flatten.find? (·.key.bytes == k.bytes.take indexKeyLength)) ∧
    (∀ before failed after e, Index.selectLatest paths = before ++ failed :: after →
      (∀ g ∈ before, ∃ entries, fileEntries contents maxShard g.2 = .ok entries) →
      fileEntries contents maxShard failed.2 = .error e →
      ((build paths maxShard : Recorder _).run contents).run [] =
        (.error e, (before ++ [failed]).map (·.2))) ∧
    (∀ path e, fileEntries contents maxShard path = .error e →
      (∃ cause, contents path = .error cause ∧ e = .io cause) ∨
        e.refusedTable? = some .index ∧
          ∃ rest, e.message = "Malformed index: " ++ path ++ ": " ++ rest) := by
  refine ⟨?_, ?_, fun path e failed => fileEntries_error contents maxShard failed⟩
  · intro lists loaded
    rw [build_recorded, readAll_loaded contents maxShard _ lists loaded, foldl_appendNew_nil]
    refine ⟨⟨Index.selectLatest paths, _⟩, rfl, rfl, length_eraseDupsBy IndexEntry.key _, fun k => ?_⟩
    exact find?_eraseDupsBy IndexEntry.key (fun key => key.bytes == k.bytes.take indexKeyLength) _
  · intro before failed after e split fine fails
    rw [build_recorded, split, readAll_failed contents maxShard before failed after e fine fails,
      List.nil_append]
    rfl

/-- Bucket 0 named in two versions, of which version 1 is the latest, and bucket 1 in one. -/
def twoBuckets : List String := ["0000000000.idx", "0100000002.idx", "0000000001.idx"]

/-- The latest file of bucket 0 holds the packed records and the file of bucket 1 none; the
superseded file cannot be read at all. -/
def twoBucketFiles (path : String) : Except IoError (List UInt8) :=
  if path = "0000000001.idx" then .ok (IndexFile.write 0 IndexFile.packedRecords)
  else if path = "0100000002.idx" then .ok (IndexFile.write 1 [])
  else .error .notFound

/-- The same files, with the file of bucket 1 cut to nothing. -/
def cutSecondFile (path : String) : Except IoError (List UInt8) :=
  if path = "0100000002.idx" then .ok [] else twoBucketFiles path

theorem selectLatest_twoBuckets :
    Index.selectLatest twoBuckets = [(⟨0, 1⟩, "0000000001.idx"), (⟨1, 2⟩, "0100000002.idx")] := by
  have folded : twoBuckets.foldl Index.considerLatest [] =
      [(⟨0, 1⟩, "0000000001.idx"), (⟨1, 2⟩, "0100000002.idx")] := by
    decide +kernel
  rw [Index.selectLatest, folded]
  exact List.mergeSort_of_pairwise (by decide)

theorem fileEntries_packed (files : String → Except IoError (List UInt8))
    (holds : files "0000000001.idx" = .ok (IndexFile.write 0 IndexFile.packedRecords)) :
    fileEntries files 0x3FF "0000000001.idx" =
      .ok ((IndexFile.packedRecords.filter (·.inUse)).map (·.entry)) := by
  rw [fileEntries, holds]
  dsimp only
  rw [IndexFile.parse_packedRecords]
  rfl

/-- Both ways the store can end on the same paths: with every chosen file read, the superseded
one never opened, and with the later chosen file cut short, whose refusal names it. -/
theorem build_reads_latest_twoBuckets :
    (Index.selectLatest twoBuckets).mapM (fun f => fileEntries twoBucketFiles 0x3FF f.2) =
        .ok [(IndexFile.packedRecords.filter (·.inUse)).map (·.entry), []] ∧
      (∃ store, ((build twoBuckets 0x3FF : Recorder _).run twoBucketFiles).run [] =
          (.ok store, (Index.selectLatest twoBuckets).map (·.2)) ∧
        store.files = Index.selectLatest twoBuckets ∧
        store.size = ([(IndexFile.packedRecords.filter (·.inUse)).map (·.entry), []].flatten.map
          (·.key)).toFinset.card ∧
        ∀ k, store.lookup k = [(IndexFile.packedRecords.filter (·.inUse)).map (·.entry), []].flatten.find?
          (·.key.bytes == k.bytes.take indexKeyLength)) ∧
      fileEntries cutSecondFile 0x3FF "0100000002.idx" = .error (.truncated .index "0100000002.idx: ") ∧
      ((build twoBuckets 0x3FF : Recorder _).run cutSecondFile).run [] =
        (.error (.truncated .index "0100000002.idx: "), ["0000000001.idx", "0100000002.idx"]) := by
  have emptyFile : fileEntries twoBucketFiles 0x3FF "0100000002.idx" = .ok [] := by
    decide +kernel
  have loaded : (Index.selectLatest twoBuckets).mapM (fun f => fileEntries twoBucketFiles 0x3FF f.2) =
      .ok [(IndexFile.packedRecords.filter (·.inUse)).map (·.entry), []] := by
    rw [selectLatest_twoBuckets, List.mapM_cons, List.mapM_cons, List.mapM_nil,
      fileEntries_packed twoBucketFiles rfl, emptyFile]
    rfl
  have cut : fileEntries cutSecondFile 0x3FF "0100000002.idx" =
      .error (.truncated .index "0100000002.idx: ") := by
    decide +kernel
  refine ⟨loaded, (build_reads_latest twoBucketFiles 0x3FF twoBuckets).1 _ loaded, cut, ?_⟩
  exact (build_reads_latest cutSecondFile 0x3FF twoBuckets).2.1 [(⟨0, 1⟩, "0000000001.idx")]
    (⟨1, 2⟩, "0100000002.idx") [] _ selectLatest_twoBuckets
    (fun g member => by
      obtain rfl := List.mem_singleton.mp member
      exact ⟨_, fileEntries_packed _ rfl⟩) cut

end IndexStore

end AssetStore
