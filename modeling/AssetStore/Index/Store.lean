import AssetStore.Disk.Access
import AssetStore.Index.File
import AssetStore.Index.Latest
/-!
# The index store

The merged view of an installation's index files. Of the given paths only the latest index file
of each bucket is read (`Index.selectLatest`), in ascending bucket order; the entries of all of
them are merged so that a key keeps the first entry seen. A file that cannot be read or parsed
fails the whole store with the error of the first such file; a parse refusal names the file.

A lookup uses the first nine bytes of the key asked for.

* `IndexStore.build paths maxShard` — the store of some paths, read through `DiskAccess`.
* `IndexStore.merge` — the pure merge of parsed files.
* `IndexStore.lookup` — the entry of a key.
-/

namespace AssetStore

/-- The entries of the chosen index files, one per key, with the files they came from. -/
structure IndexStore where
  files : List (Layout.IndexFileId × String)
  entries : List IndexEntry
  deriving DecidableEq

namespace IndexStore

/-- Adds entries to a merged list: a key already present keeps its entry. -/
def mergeEntries (merged : List IndexEntry) (more : List IndexEntry) : List IndexEntry :=
  more.foldl (fun acc e => if acc.any (·.key == e.key) then acc else acc ++ [e]) merged

/-- Reads and parses the chosen files in order, merging their entries. -/
def readAll {m : Type → Type} [Monad m] [DiskAccess m] (maxShard : Nat) :
    List (Layout.IndexFileId × String) → List IndexEntry → m (Except Error (List IndexEntry))
  | [], merged => pure (.ok merged)
  | (_, path) :: rest, merged => do
    match ← DiskAccess.readFile path with
    | .error e => pure (.error (.io e))
    | .ok data =>
      match IndexFile.parse data maxShard with
      | .error f => pure (.error (f.toError.atPath path))
      | .ok entries => readAll maxShard rest (mergeEntries merged entries)

/-- The store of the latest index files among some paths. -/
def build {m : Type → Type} [Monad m] [DiskAccess m] (paths : List String) (maxShard : Nat) :
    m (Except Error IndexStore) := do
  let files := Index.selectLatest paths
  match ← readAll maxShard files [] with
  | .ok entries => pure (.ok ⟨files, entries⟩)
  | .error e => pure (.error e)

/-- The store of every index file in a directory. -/
def loadDir {m : Type → Type} [Monad m] [DiskAccess m] (dir : String) (maxShard : Nat) :
    m (Except Error IndexStore) := do
  match ← DiskAccess.listDir dir with
  | .error e => pure (.error (.io e))
  | .ok names => build (names.map (Disk.Path.join dir)) maxShard

def size (s : IndexStore) : Nat := s.entries.length

/-- The entry of the first nine bytes of a key. -/
def lookup (s : IndexStore) (k : Key) : Option IndexEntry :=
  s.entries.find? (·.key.bytes == k.bytes.take indexKeyLength)

/-- The entries in ascending order of key bytes. -/
def sortedEntries (s : IndexStore) : List IndexEntry :=
  s.entries.mergeSort fun a b => !decide (b.key.bytes < a.key.bytes)

end IndexStore

end AssetStore
