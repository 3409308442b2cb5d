import AssetStore.Layout
/-!
# The latest index file of each bucket

An installation may hold several versions of a bucket's index file; only the highest version of
each bucket counts. Among paths whose file name denotes the same bucket and version, the first
one given is kept. Paths whose file name is not an index file name are passed over. The chosen
files come in ascending bucket order.
-/

namespace AssetStore.Index

open Layout

/-- The index file a path's file name denotes, if any. -/
def fileIdOf? (path : String) : Option IndexFileId :=
  (Disk.Path.fileName? path).bind parseIndexFileName?

/-- Adds one path to the choice so far: it replaces the file of its bucket only with a higher
version. -/
def considerLatest (chosen : List (IndexFileId × String)) (path : String) :
    List (IndexFileId × String) :=
  match fileIdOf? path with
  | none => chosen
  | some id =>
    match chosen.find? (fun entry => entry.1.bucket == id.bucket) with
    | some current =>
      if id.version ≤ current.1.version then chosen
      else chosen.map fun entry => if entry.1.bucket == id.bucket then (id, path) else entry
    | none => chosen ++ [(id, path)]

/-- The highest version of each bucket with the first path that names it, by ascending bucket. -/
def selectLatest (paths : List String) : List (IndexFileId × String) :=
  (paths.foldl considerLatest []).mergeSort fun x y => x.1.bucket ≤ y.1.bucket

end AssetStore.Index
