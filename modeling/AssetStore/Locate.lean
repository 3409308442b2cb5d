import AssetStore.Table.Encoding
import AssetStore.Table.Root
import AssetStore.Index.Store
/-!
# Locating a file

A filename hash is located in three stages. The root table gives the content checksums of the
hash, in file order; for each checksum in turn the encoding table gives its file keys, of which
only the first is tried; the index store gives the place of that key. The first checksum that
passes all three stages wins.

When none does, the miss is reported at the furthest stage reached: `root` when the hash has no
checksums, `index` when some checksum had an encoding record, and `encoding` otherwise.

* `locate root encoding index hash` — the `Resolution` of a filename hash.
* `Resolution.map`, `Resolution.toExcept` — a found value transformed, or the miss as an error.
-/

namespace AssetStore

/-- The outcome of a lookup: a value, or the stage at which nothing was found. -/
inductive Resolution (α : Type)
  | found (value : α)
  | missingAt (stage : Stage)
  deriving DecidableEq

namespace Resolution

/-- A found value transformed; a miss keeps its stage. -/
def map {α β : Type} (f : α → β) : Resolution α → Resolution β
  | .found a => .found (f a)
  | .missingAt stage => .missingAt stage

/-- The found value, or a miss as `entryNotFound` at its stage naming `key`. -/
def toExcept {α : Type} (key : String) : Resolution α → Except Error α
  | .found a => .ok a
  | .missingAt stage => .error (.entryNotFound stage key)

end Resolution

/-- Tries checksums in order; `furthest` is the furthest stage that a tried checksum reached. -/
def locateAmong (encoding : EncodingTable) (index : IndexStore) :
    List Key → Stage → Resolution IndexEntry
  | [], furthest => .missingAt furthest
  | checksum :: rest, furthest =>
    match encoding.fileKey? checksum with
    | none => locateAmong encoding index rest furthest
    | some fileKey =>
      match index.lookup fileKey with
      | some entry => .found entry
      | none => locateAmong encoding index rest .index

/-- Where the file of a filename hash is kept, or the stage at which it was missed. -/
def locate (root : RootTable) (encoding : EncodingTable) (index : IndexStore) (nameHash : UInt64) :
    Resolution IndexEntry :=
  match root.checksumsFor nameHash with
  | [] => .missingAt .root
  | checksums => locateAmong encoding index checksums .encoding

end AssetStore
