import AssetStore.Key
/-!
# Index entries

An index entry says where the encoded bytes of a file key are kept: in which shard file, at which
byte offset of it the block header starts, and how many bytes the block has with its header.
Index keys are the first nine bytes of a file key (fewer when the index is written with shorter
keys).
-/

namespace AssetStore

/-- The number of leading file-key bytes that index files keep. -/
def indexKeyLength : Nat := 9

/-- Where the bytes of a file key are kept. -/
structure IndexEntry where
  key : Key
  shard : Nat
  offset : Nat
  size : Nat
  deriving DecidableEq

end AssetStore
