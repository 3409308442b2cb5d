import AssetStore.Hash.Lookup3
import AssetStore.Text.Utf8
/-!
# Asset paths and their filename hash

Assets are named by logical paths. A path is normalised character by character: `/` becomes
`\`, ASCII letters become upper case, every character outside ASCII becomes `?`, and all other
ASCII characters, NUL included, stay. The filename hash of a path is the 64-bit lookup3 hash of
the normalised path's bytes, so spellings that differ only in case, separator or non-ASCII
characters share one hash.
-/

namespace AssetStore.AssetPath

/-- The normal form of one character of a path. -/
def normalizeChar (c : Char) : Char :=
  if c == '/' then '\\'
  else if c.toNat ≥ 128 then '?'
  else c.toUpper

/-- The normal form of a path: one character for each of its characters. -/
def normalize (path : String) : String :=
  String.ofList (path.toList.map normalizeChar)

/-- The filename hash of a path: lookup3 over the bytes of its normal form. -/
def filenameHash (path : String) : UInt64 :=
  Hash.Lookup3.hash64 (Text.Utf8.encode (normalize path))

end AssetStore.AssetPath
