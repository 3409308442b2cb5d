import AssetStore.Prelude
/-!
# Blank characters

The characters with the Unicode `White_Space` property, and trimming them from both ends of a
text. Besides the ASCII blanks this takes in the next-line control, the no-break spaces, the
ogham space mark, the typographic spaces, the line and paragraph separators and the ideographic
space.
-/

namespace AssetStore.Text.Blank

/-- Whether a character has the Unicode `White_Space` property. -/
def isBlank (c : Char) : Bool :=
  let n := c.toNat
  (0x09 ≤ n && n ≤ 0x0D) || n == 0x20 || n == 0x85 || n == 0xA0 || n == 0x1680 ||
  (0x2000 ≤ n && n ≤ 0x200A) || n == 0x2028 || n == 0x2029 || n == 0x202F || n == 0x205F ||
  n == 0x3000

/-- The characters of a text without blanks at either end. -/
def trimList (cs : List Char) : List Char :=
  ((cs.dropWhile isBlank).reverse.dropWhile isBlank).reverse

/-- A text without blanks at either end. -/
def trim (s : String) : String :=
  String.ofList (trimList s.toList)

end AssetStore.Text.Blank
