import AssetStore.Binary64.Shortest
import AssetStore.Text.Escape
/-!
# Faults of the JSON reader

A refused JSON document is described by a `Problem` and, once known, the byte index where it was
noticed. The text of a fault is the problem's text followed by ` at line L column C`, where the
line counts from one and the column is the number of bytes since the last newline before the
index. A problem about a value's type or range is raised without an index and gets the index the
reader stands at when it is reported.
-/

namespace AssetStore.Json

/-- What was found where a value of another kind was expected. -/
inductive Unexpected
  | null
  | bool (value : Bool)
  | unsigned (value : Nat)
  | signed (value : Int)
  | float (value : Binary64)
  | string (value : String)
  | seq
  | map
  deriving Repr

/-- The text of what was found: numbers and booleans quoted with backticks, strings escaped. -/
def Unexpected.text : Unexpected → String
  | .null => "null"
  | .bool value => s!"boolean `{value}`"
  | .unsigned value => s!"integer `{value}`"
  | .signed value => s!"integer `{value}`"
  | .float value => "floating point `" ++ Binary64.text value ++ "`"
  | .string value => "string " ++ Text.Escape.string value
  | .seq => "sequence"
  | .map => "map"

/-- Why a document was refused. -/
inductive Problem
  | eofInList
  | eofInObject
  | eofInString
  | eofInValue
  | expectedColon
  | expectedListCommaOrEnd
  | expectedObjectCommaOrEnd
  | expectedIdent
  | expectedValue
  | invalidEscape
  | invalidNumber
  | numberOutOfRange
  | controlCharacter
  | keyMustBeString
  | loneLeadingSurrogate
  | trailingComma
  | trailingCharacters
  | unexpectedEndOfHexEscape
  /-- A value of the wrong kind. -/
  | invalidType (found : Unexpected) (expected : String)
  /-- A value of the right kind out of range. -/
  | invalidValue (found : Unexpected) (expected : String)
  /-- A field given twice. -/
  | duplicateField (name : String)
  deriving Repr

def Problem.text : Problem → String
  | .eofInList => "EOF while parsing a list"
  | .eofInObject => "EOF while parsing an object"
  | .eofInString => "EOF while parsing a string"
  | .eofInValue => "EOF while parsing a value"
  | .expectedColon => "expected `:`"
  | .expectedListCommaOrEnd => "expected `,` or `]`"
  | .expectedObjectCommaOrEnd => "expected `,` or `\x7d`"
  | .expectedIdent => "expected ident"
  | .expectedValue => "expected value"
  | .invalidEscape => "invalid escape"
  | .invalidNumber => "invalid number"
  | .numberOutOfRange => "number out of range"
  | .controlCharacter => "control character (\\u0000-\\u001F) found while parsing a string"
  | .keyMustBeString => "key must be a string"
  | .loneLeadingSurrogate => "lone leading surrogate in hex escape"
  | .trailingComma => "trailing comma"
  | .trailingCharacters => "trailing characters"
  | .unexpectedEndOfHexEscape => "unexpected end of hex escape"
  | .invalidType found expected => "invalid type: " ++ found.text ++ ", expected " ++ expected
  | .invalidValue found expected => "invalid value: " ++ found.text ++ ", expected " ++ expected
  | .duplicateField name => "duplicate field `" ++ name ++ "`"

/-- A refusal, with the byte index where it was noticed once that is known. -/
structure Fault where
  problem : Problem
  index : Option Nat
  deriving Repr

/-- The line, from one, and the column, in bytes since the last newline, of a byte index. -/
def position (text : List UInt8) (index : Nat) : Nat × Nat :=
  let before := text.take index
  (1 + before.count 10, (before.reverse.takeWhile (· != 10)).length)

/-- The text of a fault in a document. -/
def Fault.message (f : Fault) (text : List UInt8) : String :=
  match f.index with
  | none => f.problem.text
  | some index =>
    let (line, column) := position text index
    s!"{f.problem.text} at line {line} column {column}"

end AssetStore.Json
