import AssetStore.Json.Scan
/-!
# Reading records from JSON

A record is read from a JSON object, member by member, or from a JSON array holding its fields
in order. Each known field is read by its own reader; members with other names are skipped, a
known name given twice is refused, and fields that are not given keep the value they start
with. An array may hold fewer elements than the record has fields, and no more.

A field reader expects one kind of value and names it in its refusals (`a string`, `u16`,
`a boolean`, …). When the value is of another kind the reader reads just enough of it to say
what it is: the word, the number, the string, or only that an array or an object begins.

The whole document must be the record followed by nothing but blanks.
-/

namespace AssetStore.Json

namespace Reader

/-- Refuses the value at the current position as not being `expected`, naming what it is. -/
def mismatch {α : Type} (expected : String) : Reader α := placed do
  let refuse (found : Unexpected) : Reader α := throw ⟨.invalidType found expected, none⟩
  match ← peek with
  | some 0x6E => do eat; word [0x75, 0x6C, 0x6C]; refuse .null
  | some 0x74 => do eat; word [0x72, 0x75, 0x65]; refuse (.bool true)
  | some 0x66 => do eat; word [0x61, 0x6C, 0x73, 0x65]; refuse (.bool false)
  | some 0x2D => do eat; let n ← number false; refuse n.unexpected
  | some 0x22 => do eat; let s ← string; refuse (.string s)
  | some 0x5B => refuse .seq
  | some 0x7B => refuse .map
  | some b =>
    if isDigit b then do let n ← number true; refuse n.unexpected
    else failAtNext .expectedValue
  | none => failAtNext .expectedValue

/-- A string value; `expected` names it in refusals. -/
def text (expected : String) : Reader String := placed do
  match ← blank with
  | none => failAtNext .eofInValue
  | some 0x22 => do eat; string
  | some _ => mismatch expected

/-- A natural of at most `limit`; `expected` names it in refusals. -/
def natural (limit : Nat) (expected : String) : Reader Nat := placed do
  let accept (n : Number) : Reader Nat :=
    match n with
    | .unsigned v =>
      if v ≤ limit then pure v else throw ⟨.invalidValue (.unsigned v) expected, none⟩
    | .signed v => throw ⟨.invalidValue (.signed v) expected, none⟩
    | .float x => throw ⟨.invalidType (.float x) expected, none⟩
  match ← blank with
  | none => failAtNext .eofInValue
  | some 0x2D => do eat; accept (← number false)
  | some b => if isDigit b then do accept (← number true) else mismatch expected

/-- A boolean value. -/
def boolean : Reader Bool := placed do
  match ← blank with
  | none => failAtNext .eofInValue
  | some 0x74 => do eat; word [0x72, 0x75, 0x65]; pure true
  | some 0x66 => do eat; word [0x61, 0x6C, 0x73, 0x65]; pure false
  | some _ => mismatch "a boolean"

end Reader

/-- A named field of a record of type `ρ`, with the reader that reads its value into a record. -/
structure Field (ρ : Type) where
  name : String
  read : ρ → Reader ρ

namespace Reader

variable {ρ : Type}

/-- The colon between a member's name and its value. -/
def colon : Reader Unit := do
  match ← blank with
  | some 0x3A => eat
  | some _ => failAtNext .expectedColon
  | none => failAtNext .eofInObject

/-- The name of the next member of an object, or `none` at its end. -/
def memberName (first : Bool) : Reader (Option String) := do
  let b ← blank
  if b == some 0x7D then return none
  let b ← if b == some 0x2C && !first then do eat; blank
    else match b with
      | none => failAtNext .eofInObject
      | some _ => if first then pure b else failAtNext .expectedObjectCommaOrEnd
  match b with
  | some 0x22 => do eat; return some (← string)
  | some 0x7D => failAtNext .trailingComma
  | some _ => failAtNext .keyMustBeString
  | none => failAtNext .eofInValue

/-- The members of an object, for at most `fuel` of them; `seen` holds the known names read. -/
def members (fields : List (Field ρ)) : Nat → Bool → List String → ρ → Reader ρ
  | 0, _, _, r => pure r
  | fuel + 1, first, seen, r => do
    match ← memberName first with
    | none => pure r
    | some name =>
      match fields.find? (·.name == name) with
      | some field =>
        if seen.contains name then throw ⟨.duplicateField name, none⟩
        colon
        let r ← field.read r
        members fields fuel false (name :: seen) r
      | none =>
        colon
        skipValue
        members fields fuel false seen r

/-- The elements of an array, one per field in order, while there are any. -/
def elements : List (Field ρ) → Bool → ρ → Reader ρ
  | [], _, r => pure r
  | field :: fields, first, r => do
    let b ← blank
    if b == some 0x5D then return r
    let b ← if b == some 0x2C && !first then do eat; blank
      else match b with
        | none => failAtNext .eofInList
        | some _ => if first then pure b else failAtNext .expectedListCommaOrEnd
    match b with
    | some 0x5D => failAtNext .trailingComma
    | some _ => elements fields false (← field.read r)
    | none => failAtNext .eofInValue

/-- The end of an object whose members were read. -/
def objectEnd : Reader Unit := do
  match ← blank with
  | some 0x7D => eat
  | some 0x2C => failAtNext .trailingComma
  | some _ => failAtNext .trailingCharacters
  | none => failAtNext .eofInObject

/-- The end of an array whose elements were read. -/
def arrayEnd : Reader Unit := do
  match ← blank with
  | some 0x5D => eat
  | some 0x2C =>
    eat
    match ← blank with
    | some 0x5D => failAtNext .trailingComma
    | _ => failAtNext .trailingCharacters
  | some _ => failAtNext .trailingCharacters
  | none => failAtNext .eofInList

/-- Runs a body and then the closing reader, the closing reader also after a failed body; the
body's fault wins. -/
def closedBy {α : Type} (body : Reader α) (closing : Reader Unit) : Reader α := do
  let result ← attempt body
  let closed ← attempt closing
  match result, closed with
  | .error f, _ => throw f
  | .ok _, .error f => throw f
  | .ok v, .ok () => pure v

/-- A record named `name` (as refusals call it), starting from `start`. -/
def record (name : String) (fields : List (Field ρ)) (start : ρ) : Reader ρ := placed do
  match ← blank with
  | none => failAtNext .eofInValue
  | some 0x5B =>
    eat
    closedBy (elements fields true start) arrayEnd
  | some 0x7B =>
    eat
    let fuel := (← get).rest.length + 1
    closedBy (members fields fuel true [] start) objectEnd
  | some _ => mismatch name

/-- The end of a document: nothing but blanks. -/
def documentEnd : Reader Unit := do
  match ← blank with
  | some _ => failAtNext .trailingCharacters
  | none => pure ()

end Reader

/-- Reads a whole document with a reader. -/
def decode {α : Type} (text : List UInt8) (reader : Reader α) : Except Fault α :=
  ((ExceptT.run (do let v ← reader; Reader.documentEnd; pure v)).run ⟨text, 0⟩).1

end AssetStore.Json
