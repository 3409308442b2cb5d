import AssetStore.Json.Fault
import AssetStore.Text.Utf8
/-!
# Reading JSON text

The lexical layer of the JSON reader: a position in the document's bytes, blanks, literal words,
numbers, strings, and skipping a whole value. A read runs in `Reader`; it fails with a `Fault`
and, like every read of the store, leaves the position where the failure was noticed.

Where a fault is noticed follows two rules. A fault about a byte that was consumed is placed
after it (`failHere`); a fault about the next byte, looked at but not consumed, is placed after
that byte, or at the end of the document when there is none (`failAtNext`).

Numbers are read as the reader sees them: digits that fit in 64 bits are kept exactly
(`Number.unsigned`, or `Number.signed` below zero down to `-2 ^ 63`); anything else, a fraction,
an exponent, a longer integer or minus zero, becomes a binary64 value. Its significand keeps the
leading digits while they fit in 64 bits, the rest only count towards the exponent, and the
value is the significand, rounded, then multiplied or divided by the nearest binary64 value of
the power of ten, each step rounded. A result that overflows is refused as out of range.

Skipping checks a value's syntax, strings and numbers included, without building it.
-/

namespace AssetStore.Json

/-- The unread bytes of a document and the index of the first of them. -/
structure Scan where
  rest : List UInt8
  index : Nat
  deriving DecidableEq, Repr

abbrev Reader := ExceptT Fault (StateM Scan)

/-- A number as read. -/
inductive Number
  /-- A natural below `2 ^ 64`. -/
  | unsigned (value : Nat)
  /-- A negative integer not below `-2 ^ 63`. -/
  | signed (value : Int)
  /-- Any other number. -/
  | float (value : Binary64)
  deriving Repr

/-- What a number is when it is not what was expected. -/
def Number.unexpected : Number → Unexpected
  | .unsigned n => .unsigned n
  | .signed n => .signed n
  | .float x => .float x

namespace Reader

def peek : Reader (Option UInt8) := do
  return (← get).rest.head?

def eat : Reader Unit :=
  modify fun s => match s.rest with
    | [] => s
    | _ :: rest => ⟨rest, s.index + 1⟩

def next : Reader (Option UInt8) := do
  let b ← peek
  eat
  return b

/-- Fails at the current index. -/
def failHere {α : Type} (p : Problem) : Reader α := do
  throw ⟨p, some (← get).index⟩

/-- Fails after the next byte, or at the end when there is none. -/
def failAtNext {α : Type} (p : Problem) : Reader α := do
  let s ← get
  throw ⟨p, some (if s.rest.isEmpty then s.index else s.index + 1)⟩

/-- Gives a fault without an index the current one. -/
def placed {α : Type} (r : Reader α) : Reader α :=
  tryCatch r fun f => do
    match f.index with
    | some _ => throw f
    | none => throw { f with index := some (← get).index }

/-- The outcome of a read, which itself always succeeds. -/
def attempt {α : Type} (r : Reader α) : Reader (Except Fault α) :=
  tryCatch (Except.ok <$> r) fun f => pure (.error f)

def isBlank (b : UInt8) : Bool := b == 0x20 || b == 0x0A || b == 0x09 || b == 0x0D

def isDigit (b : UInt8) : Bool := 0x30 ≤ b && b ≤ 0x39

/-- The bytes after the blanks at the front, and how many blanks there were. -/
def dropBlanks : List UInt8 → List UInt8 × Nat
  | [] => ([], 0)
  | b :: rest =>
    if isBlank b then
      let (after, n) := dropBlanks rest
      (after, n + 1)
    else (b :: rest, 0)

/-- Skips blanks, then looks at the next byte. -/
def blank : Reader (Option UInt8) := do
  let s ← get
  let (rest, n) := dropBlanks s.rest
  set (⟨rest, s.index + n⟩ : Scan)
  return rest.head?

def leadingDigits (bytes : List UInt8) : List UInt8 := bytes.takeWhile isDigit

def eatMany (n : Nat) : Reader Unit :=
  modify fun s => ⟨s.rest.drop n, s.index + min n s.rest.length⟩

/-- Consumes the digits at the front and returns them. -/
def digits : Reader (List UInt8) := do
  let ds := leadingDigits (← get).rest
  eatMany ds.length
  return ds

/-- Consumes the bytes of a word, which must follow exactly. -/
def word : List UInt8 → Reader Unit
  | [] => pure ()
  | w :: ws => do
    match ← next with
    | none => failHere .eofInValue
    | some b => if b == w then word ws else failHere .expectedIdent

/-! ### Numbers -/

def digitValue (b : UInt8) : Nat := b.toNat - 0x30

/-- Digits taken into `start` while the number stays at most `limit`: the number and how many
digits were taken. -/
def accumulate (limit : Nat) : Nat → List UInt8 → Nat × Nat
  | n, [] => (n, 0)
  | n, d :: ds =>
    let m := n * 10 + digitValue d
    if limit < m then (n, 0)
    else
      let (r, k) := accumulate limit m ds
      (r, k + 1)

def maxWord : Nat := 2 ^ 64 - 1

/-- `x * 10 ^ exponent`, each step rounded: `none` when it overflows. Exponents beyond the table
of powers divide by `10 ^ 308` first, once per step, for at most `steps` steps. -/
def scaleSteps (x : Binary64) (exponent : Int) : Nat → Option Binary64
  | 0 => none
  | steps + 1 =>
    if exponent.natAbs ≤ 308 then
      if 0 ≤ exponent then x.mul? (Binary64.powerOfTen exponent.toNat)
      else x.div? (Binary64.powerOfTen exponent.natAbs)
    else if x.isZero then some x
    else if 0 ≤ exponent then none
    else
      match x.div? (Binary64.powerOfTen 308) with
      | some y => scaleSteps y (exponent + 308) steps
      | none => none

/-- `x * 10 ^ exponent`, each step rounded: `none` when it overflows. Each step brings the
exponent `308` closer to the table, so `|exponent| / 308 + 1` steps always suffice. -/
def scaleByTen (x : Binary64) (exponent : Int) : Option Binary64 :=
  scaleSteps x exponent (exponent.natAbs / 308 + 1)

/-- The value `significand * 10 ^ exponent` with a sign, refused when out of range. -/
def fromParts (positive : Bool) (significand : Nat) (exponent : Int) : Reader Binary64 :=
  match (Binary64.ofNat? significand).bind (scaleByTen · exponent) with
  | some x => pure (if positive then x else x.neg)
  | none => failHere .numberOutOfRange

/-- Adds two exponents, staying within 32 bits. -/
def addExponent (a b : Int) : Int := max (-2 ^ 31) (min (2 ^ 31 - 1) (a + b))

/-- The exponent part, after `e` or `E`, of a number with the given significand. -/
def exponentPart (positive : Bool) (significand : Nat) (start : Int) : Reader Binary64 := do
  eat
  let up ← match ← peek with
    | some 0x2B => do eat; pure true
    | some 0x2D => do eat; pure false
    | _ => pure true
  match ← next with
  | none => failHere .eofInValue
  | some first =>
    if !isDigit first then failHere .invalidNumber
    else
      let more := leadingDigits (← get).rest
      let (e, taken) := accumulate (2 ^ 31 - 1) 0 (first :: more)
      if taken == more.length + 1 then
        eatMany more.length
        fromParts positive significand (addExponent start (if up then e else -e))
      else if significand != 0 && up then
        -- the digit that overflows is consumed before the refusal
        eatMany taken
        failHere .numberOutOfRange
      else
        eatMany more.length
        pure (if positive then Binary64.zero else Binary64.zero.neg)

/-- The fraction part, after `.`, of a number with the given significand and exponent. -/
def fractionPart (positive : Bool) (significand : Nat) (exponent : Int) : Reader Binary64 := do
  eat
  let ds ← digits
  if ds.isEmpty then
    match ← peek with
    | some _ => failAtNext .invalidNumber
    | none => failAtNext .eofInValue
  else
    let (significand, taken) := accumulate maxWord significand ds
    let exponent := exponent - taken
    match ← peek with
    | some 0x65 | some 0x45 => exponentPart positive significand exponent
    | _ => fromParts positive significand exponent

/-- What follows the integer digits of a number whose significand kept all of them. -/
def afterInteger (positive : Bool) (significand : Nat) : Reader Number := do
  match ← peek with
  | some 0x2E => .float <$> fractionPart positive significand 0
  | some 0x65 | some 0x45 => .float <$> exponentPart positive significand 0
  | _ =>
    if positive then pure (.unsigned significand)
    else if 0 < significand ∧ significand ≤ 2 ^ 63 then pure (.signed (-(significand : Int)))
    else .float <$> fromParts false significand 0

/-- A number after its sign: `positive` is false when a minus sign was consumed. -/
def number (positive : Bool) : Reader Number := do
  match ← next with
  | none => failHere .eofInValue
  | some 0x30 =>
    match ← peek with
    | some b => if isDigit b then failAtNext .invalidNumber else afterInteger positive 0
    | none => afterInteger positive 0
  | some first =>
    if !isDigit first then failHere .invalidNumber
    else
      let more ← digits
      let all := first :: more
      let (significand, taken) := accumulate maxWord 0 all
      if taken == all.length then afterInteger positive significand
      else
        -- digits beyond 64 bits only scale the value
        let exponent : Int := all.length - taken
        match ← peek with
        | some 0x2E => .float <$> fractionPart positive significand exponent
        | some 0x65 | some 0x45 => .float <$> exponentPart positive significand exponent
        | _ => .float <$> fromParts positive significand exponent

/-- Checks the syntax of the exponent part of a skipped number. -/
def skipExponent : Reader Unit := do
  eat
  match ← peek with
  | some 0x2B | some 0x2D => eat
  | _ => pure ()
  match ← next with
  | some b => if isDigit b then do let _ ← digits; pure () else failHere .invalidNumber
  | none => failHere .invalidNumber

/-- Checks the syntax of a skipped number after its sign. -/
def skipNumber : Reader Unit := do
  match ← next with
  | some 0x30 =>
    match ← peek with
    | some b => if isDigit b then failAtNext .invalidNumber else pure ()
    | none => pure ()
  | some b =>
    if isDigit b then do let _ ← digits; pure ()
    else failHere .invalidNumber
  | none => failHere .invalidNumber
  match ← peek with
  | some 0x2E =>
    eat
    let ds ← digits
    if ds.isEmpty then failAtNext .invalidNumber
    else
      match ← peek with
      | some 0x65 | some 0x45 => skipExponent
      | _ => pure ()
  | some 0x65 | some 0x45 => skipExponent
  | _ => pure ()

/-! ### Strings -/

/-- The value of a hex digit of either case. -/
def hexValue (b : UInt8) : Option Nat :=
  if 0x30 ≤ b && b ≤ 0x39 then some (b.toNat - 0x30)
  else if 0x61 ≤ b && b ≤ 0x66 then some (b.toNat - 0x61 + 10)
  else if 0x41 ≤ b && b ≤ 0x46 then some (b.toNat - 0x41 + 10)
  else none

/-- The four hex digits of an escape `\uXXXX`, after the `u`. -/
def hexEscape : Reader Nat := do
  let s ← get
  match s.rest with
  | a :: b :: c :: d :: rest =>
    set (⟨rest, s.index + 4⟩ : Scan)
    match hexValue a, hexValue b, hexValue c, hexValue d with
    | some a, some b, some c, some d => pure (((a * 16 + b) * 16 + c) * 16 + d)
    | _, _, _, _ => failHere .invalidEscape
  | rest =>
    set (⟨[], s.index + rest.length⟩ : Scan)
    failHere .eofInString

/-- The UTF-8 bytes of a scalar value. -/
def scalarBytes (n : Nat) : List UInt8 := Text.Utf8.encode (String.singleton (Char.ofNat n))

/-- A `\u` escape of a string value, after the `u`: a scalar value, or a pair of surrogates
written as two escapes. -/
def unicodeEscape : Reader (List UInt8) := do
  let n ← hexEscape
  if 0xDC00 ≤ n ∧ n ≤ 0xDFFF then failHere .loneLeadingSurrogate
  else if n < 0xD800 ∨ 0xDBFF < n then pure (scalarBytes n)
  else
    match ← peek with
    | none => failHere .eofInString
    | some b =>
      eat
      if b != 0x5C then failHere .unexpectedEndOfHexEscape
      else
        match ← peek with
        | none => failHere .eofInString
        | some b =>
          eat
          if b != 0x75 then failHere .unexpectedEndOfHexEscape
          else
            let low ← hexEscape
            if low < 0xDC00 ∨ 0xDFFF < low then failHere .loneLeadingSurrogate
            else pure (scalarBytes ((((n - 0xD800) <<< 10) ||| (low - 0xDC00)) + 0x10000))

/-- An escape of a string value, after the backslash. -/
def escape : Reader (List UInt8) := do
  match ← next with
  | none => failHere .eofInString
  | some 0x22 => pure [0x22]
  | some 0x5C => pure [0x5C]
  | some 0x2F => pure [0x2F]
  | some 0x62 => pure [0x08]
  | some 0x66 => pure [0x0C]
  | some 0x6E => pure [0x0A]
  | some 0x72 => pure [0x0D]
  | some 0x74 => pure [0x09]
  | some 0x75 => unicodeEscape
  | some _ => failHere .invalidEscape

/-- The bytes of a string value up to its closing quote, for at most `fuel` steps. -/
def stringBody : Nat → List UInt8 → Reader (List UInt8)
  | 0, _ => failHere .eofInString
  | fuel + 1, acc => do
    match ← peek with
    | none => failHere .eofInString
    | some 0x22 => do eat; pure acc.reverse
    | some 0x5C => do
      eat
      let bytes ← escape
      stringBody fuel (bytes.reverse ++ acc)
    | some b =>
      eat
      if b < 0x20 then failHere .controlCharacter else stringBody fuel (b :: acc)

/-- A string value, after its opening quote. -/
def string : Reader String := do
  let fuel := (← get).rest.length + 1
  let bytes ← stringBody fuel []
  return Text.Utf8.decodeLossy bytes

/-- Checks an escape of a skipped string, after the backslash. -/
def skipEscape : Reader Unit := do
  match ← next with
  | none => failHere .eofInString
  | some b =>
    if b == 0x22 || b == 0x5C || b == 0x2F || b == 0x62 || b == 0x66 || b == 0x6E ||
        b == 0x72 || b == 0x74 then pure ()
    else if b == 0x75 then do let _ ← hexEscape; pure ()
    else failHere .invalidEscape

/-- Checks a skipped string up to its closing quote, for at most `fuel` steps. -/
def skipStringBody : Nat → Reader Unit
  | 0 => failHere .eofInString
  | fuel + 1 => do
    match ← peek with
    | none => failHere .eofInString
    | some 0x22 => eat
    | some 0x5C => do eat; skipEscape; skipStringBody fuel
    | some b => if b < 0x20 then failHere .controlCharacter else do eat; skipStringBody fuel

/-- Checks a skipped string, after its opening quote. -/
def skipString : Reader Unit := do
  skipStringBody ((← get).rest.length + 1)

/-! ### Skipping values -/

/-- After a value inside the open arrays and objects `frames` (innermost first): closes those
that end here and reads up to the next value, or finishes when all are closed. Returns the
frames still open. `fresh` says the innermost one was just opened and has no value yet. -/
def closeFrames : Nat → List UInt8 → Bool → Reader (Option (List UInt8))
  | 0, _, _ => failHere .eofInValue
  | _, [], _ => pure none
  | fuel + 1, frame :: outer, fresh => do
    let b ← blank
    let closes := (b == some 0x5D && frame == 0x5B) || (b == some 0x7D && frame == 0x7B)
    if b == some 0x2C && !fresh then
      eat
      pure (some (frame :: outer))
    else if closes then
      eat
      closeFrames fuel outer false
    else
      match b with
      | none => failAtNext (if frame == 0x5B then .eofInList else .eofInObject)
      | some _ =>
        if fresh then pure (some (frame :: outer))
        else failAtNext (if frame == 0x5B then .expectedListCommaOrEnd else .expectedObjectCommaOrEnd)

/-- Reads the key and colon of the next member of an object being skipped. -/
def skipKey : Reader Unit := do
  match ← blank with
  | some 0x22 => eat
  | some _ => failAtNext .keyMustBeString
  | none => failAtNext .eofInObject
  skipString
  match ← blank with
  | some 0x3A => eat
  | some _ => failAtNext .expectedColon
  | none => failAtNext .eofInObject

/-- Skips values inside the open frames `frames`, for at most `fuel` steps. -/
def skipFrom : Nat → List UInt8 → Reader Unit
  | 0, _ => failHere .eofInValue
  | fuel + 1, frames => do
    let opened ← match ← blank with
      | none => failAtNext .eofInValue
      | some 0x6E => do eat; word [0x75, 0x6C, 0x6C]; pure none
      | some 0x74 => do eat; word [0x72, 0x75, 0x65]; pure none
      | some 0x66 => do eat; word [0x61, 0x6C, 0x73, 0x65]; pure none
      | some 0x2D => do eat; skipNumber; pure none
      | some 0x22 => do eat; skipString; pure none
      | some b =>
        if isDigit b then do skipNumber; pure none
        else if b == 0x5B || b == 0x7B then do eat; pure (some b)
        else failAtNext .expectedValue
    let open? ← match opened with
      | some frame => closeFrames fuel (frame :: frames) true
      | none => closeFrames fuel frames false
    match open? with
    | none => pure ()
    | some [] => pure ()
    | some (frame :: outer) =>
      if frame == 0x7B then skipKey
      skipFrom fuel (frame :: outer)

/-- Skips one value, checking its syntax only. -/
def skipValue : Reader Unit := do
  skipFrom (2 * (← get).rest.length + 2) []

end Reader

end AssetStore.Json
