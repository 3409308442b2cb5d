import AssetStore.Prelude
/-!
# UTF-8 bytes and lossy reading

Reading bytes as UTF-8 text where every ill-formed sequence becomes one replacement character
U+FFFD. A sequence is cut at its longest prefix that could still begin a well-formed character
(the "maximal subpart" rule of the Unicode standard): a lead byte with valid continuation bytes
that ends too early gives one replacement character for all of them, and a byte that cannot
start or continue such a prefix gives one of its own.

* `decodeLossy bytes` — the text, with replacement characters.
* `decode? bytes` — the text, or `none` when any sequence is ill-formed.
-/

namespace AssetStore.Text.Utf8

/-- Whether a byte is a continuation byte `10xxxxxx`. -/
def isContinuation (b : UInt8) : Bool :=
  0x80 ≤ b && b ≤ 0xBF

/-- The accepted range of the second byte after a lead byte of a multi-byte character. -/
def secondInRange (lead b : UInt8) : Bool :=
  if lead == 0xE0 then 0xA0 ≤ b && b ≤ 0xBF
  else if lead == 0xED then 0x80 ≤ b && b ≤ 0x9F
  else if lead == 0xF0 then 0x90 ≤ b && b ≤ 0xBF
  else if lead == 0xF4 then 0x80 ≤ b && b ≤ 0x8F
  else isContinuation b

/-- The number of bytes of the character that a lead byte opens, or zero for a byte that
cannot open one. -/
def width (lead : UInt8) : Nat :=
  if lead < 0x80 then 1
  else if 0xC2 ≤ lead && lead ≤ 0xDF then 2
  else if 0xE0 ≤ lead && lead ≤ 0xEF then 3
  else if 0xF0 ≤ lead && lead ≤ 0xF4 then 4
  else 0

/-- The code point of a well-formed sequence of one to four bytes. -/
def codePoint (lead : UInt8) (rest : List UInt8) : Nat :=
  let w := width lead
  let leadBits := if w = 1 then lead.toNat else if w = 2 then lead.toNat % 32
    else if w = 3 then lead.toNat % 16 else lead.toNat % 8
  rest.foldl (fun acc b => acc * 64 + b.toNat % 64) leadBits

/-- One step of reading: the character read (or `none` for a replacement) and the bytes
consumed, at least one. -/
def next (lead : UInt8) (rest : List UInt8) : Option Nat × Nat :=
  match width lead with
  | 1 => (some lead.toNat, 1)
  | 2 =>
    match rest with
    | b1 :: _ => if isContinuation b1 then (some (codePoint lead [b1]), 2) else (none, 1)
    | [] => (none, 1)
  | 3 =>
    match rest with
    | b1 :: rest1 =>
      if secondInRange lead b1 then
        match rest1 with
        | b2 :: _ => if isContinuation b2 then (some (codePoint lead [b1, b2]), 3) else (none, 2)
        | [] => (none, 2)
      else (none, 1)
    | [] => (none, 1)
  | 4 =>
    match rest with
    | b1 :: rest1 =>
      if secondInRange lead b1 then
        match rest1 with
        | b2 :: rest2 =>
          if isContinuation b2 then
            match rest2 with
            | b3 :: _ =>
              if isContinuation b3 then (some (codePoint lead [b1, b2, b3]), 4) else (none, 3)
            | [] => (none, 3)
          else (none, 2)
        | [] => (none, 2)
      else (none, 1)
    | [] => (none, 1)
  | _ => (none, 1)

/-- Each step of reading consumes at least one byte: every case of `next` ends in a count of one
to four. -/
theorem next_snd_pos (lead : UInt8) (rest : List UInt8) : 0 < (next lead rest).2 := by
  fun_cases next lead rest <;> exact Nat.zero_lt_succ _

/-- The characters read, `none` standing for a replacement. -/
def scan : List UInt8 → List (Option Nat)
  | [] => []
  | lead :: rest => (next lead rest).1 :: scan ((lead :: rest).drop (next lead rest).2)
termination_by bytes => bytes.length
decreasing_by
  have := next_snd_pos lead rest
  simp only [List.length_drop, List.length_cons]
  omega

/-- Bytes read as text, each ill-formed sequence becoming U+FFFD. -/
def decodeLossy (bytes : List UInt8) : String :=
  String.ofList ((scan bytes).map fun c => Char.ofNat (c.getD 0xFFFD))

/-- Bytes read as text, or `none` when any sequence is ill-formed. -/
def decode? (bytes : List UInt8) : Option String :=
  ((scan bytes).mapM id).map fun cs => String.ofList (cs.map Char.ofNat)

/-- The UTF-8 bytes of a text. -/
def encode (s : String) : List UInt8 :=
  s.toUTF8.toList

end AssetStore.Text.Utf8
