import AssetStore.Error
import AssetStore.Text.Blank
import AssetStore.Text.Escape
import AssetStore.Text.Hex
import AssetStore.Text.Utf8
import AssetStore.Hash.Md5
/-!
# Keys

A key names stored content: a content checksum, a file key, or a prefix of one. It is a
non-empty byte string, written as lowercase hex. Keys are read from hex text after trimming
blanks at both ends; a refused text is quoted untrimmed in the error.

* `Key.ofBytes?` — a key from bytes, `none` for no bytes.
* `Key.parseHex` — a key from hex text, with the store's error texts.
* `Key.content` — the MD5 checksum of some content, as a key.
* `Key.trim n` — the first `n` bytes, or the whole key when `n` is zero or not below its length.
-/

namespace AssetStore

/-- A non-empty byte string naming stored content. -/
structure Key where
  bytes : List UInt8
  nonempty : bytes ≠ []
  deriving DecidableEq

namespace Key

/-- A key from bytes; there is none for no bytes. -/
def ofBytes? : List UInt8 → Option Key
  | [] => none
  | b :: bs => some ⟨b :: bs, List.cons_ne_nil b bs⟩

/-- The first `n` bytes of `bytes` as a key, when there are that many and `n` is positive. -/
def prefixOf (bytes : List UInt8) (n : Nat) (h : 0 < n ∧ n ≤ bytes.length) : Key :=
  ⟨bytes.take n, by
    intro hnil
    have hlength := congrArg List.length hnil
    rw [List.length_take] at hlength
    simp only [List.length_nil] at hlength
    omega⟩

def emptyText : String := "checksum key must not be empty"

/-- A key from bytes, refusing no bytes as an invalid argument. -/
def ofBytes (bytes : List UInt8) : Except Error Key :=
  match ofBytes? bytes with
  | some k => .ok k
  | none => .error (.invalidArgument emptyText)

def length (k : Key) : Nat := k.bytes.length

def hex (k : Key) : String := Text.Hex.encode k.bytes

def debugText (k : Key) : String := s!"ChecksumKey({k.hex})"

def hexErrorText : Text.Hex.DecodeError → String
  | .oddLength => "Odd number of digits"
  | .invalidCharacter value position =>
    s!"Invalid character {Text.Escape.char (Char.ofNat value.toNat)} at position {position}"

/-- A key from hex text: blanks at both ends are trimmed, the rest must be hex of at least one
byte. -/
def parseHex (text : String) : Except Error Key :=
  match Text.Hex.decode (Text.Utf8.encode (Text.Blank.trim text)) with
  | .error e => .error (.invalidArgument s!"invalid checksum hex '{text}': {hexErrorText e}")
  | .ok bytes => ofBytes bytes

/-- The MD5 checksum of some content, as a key. -/
def content (bytes : List UInt8) : Key :=
  ⟨Hash.Md5.digest bytes, by
    intro h
    have := congrArg List.length h
    rw [Hash.Md5.length_digest] at this
    simp at this⟩

/-- The first `n` bytes; the whole key when `n` is zero or not below the length. -/
def trim (k : Key) (n : Nat) : Key :=
  if h : n = 0 ∨ k.length ≤ n then k
  else ⟨k.bytes.take n, by
    intro hnil
    rcases List.take_eq_nil_iff.mp hnil with hzero | hbytes
    · exact h (Or.inl hzero)
    · exact k.nonempty hbytes⟩

end Key

end AssetStore
