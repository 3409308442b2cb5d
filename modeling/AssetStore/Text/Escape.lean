import AssetStore.Text.GraphemeExtend
import AssetStore.Text.Printable
/-!
# Quoted characters and strings

The debugging form of a character or a string (paths included): the text in quotes, with the
quote, the backslash, the common control characters and the characters that do not show as
they are written as escapes. Tab, carriage return, line feed and NUL have short escapes (`\t`, `\r`,
`\n`, `\0`); a character that does not print (`Text.Printable`) or that extends the one before
it (`Text.GraphemeExtend`) is written `\u{h}` with the lowest number of lowercase hex digits.

A quoted character escapes the single quote and not the double one; a quoted string the
double quote and not the single one.
-/

namespace AssetStore.Text.Escape

/-- Whether a character is written as it is in quoted text. -/
def prints (c : Char) : Bool :=
  Printable.isPrintable c && !GraphemeExtend.isExtending c

/-- The escape `\u{h}` of a character. -/
def unicodeEscape (c : Char) : String :=
  "\\u\x7b" ++ String.ofList (hexDigits c.toNat) ++ "\x7d"
where
  /-- Lowercase hex digits without leading zeros. -/
  hexDigits (n : Nat) : List Char :=
    let d (k : Nat) : Char := if k < 10 then Char.ofNat (48 + k) else Char.ofNat (87 + k)
    if n < 16 then [d n] else hexDigits (n / 16) ++ [d (n % 16)]
  termination_by n
  decreasing_by omega

/-- One character inside quotes; `quotes` are the quotes that must be escaped. -/
def inner (quotes : List Char) (c : Char) : String :=
  if c == '\t' then "\\t"
  else if c == '\r' then "\\r"
  else if c == '\n' then "\\n"
  else if c == '\\' then "\\\\"
  else if quotes.contains c then "\\" ++ c.toString
  else if c.toNat == 0 then "\\0"
  else if prints c then c.toString
  else unicodeEscape c

/-- A character in single quotes. -/
def char (c : Char) : String :=
  "'" ++ inner ['\''] c ++ "'"

/-- A string in double quotes. -/
def string (s : String) : String :=
  "\"" ++ String.join (s.toList.map (inner ['"'])) ++ "\""

end AssetStore.Text.Escape
