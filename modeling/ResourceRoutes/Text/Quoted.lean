import ResourceRoutes.Text.Printable

/-!
# Quoted text in debug notation

Debug notation shows a text between double quotes. A quote, a backslash, NUL, tab, line feed
and carriage return get a backslash escape; every other character that is not printable, or that
extends the grapheme before it, is written `\u{hex}` with lowercase hex digits and no leading
zeros; everything else stands as itself.
-/

namespace ResourceRoutes.Text

/-- Lowercase hexadecimal digits of a number, without leading zeros. -/
def hexLower (n : Nat) : String :=
  String.ofList (Nat.toDigits 16 n)

/-- The escape of one character inside a quoted text. -/
def escapeChar (c : Char) : String :=
  if c = '"' then "\\\""
  else if c = '\\' then "\\\\"
  else if c = '\n' then "\\n"
  else if c = '\r' then "\\r"
  else if c = '\t' then "\\t"
  else if c.toNat = 0 then "\\0"
  else if isGraphemeExtend c || !isPrintable c then "\\u\x7b" ++ hexLower c.toNat ++ "\x7d"
  else c.toString

/-- A text in double quotes with the escapes of debug notation. -/
def quote (s : String) : String :=
  "\"" ++ String.join (s.toList.map escapeChar) ++ "\""

end ResourceRoutes.Text
