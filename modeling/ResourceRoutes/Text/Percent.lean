/-!
# Percent-encoding of a path segment

A value placed into one path segment is written as its UTF-8 bytes, each byte that could end or
change the segment as `%` and two uppercase hex digits: the control bytes `0x00–0x1F` and
`0x7F`, space, `"`, `#`, `%`, `/`, `<`, `>`, `?`, the backquote, both braces, and every byte of
`0x80` or more. Other bytes stand as themselves.
-/

namespace ResourceRoutes.Text

/-- The bytes that are encoded. -/
def mustEncode (b : UInt8) : Bool :=
  b < 0x20 || b ≥ 0x7F || b == 0x20 || b == 0x22 || b == 0x23 || b == 0x25 || b == 0x2F ||
    b == 0x3C || b == 0x3E || b == 0x3F || b == 0x60 || b == 0x7B || b == 0x7D

/-- An uppercase hex digit. -/
def hexUpper (n : Nat) : Char :=
  if n < 10 then Char.ofNat (48 + n) else Char.ofNat (55 + n)

/-- The text of one byte in a segment. -/
def encodeByte (b : UInt8) : List Char :=
  if mustEncode b then ['%', hexUpper (b.toNat / 16), hexUpper (b.toNat % 16)]
  else [Char.ofNat b.toNat]

/-- A value encoded for one path segment. -/
def encodeSegment (s : String) : String :=
  String.ofList (s.toUTF8.toList.flatMap encodeByte)

end ResourceRoutes.Text
