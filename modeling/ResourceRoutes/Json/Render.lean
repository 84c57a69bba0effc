import ResourceRoutes.Json.Basic
import ResourceRoutes.Decimal.Layout

/-!
# Writing JSON text

`Json.render` writes a document compactly: no blanks, members in key order, integers in
decimal, doubles in the document layout (`1.5`, `100.0`, `1e+300`). In strings a quote and a
backslash are escaped, the control characters get `\b`, `\t`, `\n`, `\f`, `\r` or a `\u00xx`
escape, and every other character stands as itself.
-/

namespace ResourceRoutes.Json

/-- Two lowercase hex digits of a byte. -/
def hexByte (n : Nat) : String :=
  let d (k : Nat) : Char := if k < 10 then Char.ofNat (48 + k) else Char.ofNat (87 + k)
  String.ofList [d (n / 16 % 16), d (n % 16)]

/-- One character inside a JSON string. -/
def escapeChar (c : Char) : String :=
  if c = '"' then "\\\""
  else if c = '\\' then "\\\\"
  else if c = '\n' then "\\n"
  else if c = '\r' then "\\r"
  else if c = '\t' then "\\t"
  else if c.toNat = 8 then "\\b"
  else if c.toNat = 12 then "\\f"
  else if c.toNat < 32 then "\\u00" ++ hexByte c.toNat
  else c.toString

/-- A JSON string literal. -/
def quote (s : String) : String := "\"" ++ String.join (s.toList.map escapeChar) ++ "\""

/-- The text of a number. -/
def numberText : Number → String
  | .int i => toString i
  | .float x => Decimal.Layout.document.render x

mutual

/-- A document as compact JSON text. -/
def render : Json → String
  | .null => "null"
  | .bool true => "true"
  | .bool false => "false"
  | .num n => numberText n
  | .str s => quote s
  | .arr items => "[" ++ renderItems items ++ "]"
  | .obj fields => "\x7b" ++ renderFields fields ++ "\x7d"

/-- Array items separated by commas. -/
def renderItems : List Json → String
  | [] => ""
  | [x] => render x
  | x :: rest => render x ++ "," ++ renderItems rest

/-- Object members separated by commas. -/
def renderFields : List (String × Json) → String
  | [] => ""
  | [(k, v)] => quote k ++ ":" ++ render v
  | (k, v) :: rest => quote k ++ ":" ++ render v ++ "," ++ renderFields rest

end

end ResourceRoutes.Json
