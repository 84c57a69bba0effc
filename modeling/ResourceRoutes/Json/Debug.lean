import ResourceRoutes.Json.Render
import ResourceRoutes.Text.Debug

/-!
# JSON documents in debug notation

`Null`, `Bool(true)`, `Number(1.5)`, `String("x")`, `Array [..]` and `Object {"k": ..}` with
members in key order. Numbers are written as in JSON text.
-/

namespace ResourceRoutes.Json

mutual

/-- A document in debug notation. -/
def debug : Json → String
  | .null => "Null"
  | .bool b => "Bool(" ++ Debug.bool b ++ ")"
  | .num n => "Number(" ++ numberText n ++ ")"
  | .str s => "String(" ++ Debug.str s ++ ")"
  | .arr items => "Array [" ++ debugItems items ++ "]"
  | .obj fields => "Object \x7b" ++ debugFields fields ++ "\x7d"

/-- Items in debug notation, separated by `, `. -/
def debugItems : List Json → String
  | [] => ""
  | [x] => debug x
  | x :: rest => debug x ++ ", " ++ debugItems rest

/-- Members in debug notation, separated by `, `. -/
def debugFields : List (String × Json) → String
  | [] => ""
  | [(k, v)] => Debug.str k ++ ": " ++ debug v
  | (k, v) :: rest => Debug.str k ++ ": " ++ debug v ++ ", " ++ debugFields rest

end

end ResourceRoutes.Json
