import ResourceRoutes.Text.Quoted

/-!
# Debug notation

The notation values are shown in: `Name { field: value, .. }` records, `Name(value)` tuples,
`[a, b]` lists, `Some(x)` and `None` for optional values, and quoted texts. The builders here
take the already written parts and only add the punctuation.
-/

namespace ResourceRoutes.Debug

/-- Items separated by `, `. -/
def joinComma : List String → String
  | [] => ""
  | [x] => x
  | x :: rest => x ++ ", " ++ joinComma rest

/-- A record `Name { a: x, b: y }`; an open record ends in `..` for the fields not shown. -/
def recordWith (name : String) (fields : List (String × String)) (isOpen : Bool) : String :=
  let parts := fields.map (fun (k, v) => k ++ ": " ++ v)
  let parts := if isOpen then parts ++ [".."] else parts
  if parts.isEmpty then name else name ++ " \x7b " ++ joinComma parts ++ " \x7d"

/-- A record showing all its fields. -/
def record (name : String) (fields : List (String × String)) : String :=
  recordWith name fields false

/-- A record showing some of its fields, ending in `..`. -/
def openRecord (name : String) (fields : List (String × String)) : String :=
  recordWith name fields true

/-- A tuple: `Name(x)`. -/
def tuple (name : String) (items : List String) : String :=
  name ++ "(" ++ joinComma items ++ ")"

/-- A list: `[a, b]`. -/
def list (items : List String) : String := "[" ++ joinComma items ++ "]"

/-- An optional value: `Some(x)` or `None`. -/
def option : Option String → String
  | some x => "Some(" ++ x ++ ")"
  | none => "None"

/-- A quoted text. -/
def str (s : String) : String := Text.quote s

/-- A truth value. -/
def bool (b : Bool) : String := if b then "true" else "false"

/-- A map: `{k: v, …}` with the keys already written. -/
def map (entries : List (String × String)) : String :=
  "\x7b" ++ joinComma (entries.map (fun (k, v) => k ++ ": " ++ v)) ++ "\x7d"

end ResourceRoutes.Debug
