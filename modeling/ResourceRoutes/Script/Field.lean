import ResourceRoutes.Json.Basic

/-!
# Reading the fields of a script object

A script is JSON: each statement, step and request is an object whose fields are read by name.
A strict reader either yields the field's value or the text of the complaint, which names the
field and what it must be; a forgiving reader (`textOr`) reads a value of the wrong form as
the field's default.
-/

namespace ResourceRoutes.Script

/-- The complaint about a field of the wrong form. -/
def fieldMust (k what : String) : String := "field '" ++ k ++ "' must be " ++ what

/-- A field that must be a string. -/
def needStr (o : Json) (k : String) : Except String String :=
  match o.get? k with
  | some (.str s) => .ok s
  | _ => .error (fieldMust k "a string")

/-- A field that may be a string; missing or null reads as absent. -/
def optStr (o : Json) (k : String) : Except String (Option String) :=
  match o.get? k with
  | none | some .null => .ok none
  | some (.str s) => .ok (some s)
  | _ => .error (fieldMust k "a string")

/-- A string field with a default for anything but a string. -/
def textOr (o : Json) (k : String) (d : String) : String := ((o.get? k).bind Json.getStr?).getD d

/-- A field that may be a list of strings; missing or null reads as empty. -/
def stringList (o : Json) (k : String) : Except String (List String) :=
  match o.get? k with
  | none | some .null => .ok []
  | some (.arr xs) => xs.mapM fun x => match x with
    | .str s => .ok s
    | _ => .error (k ++ " must list strings")
  | some _ => .error (fieldMust k "a list")

/-- A field that may be a list; missing or null reads as empty. -/
def listOf (o : Json) (k : String) : Except String (List Json) :=
  match o.get? k with
  | none | some .null => .ok []
  | some (.arr xs) => .ok xs
  | _ => .error (fieldMust k "a list")

/-- The strings of a field that may be a list, other items left out; missing or null reads as
empty. -/
def someStrings (o : Json) (k : String) : Except String (List String) :=
  return (← listOf o k).filterMap Json.getStr?

/-- A flag: set only by `true`. -/
def flag (o : Json) (k : String) : Bool :=
  match o.get? k with
  | some (.bool true) => true
  | _ => false

/-- A field read as any document; missing reads as null. -/
def anyField (o : Json) (k : String) : Json := (o.get? k).getD .null

end ResourceRoutes.Script
