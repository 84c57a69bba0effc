import ResourceRoutes.Json.Basic
import ResourceRoutes.Decimal.Layout
import ResourceRoutes.Text.Quoted

/-!
# Values of the wrong type

A reader that expects one kind of value and finds another says what it found and what it
expected: `invalid type: integer `5`, expected a string`. A double is quoted as documents write
it: positionally with a point from `1e-5` up to below `1e16` (`1.5`, `1000.0`), in scientific
form outside that range (`1e-6`, `1.5e+16`).
-/

namespace ResourceRoutes.Json

/-- A double as quoted in a diagnostic: in the layout of documents. -/
def floatQuoted (x : Float) : String := Decimal.Layout.document.render x

/-- What a found value was, for a diagnostic. -/
def unexpected : Json → String
  | .null => "null"
  | .bool b => "boolean `" ++ (if b then "true" else "false") ++ "`"
  | .num (.int i) => "integer `" ++ toString i ++ "`"
  | .num (.float x) => "floating point `" ++ floatQuoted x ++ "`"
  | .str s => "string " ++ Text.quote s
  | .arr _ => "sequence"
  | .obj _ => "map"

/-- The diagnostic for a value of the wrong type. -/
def invalidType (found : Json) (expected : String) : String :=
  "invalid type: " ++ unexpected found ++ ", expected " ++ expected

end ResourceRoutes.Json
