import ResourceRoutes.Json.Debug

/-!
# Authentication requirements

A node may require authentication for the routes below it. The requirement is a flag (`false`
turns authentication off for the subtree), the name of a strategy, or any other configuration
document. Read from JSON, a boolean is a flag, a string a strategy, and everything else
(including `null`) a configuration.
-/

namespace ResourceRoutes

/-- An authentication requirement forwarded to the host. -/
inductive Auth where
  | flag (on : Bool)
  | strategy (name : String)
  | config (value : Json)

namespace Auth

/-- A requirement from a JSON value: boolean, string, or anything else as configuration. -/
def ofJson : Json → Auth
  | .bool b => .flag b
  | .str s => .strategy s
  | v => .config v

/-- The JSON value the requirement is forwarded as. -/
def toJson : Auth → Json
  | .flag b => .bool b
  | .strategy s => .str s
  | .config v => v

/-- The name of the requirement's form. -/
def kindName : Auth → String
  | .flag _ => "flag"
  | .strategy _ => "strategy"
  | .config _ => "config"

/-- Debug notation: `Flag(false)`, `Strategy("s")` or `Config(..)` with the document. -/
def debug : Auth → String
  | .flag b => "Flag(" ++ Debug.bool b ++ ")"
  | .strategy s => "Strategy(" ++ Debug.str s ++ ")"
  | .config v => "Config(" ++ v.debug ++ ")"

end Auth

end ResourceRoutes
