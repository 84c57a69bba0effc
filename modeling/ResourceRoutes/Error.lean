/-!
# Errors

Every way a router operation can fail, as a cause with its data. Each has one text
(`RouterError.message`), and maps to an HTTP status and a short code for clients
(`RouterError.status`, `RouterError.code`).
-/

namespace ResourceRoutes

/-- Why router options could not be used. -/
inductive ConfigError where
  /-- The options text could not be read. -/
  | load (detail : String)
  /-- The options break a rule. -/
  | validation (detail : String)
  deriving Repr, DecidableEq

/-- The text of a configuration error. -/
def ConfigError.message : ConfigError → String
  | .load d => "config load: " ++ d
  | .validation d => "validation: " ++ d

/-- The name of a configuration error's kind. -/
def ConfigError.kind : ConfigError → String
  | .load _ => "Load"
  | .validation _ => "Validation"

/-- Why a router operation failed. -/
inductive RouterError where
  | config (e : ConfigError)
  /-- A second child of the same name was attached under one parent. -/
  | duplicateChild (parent name : String)
  /-- Two routes of the tree have one canonical name. -/
  | duplicateRoute (name : String)
  | missingController (name : String)
  /-- A controller class refused its arguments. -/
  | controllerConstruction (name detail : String)
  | unknownRoute (name : String)
  | missingParam (route param : String)
  /-- A host refused a route that collides with one it already has. -/
  | routeConflict (method path : String)
  /-- The tree changed after the last build. -/
  | notBuilt
  deriving Repr, DecidableEq

namespace RouterError

/-- The text of an error. -/
def message : RouterError → String
  | .config e => e.message
  | .duplicateChild p n => "duplicate resource name found under '" ++ p ++ "': " ++ n
  | .duplicateRoute n => "duplicate route name: " ++ n
  | .missingController n => "missing controller " ++ n
  | .controllerConstruction n d => "controller " ++ n ++ " could not be constructed: " ++ d
  | .unknownRoute n => "unknown route: " ++ n
  | .missingParam r p => "route " ++ r ++ " requires parameter '" ++ p ++ "'"
  | .routeConflict m p => "conflicting registration: " ++ m ++ " " ++ p
  | .notBuilt => "router was modified after its last build"

/-- The HTTP status an error answers with. -/
def status : RouterError → Nat
  | .unknownRoute _ => 404
  | .missingParam _ _ => 400
  | .routeConflict _ _ => 409
  | _ => 500

/-- The short code an error answers with. -/
def code : RouterError → String
  | .config _ | .notBuilt => "config_error"
  | .duplicateChild _ _ | .duplicateRoute _ => "duplicate_name"
  | .missingController _ | .controllerConstruction _ _ => "controller_error"
  | .unknownRoute _ => "not_found"
  | .missingParam _ _ => "bad_request"
  | .routeConflict _ _ => "conflict"

/-- The name of an error's kind. -/
def kind : RouterError → String
  | .config _ => "Config"
  | .duplicateChild _ _ => "DuplicateChild"
  | .duplicateRoute _ => "DuplicateRoute"
  | .missingController _ => "MissingController"
  | .controllerConstruction _ _ => "ControllerConstruction"
  | .unknownRoute _ => "UnknownRoute"
  | .missingParam _ _ => "MissingParam"
  | .routeConflict _ _ => "RouteConflict"
  | .notBuilt => "NotBuilt"

end RouterError

end ResourceRoutes
