import ResourceRoutes.Json.Debug

/-!
# Validators

A route validates four parts of a request and response: path parameters, query, response and
payload (the slots). A controller may offer a record with a validator per slot. A validator is a
table from action names to schemas, or a computed one: for every action not excluded it gives
the schema `{"computed": extra, "action": name}`.
-/

namespace ResourceRoutes

/-- The four validated parts. -/
inductive Slot where
  | params
  | query
  | response
  | payload
  deriving Repr, DecidableEq, BEq

namespace Slot

/-- All slots, in their fixed order. -/
def all : List Slot := [.params, .query, .response, .payload]

/-- The slot's name. -/
def name : Slot → String
  | .params => "params"
  | .query => "query"
  | .response => "response"
  | .payload => "payload"

/-- The slot with this name. -/
def ofName? : String → Option Slot
  | "params" => some .params
  | "query" => some .query
  | "response" => some .response
  | "payload" => some .payload
  | _ => none

end Slot

/-- A validator of one slot. -/
inductive Validator where
  /-- A schema per action name. -/
  | byAction (table : List (String × Json))
  /-- `{"computed": extra, "action": name}` for every action not listed in `except`. -/
  | computed (extra : Json) (except : List String)

namespace Validator

/-- The schema for an action. -/
def schemaFor : Validator → String → Option Json
  | .byAction table, a => (table.find? (·.1 == a)).map (·.2)
  | .computed extra except, a =>
    if except.contains a then none
    else some (Json.object [("computed", extra), ("action", .str a)])

/-- Debug notation; `none` when a table of two or more entries has no fixed order to show. -/
def debug? : Validator → Option String
  | .byAction [] => some "ByAction(\x7b\x7d)"
  | .byAction [(k, v)] => some ("ByAction(\x7b" ++ Debug.str k ++ ": Schema(" ++ v.debug ++ ")\x7d)")
  | .byAction _ => none
  | .computed _ _ => some "Computed(..)"

end Validator

/-- A controller's validators, one optional validator per slot. -/
structure ValidatorRecord where
  params : Option Validator
  query : Option Validator
  response : Option Validator
  payload : Option Validator

namespace ValidatorRecord

/-- The validator of a slot. -/
def slot (r : ValidatorRecord) : Slot → Option Validator
  | .params => r.params
  | .query => r.query
  | .response => r.response
  | .payload => r.payload

/-- Debug notation; `none` when a table in it has no fixed order to show. -/
def debug? (r : ValidatorRecord) : Option String := do
  let shown (v : Option Validator) : Option String :=
    match v with
    | none => some "None"
    | some x => x.debug?.map fun t => "Some(" ++ t ++ ")"
  let p ← shown r.params
  let q ← shown r.query
  let s ← shown r.response
  let y ← shown r.payload
  pure (Debug.record "Validate" [("params", p), ("query", q), ("response", s), ("payload", y)])

end ValidatorRecord

end ResourceRoutes
