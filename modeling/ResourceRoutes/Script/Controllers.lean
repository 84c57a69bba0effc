import ResourceRoutes.Script.Field
import ResourceRoutes.Controller.Basic

/-!
# Controllers described in a script

A script describes each controller by its kind and its parts:

* `instance` (the default kind): a controller with actions, hooks and an optional record of
  validators; its label defaults to its name in the map.
* `class`: builds such controllers from arguments, unless it is set to fail or is given too
  few; it has a class-level record and the record of the instances it builds.
* `plain` and `plain_class`: a controller, or a class of controllers, with actions only.

A record names a validator per slot: `{"by_action": {action: schema}}` or
`{"computed": {"extra": any, "except": [action]}}`. A kind that is no string reads as
`instance`, a minimum argument count that is no natural number as none, and a record or a
`computed` part that is no object as naming nothing; labels, failures, actions and exceptions
must have their forms when given. A plain controller's record is not read.
-/

namespace ResourceRoutes.Script

/-- A validator: `by_action` wins when present, and must be an object. -/
def readValidator (v : Json) : Except String Validator :=
  match v.get? "by_action" with
  | some (.obj table) => .ok (.byAction table)
  | some _ => .error "by_action must be an object"
  | none =>
    match v.get? "computed" with
    | some c => return .computed (anyField c "extra") (← stringList c "except")
    | none => .error "validator must have by_action or computed"

/-- The validator of a slot, if the record names one. -/
def readSlot (r : Json) (s : Slot) : Except String (Option Validator) :=
  match r.get? s.name with
  | none | some .null => .ok none
  | some v => return some (← readValidator v)

/-- A record of validators; a record that is no object names none. -/
def readRecord (r : Json) : Except String ValidatorRecord := do
  return ⟨← readSlot r .params, ← readSlot r .query, ← readSlot r .response, ← readSlot r .payload⟩

/-- An optional record field. -/
def optRecord (o : Json) (k : String) : Except String (Option ValidatorRecord) :=
  match o.get? k with
  | none | some .null => .ok none
  | some r => return some (← readRecord r)

/-- Hook answers by name. -/
def readHooks (o : Json) : Except String (List (String × Bool)) :=
  match o.get? "hooks" with
  | none | some .null => .ok []
  | some (.obj fs) => fs.mapM fun
    | (k, .bool b) => .ok (k, b)
    | _ => .error "hooks must map names to booleans"
  | _ => .error "hooks must be an object"

/-- A controller instance: a plain one, or one with hooks and a record. -/
def readInstance (o : Json) (label : String) (plain : Bool) : Except String Controller := do
  let label := (← optStr o "label").getD label
  let actions ← stringList o "actions"
  if plain then return ⟨label, actions, [], none, none, false⟩
  return ⟨label, actions, ← readHooks o, ← optRecord o "validate", none, true⟩

/-- The minimum argument count of a class: a natural number below `2^64`, else none. -/
def readMinArgs (o : Json) : Int :=
  match o.get? "min_args" with
  | some (.num (.int i)) => if 0 ≤ i ∧ i < Int.pow 2 64 then i else 0
  | _ => 0

/-- A class of controllers. -/
def readClass (o : Json) (label : String) (plain : Bool) : Except String ControllerClass := do
  let label := (← optStr o "label").getD label
  let actions ← stringList o "actions"
  let failure ← optStr o "fail"
  if plain then return ⟨label, actions, [], none, none, failure, readMinArgs o, true⟩
  return ⟨label, actions, ← readHooks o, ← optRecord o "validate", ← optRecord o "instance_validate",
    failure, readMinArgs o, false⟩

/-- A map entry, by its kind (`instance` unless named by a string). -/
def readEntry (name : String) (o : Json) : Except String ControllerEntry := do
  match textOr o "kind" "instance" with
  | "instance" => return .instance (← readInstance o name false)
  | "plain" => return .instance (← readInstance o name true)
  | "class" => return .class (← readClass o name false)
  | "plain_class" => return .class (← readClass o name true)
  | other => throw ("unknown controller kind '" ++ other ++ "'")

/-- A controller map from an object of entries; a missing map is empty. -/
def readControllers (v : Option Json) : Except String ControllerMap :=
  match v with
  | none | some .null => .ok ControllerMap.empty
  | some (.obj fs) => fs.foldlM (fun m (k, e) => return m.insert k (← readEntry k e)) ControllerMap.empty
  | some _ => .error "controllers must be an object"

/-- Where a map comes from: `map` (the default, also when the source is no string), or
`loader`, which fails with a missing controller named by `loader_error` when that is given. -/
def readSource (o : Json) (map : ControllerMap) : Except String ControllerSource := do
  match textOr o "source" "map" with
  | "map" => return .map map
  | "loader" =>
    match ← optStr o "loader_error" with
    | some e => return .loader (.error (.missingController e))
    | none => return .loader (.ok map)
  | other => throw ("unknown source '" ++ other ++ "'")

/-- A designation: a name, `{instance: controller}` (whatever else the object holds), or
`{name, args}`. -/
def readDesignation (v : Json) : Except String Designation :=
  match v with
  | .str s => .ok (.named s [])
  | _ =>
    match v.get? "instance" with
    | some c => do
      let plain := c.get? "kind" matches some (.str "plain")
      return .instance (← readInstance c "inline" plain)
    | none => return .named (← needStr v "name") (← listOf v "args")

end ResourceRoutes.Script
