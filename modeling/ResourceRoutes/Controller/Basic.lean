import ResourceRoutes.Controller.Validator
import ResourceRoutes.Error

/-!
# Controllers

A controller provides handlers for actions, hooks for subscriptions, and optionally a
validator record. Controllers come as ready instances or as classes built per use from
arguments; a map names them.

* `Handler`: what answers a request, identified by the controller's label, the action and, for
  an instance built by a class, the arguments it was built with; or a handler given directly.
* `ControllerClass.construct`: a class refuses with its configured failure, or when given fewer
  arguments than it needs; otherwise it builds an instance with the class's actions and hooks.
* `Resolved.record`: a resolved controller's validators are the instance's record if it has
  one, else its class's.
-/

namespace ResourceRoutes

/-- What answers a request. -/
inductive Handler where
  /-- The action `name` of the controller labelled `controller`; `args` when a class built it. -/
  | action (controller : String) (name : String) (args : Option (List Json))
  /-- A handler given directly, by its label (any document). -/
  | direct (label : Json)

namespace Handler

/-- The identity of a handler as a document. -/
def ident : Handler → Json
  | .action c a none => Json.object [("controller", .str c), ("action", .str a)]
  | .action c a (some args) =>
    Json.object [("controller", .str c), ("action", .str a), ("args", .arr args)]
  | .direct l => Json.object [("direct", l)]

end Handler

/-- A controller instance. -/
structure Controller where
  label : String
  actions : List String
  /-- Hooks by name, each with the answer it gives. -/
  hooks : List (String × Bool)
  record : Option ValidatorRecord
  /-- The arguments a class built this instance with. -/
  args : Option (List Json)
  /-- An instance with its own table of actions and hooks (shown in debug notation); a plain
  controller only answers actions. -/
  isObject : Bool

namespace Controller

/-- Whether the controller has an action of this name. -/
def hasAction (c : Controller) (name : String) : Bool := c.actions.contains name

/-- The handler of an action. -/
def action? (c : Controller) (name : String) : Option Handler :=
  if c.hasAction name then some (.action c.label name c.args) else none

/-- The answer of a hook. -/
def hook? (c : Controller) (name : String) : Option Bool :=
  (c.hooks.find? (·.1 == name)).map (·.2)

/-- Insert into a sorted list of distinct texts. -/
def insertSorted (x : String) : List String → List String
  | [] => [x]
  | y :: ys => if x < y then x :: y :: ys else if x = y then y :: ys else y :: insertSorted x ys

/-- Debug notation of an instance with tables: its action names sorted, and whether it has a
record. -/
def debug (c : Controller) : String :=
  let names := c.actions.foldl (fun acc a => insertSorted a acc) []
  Debug.openRecord "ObjectController"
    [("actions", Debug.list (names.map Debug.str)), ("validate", Debug.bool c.record.isSome)]

end Controller

/-- A controller class: builds an instance per use from arguments. -/
structure ControllerClass where
  label : String
  actions : List String
  hooks : List (String × Bool)
  /-- The class's own record, consulted when an instance has none. -/
  record : Option ValidatorRecord
  /-- The record each built instance carries. -/
  instanceRecord : Option ValidatorRecord
  /-- A failure every construction ends in. -/
  failure : Option String
  /-- The least number of arguments. -/
  minArgs : Int
  /-- The class only builds plain controllers. -/
  plain : Bool

namespace ControllerClass

/-- Build an instance from arguments. -/
def construct (k : ControllerClass) (args : List Json) : Except String Controller :=
  match k.failure with
  | some f => .error f
  | none =>
    if (args.length : Int) < k.minArgs then
      .error ("expected at least " ++ toString k.minArgs ++ " args, got " ++ toString args.length)
    else if k.plain then .ok ⟨k.label, k.actions, [], none, some args, false⟩
    else .ok ⟨k.label, k.actions, k.hooks, k.instanceRecord, some args, true⟩

/-- Debug notation: whether the class has a record. -/
def debug (k : ControllerClass) : String :=
  Debug.openRecord "ClassFn" [("validate", Debug.bool k.record.isSome)]

end ControllerClass

/-- An entry of a controller map. -/
inductive ControllerEntry where
  | instance (c : Controller)
  | «class» (k : ControllerClass)

/-- Controllers by name, sorted by name. -/
structure ControllerMap where
  entries : List (String × ControllerEntry)

namespace ControllerMap

/-- The empty map. -/
def empty : ControllerMap := ⟨[]⟩

/-- Add an entry, keeping names sorted; an entry of the same name is replaced. -/
def insert (m : ControllerMap) (name : String) (e : ControllerEntry) : ControllerMap :=
  let rec go : List (String × ControllerEntry) → List (String × ControllerEntry)
    | [] => [(name, e)]
    | (k, v) :: rest =>
      if name < k then (name, e) :: (k, v) :: rest
      else if name = k then (name, e) :: rest
      else (k, v) :: go rest
  ⟨go m.entries⟩

/-- The entry of a name. -/
def get? (m : ControllerMap) (name : String) : Option ControllerEntry :=
  (m.entries.find? (·.1 == name)).map (·.2)

/-- Number of entries. -/
def size (m : ControllerMap) : Nat := m.entries.length

/-- Debug notation: the names, sorted. -/
def debug (m : ControllerMap) : String :=
  Debug.record "ControllerMap" [("names", Debug.list (m.entries.map (Debug.str ·.1)))]

end ControllerMap

/-- How a node names its controller. -/
inductive Designation where
  /-- An instance used as it is. -/
  | instance (c : Controller)
  /-- The map entry of a name; a class is built with the arguments. -/
  | named (name : String) (args : List Json)

namespace Designation

/-- Debug notation: `Instance(..)` or `Named { name: "k", args: [..] }`. -/
def debug : Designation → String
  | .instance _ => "Instance(..)"
  | .named n args =>
    Debug.record "Named" [("name", Debug.str n), ("args", Debug.list (args.map Json.debug))]

/-- The designation as a document. -/
def toJson : Designation → Json
  | .instance c => Json.object [("instance", .str c.label)]
  | .named n args => Json.object [("named", .str n), ("args", .arr args)]

end Designation

/-- A controller as resolved for a route: the instance, and the class that built it. -/
structure Resolved where
  inst : Controller
  builtBy : Option ControllerClass

namespace Resolved

/-- The validators in force: the instance's record, else its class's. -/
def record (r : Resolved) : Option ValidatorRecord :=
  match r.inst.record with
  | some x => some x
  | none => r.builtBy.bind (·.record)

/-- Debug notation: whether a class built it. -/
def debug (r : Resolved) : String :=
  Debug.openRecord "ResolvedController" [("from_class", Debug.bool r.builtBy.isSome)]

end Resolved

/-- Where the controller map comes from: given, or loaded (the load's outcome is fixed). -/
inductive ControllerSource where
  | map (m : ControllerMap)
  | loader (outcome : Except RouterError ControllerMap)

namespace ControllerSource

/-- The map, or the load's failure. -/
def load : ControllerSource → Except RouterError ControllerMap
  | .map m => .ok m
  | .loader r => r

/-- Debug notation: `Map(..)` with the map, or `Loader(..)`. -/
def debug : ControllerSource → String
  | .map m => "Map(" ++ m.debug ++ ")"
  | .loader _ => "Loader(..)"

end ControllerSource

/-- Resolve a controller by name: an instance as it is, a class built with the arguments. -/
def ControllerMap.resolve (m : ControllerMap) (name : String) (args : List Json) :
    Except RouterError Resolved :=
  match m.get? name with
  | none => .error (.missingController name)
  | some (.instance c) => .ok ⟨c, none⟩
  | some (.class k) =>
    match k.construct args with
    | .ok c => .ok ⟨c, some k⟩
    | .error e => .error (.controllerConstruction name e)

/-- Resolve a node's designation. -/
def ControllerMap.resolveDesignation (m : ControllerMap) :
    Option Designation → Except RouterError (Option Resolved)
  | none => .ok none
  | some (.instance c) => .ok (some ⟨c, none⟩)
  | some (.named n args) => (m.resolve n args).map some

/-- Debug notation of a resolver over a map. -/
def ControllerMap.resolverDebug (m : ControllerMap) : String :=
  Debug.record "Resolver" [("controllers", m.debug)]

end ResourceRoutes
