import ResourceRoutes.Script.Controllers
import ResourceRoutes.Route.Spec
import ResourceRoutes.Tree.Basic

/-!
# Builder statements

A builder script is a list of statements, each an object whose `do` names what it does. Three
families exist: scope statements (options, tags, pre-steps, and the reports `inspect`, `debug`
and `tree`) work on every handle; resource statements create children and work on resources;
route statements change a route's action and metadata.

`Statement.ofJson` reads a statement with its nested bodies. A statement whose fields are
malformed is kept as `malformed` with its verb and complaint: whether the handle offers the verb
is decided first, when the statement runs. Every statement but the plain scope statements
(`plainScopeVerbs`, which ignore it) reads its `then`: on a resource, one that is not a list
stops the statement before the handle is asked whether it offers the verb; on a route it is
ignored (`looseThen`).
-/

namespace ResourceRoutes.Script

/-- Resources created by name: three with a path segment, and groups, which add nothing to
names and paths. -/
inductive ChildKind where
  | «namespace»
  | collection
  | item
  | group
  deriving DecidableEq, Repr

/-- The kind of group a resource creates. -/
def groupKind : ResourceKind → ResourceKind
  | .collection => .collectionGroup
  | .item | .collectionItem => .itemGroup
  | _ => .group

/-- The resource kind of a child created under a resource of kind `parent`. -/
def ChildKind.kind (parent : ResourceKind) : ChildKind → ResourceKind
  | .namespace => .namespace
  | .collection => .collection
  | .item => .item
  | .group => groupKind parent

/-- The verb that creates a child kind. -/
def ChildKind.verb : ChildKind → String
  | .namespace => "namespace"
  | .collection => "collection"
  | .item => "item"
  | .group => "group"

/-- The conventional routes of resources, each a route at the resource's own path named after
itself. -/
inductive Conventional where
  | index
  | show
  | create
  | update
  | patch
  | destroy
  deriving DecidableEq, Repr

namespace Conventional

/-- The name, which is also the verb. -/
def name : Conventional → String
  | .index => "index"
  | .show => "show"
  | .create => "create"
  | .update => "update"
  | .patch => "patch"
  | .destroy => "destroy"

/-- The method. -/
def method : Conventional → HttpMethod
  | .index | .show => .get
  | .create => .post
  | .update => .put
  | .patch => .patch
  | .destroy => .delete

end Conventional

/-- A change to a route's metadata. -/
inductive MetaChange where
  | description (s : String)
  | addNote (s : String)
  | notes (ns : List String)
  | cors (b : Bool)
  | jsonp (s : String)
  | document (f : DocField) (v : Json)

/-- Apply a metadata change. -/
def MetaChange.apply : MetaChange → RouteMeta → RouteMeta
  | .description s, m => { m with description := some s }
  | .addNote s, m => { m with notes := m.notes ++ [s] }
  | .notes ns, m => { m with notes := ns }
  | .cors b, m => { m with cors := some b }
  | .jsonp s, m => { m with jsonp := some s }
  | .document f v, m => m.setDoc f v

/-- A builder statement. -/
inductive Statement where
  | setAuth (a : Auth)
  | clearAuth
  | setController (d : Designation)
  | clearController
  | setBind (v : Json)
  | setValidate (s : Slot) (schema : Json)
  | clearValidate (s : Slot)
  | tag (t : String)
  | pre (p : PreStep)
  | inspect
  | debug
  | tree
  /-- A named child resource; its segment is its path, else its name (none for a group). -/
  | child (k : ChildKind) (name : String) (path : Option String) (body after : List Statement)
  /-- The member resource of a collection. -/
  | items (name : String) (body after : List Statement)
  | route (m : HttpMethod) (name : String) (path : Option String) (after : List Statement)
  | rootRoute (m : HttpMethod) (name : String) (after : List Statement)
  | conventional (c : Conventional) (after : List Statement)
  | subscription (name : String) (config : Subscription) (after : List Statement)
  | setAction (a : Action)
  | changeMeta (verb : String) (c : MetaChange)
  /-- Replace the metadata by a document, or report why the document is not metadata. -/
  | replaceMeta (result : Except String RouteMeta)
  | malformed (verb : String) (message : String)
  /-- A statement whose `then` is not a list, with the complaint: a resource refuses it before
  anything else, while a route, whose statements take no `then`, runs the statement as it is. -/
  | looseThen (message : String) (s : Statement)
  /-- An object that is no statement: it has no verb. -/
  | unreadable (message : String)

/-- The verb of a statement. -/
def Statement.verb : Statement → String
  | .setAuth _ => "set_auth"
  | .clearAuth => "clear_auth"
  | .setController _ => "set_controller"
  | .clearController => "clear_controller"
  | .setBind _ => "set_bind"
  | .setValidate .. => "set_validate"
  | .clearValidate _ => "clear_validate"
  | .tag _ => "tag"
  | .pre _ => "pre"
  | .inspect => "inspect"
  | .debug => "debug"
  | .tree => "tree"
  | .child k .. => k.verb
  | .items .. => "items"
  | .route .. => "route"
  | .rootRoute .. => "root_route"
  | .conventional c _ => c.name
  | .subscription .. => "subscription"
  | .setAction _ => "set_action"
  | .changeMeta v _ => v
  | .replaceMeta _ => "meta_json"
  | .malformed v _ => v
  | .looseThen _ s => s.verb
  | .unreadable _ => ""

/-- What a statement works on: a resource of a kind, or a route. -/
inductive HandleKind where
  | resource (k : ResourceKind)
  | route
  deriving DecidableEq, Repr

/-- The name of a handle kind. -/
def HandleKind.name : HandleKind → String
  | .resource k => k.name
  | .route => "Route"

/-- Verbs of every handle. -/
def scopeVerbs : List String :=
  ["set_auth", "clear_auth", "set_controller", "clear_controller", "set_bind", "set_validate",
   "clear_validate", "tag", "pre", "inspect", "debug", "tree"]

/-- Scope statements that ignore a `then` field. -/
def plainScopeVerbs : List String :=
  ["set_auth", "clear_auth", "set_controller", "clear_controller", "set_bind", "set_validate",
   "clear_validate", "tag", "pre", "inspect"]

/-- Verbs of every resource. -/
def resourceVerbs : List String :=
  ["namespace", "collection", "item", "route", "root_route", "subscription", "create", "update",
   "patch", "destroy", "group"]

/-- Verbs of routes. -/
def routeVerbs : List String :=
  ["set_action", "description", "note", "cache", "payload", "response", "plugins", "timeout",
   "cors", "meta", "meta_json"]

/-- Whether a handle offers a verb: collections and their groups add `index` and `items`; items
and their groups add `show`. -/
def offers (h : HandleKind) (verb : String) : Bool :=
  scopeVerbs.contains verb ||
    match h with
    | .route => routeVerbs.contains verb
    | .resource k =>
      resourceVerbs.contains verb ||
        match k with
        | .collection | .collectionGroup => verb == "index" || verb == "items"
        | .item | .collectionItem | .itemGroup => verb == "show"
        | _ => false

/-- A method named in full capitals, as a string or as the one key of an object whose value is
null (`{"POST": null}`), the two ways a document names a case without data. -/
def readMethod (o : Json) : Except String HttpMethod :=
  let name? : Option String := match o.get? "method" with
    | some (.str s) => some s
    | some (.obj [(s, .null)]) => some s
    | _ => none
  match name?.bind HttpMethod.ofName? with
  | some m => .ok m
  | none => .error (fieldMust "method" "GET|POST|PUT|PATCH|DELETE|OPTIONS")

/-- A validation slot named by the `slot` field. -/
def readSlotName (o : Json) : Except String Slot :=
  match o.get? "slot" with
  | some (.str s) =>
    match Slot.ofName? s with
    | some x => .ok x
    | none => .error (fieldMust "slot" "params|query|response|payload")
  | _ => .error (fieldMust "slot" "params|query|response|payload")

/-- An action: a name, or `{direct: label}` with any document as the label. -/
def readAction (v : Json) : Except String Action :=
  match v with
  | .str s => .ok (.named s)
  | _ =>
    match v.get? "direct" with
    | some l => .ok (.direct l)
    | none => .error "action must be a string or \x7bdirect: label\x7d"

/-- A subscription callback: a name, or `{direct: answer}`. -/
def readHook (v : Json) : Except String HookRef :=
  match v with
  | .str s => .ok (.named s)
  | _ =>
    match v.get? "direct" with
    | some (.bool b) => .ok (.direct b)
    | _ => .error "hooks must be a string or \x7bdirect: bool\x7d"

/-- An optional callback field. -/
def optHook (o : Json) (k : String) : Except String (Option HookRef) :=
  match o.get? k with
  | none | some .null => .ok none
  | some v => return some (← readHook v)

/-- A subscription's callbacks and authentication. -/
def readSubscription (o : Json) : Except String Subscription := do
  let c := (o.get? "config").getD (.obj [])
  return ⟨← optHook c "filter", ← optHook c "on_subscribe", ← optHook c "on_unsubscribe",
    (c.get? "auth").map Auth.ofJson⟩

/-- A pre-step. A `reject` that is not an integer in `[0, 2^64)` is no rejection. -/
def readPre (o : Json) : Except String PreStep := do
  let assign ← optStr o "assign"
  let reject := match o.get? "reject" with
    | some (.num (.int i)) => if 0 ≤ i ∧ i < Int.pow 2 64 then some i.toNat else none
    | _ => none
  return ⟨assign, o.get? "value", reject, ← optStr o "require_header"⟩

/-- The complaint about the value of a `meta` statement for a member. -/
def metaMust (field kind : String) : String := "meta " ++ field ++ " must be " ++ kind

/-- The value of a `meta` statement for a member. Notes are the strings of a list. -/
def readMetaChange (field : String) (v : Json) : Except String MetaChange :=
  match field with
  | "description" => match v with
    | .str s => .ok (.description s)
    | _ => .error (metaMust field "a string")
  | "notes" => match v with
    | .arr xs => .ok (.notes (xs.filterMap Json.getStr?))
    | _ => .error (metaMust field "a list")
  | "cors" => match v with
    | .bool b => .ok (.cors b)
    | _ => .error (metaMust field "a boolean")
  | "jsonp" => match v with
    | .str s => .ok (.jsonp s)
    | _ => .error (metaMust field "a string")
  | other => match DocField.ofName? other with
    | some f => .ok (.document f v)
    | none => .error ("unknown meta field '" ++ other ++ "'")

/-- Read a statement; `fuel` bounds the nesting of bodies. -/
def Statement.ofJson : Nat → Json → Statement
  | 0, _ => .unreadable "statements nest too deep"
  | fuel + 1, o =>
    let block (k : String) : Except String (List Statement) := do
      return (← listOf o k).map (Statement.ofJson fuel)
    let read (verb : String) : Except String Statement :=
      match verb with
      | "set_auth" => .ok (.setAuth (Auth.ofJson (anyField o "auth")))
      | "clear_auth" => .ok .clearAuth
      | "set_controller" => return .setController (← readDesignation (anyField o "controller"))
      | "clear_controller" => .ok .clearController
      | "set_bind" => .ok (.setBind (anyField o "bind"))
      | "set_validate" => return .setValidate (← readSlotName o) (anyField o "schema")
      | "clear_validate" => return .clearValidate (← readSlotName o)
      | "tag" => return .tag (← needStr o "tag")
      | "pre" => return .pre (← readPre o)
      | "inspect" => .ok .inspect
      | "debug" => .ok .debug
      | "tree" => .ok .tree
      | "namespace" | "collection" | "item" => do
        let k : ChildKind := if verb == "namespace" then .namespace
          else if verb == "collection" then .collection else .item
        return .child k (← needStr o "name") (← optStr o "path") (← block "body") (← block "then")
      | "group" => return .child .group (← needStr o "name") none (← block "body") (← block "then")
      | "items" => return .items (← needStr o "name") (← block "body") (← block "then")
      | "route" => return .route (← readMethod o) (← needStr o "name") (← optStr o "path") (← block "then")
      | "root_route" => return .rootRoute (← readMethod o) (← needStr o "name") (← block "then")
      | "subscription" => return .subscription (← needStr o "name") (← readSubscription o) (← block "then")
      | "index" => return .conventional .index (← block "then")
      | "show" => return .conventional .show (← block "then")
      | "create" => return .conventional .create (← block "then")
      | "update" => return .conventional .update (← block "then")
      | "patch" => return .conventional .patch (← block "then")
      | "destroy" => return .conventional .destroy (← block "then")
      | "set_action" => return .setAction (← readAction (anyField o "action"))
      | "description" => return .changeMeta verb (.description (← needStr o "value"))
      | "note" => return .changeMeta verb (.addNote (← needStr o "value"))
      | "cors" => match o.get? "value" with
        | some (.bool b) => .ok (.changeMeta verb (.cors b))
        | _ => .error (fieldMust "value" "a boolean")
      | "cache" => .ok (.changeMeta verb (.document .cache (anyField o "value")))
      | "payload" => .ok (.changeMeta verb (.document .payload (anyField o "value")))
      | "response" => .ok (.changeMeta verb (.document .response (anyField o "value")))
      | "plugins" => .ok (.changeMeta verb (.document .plugins (anyField o "value")))
      | "timeout" => .ok (.changeMeta verb (.document .timeout (anyField o "value")))
      | "meta" => return .changeMeta verb (← readMetaChange (← needStr o "field") (anyField o "value"))
      | "meta_json" => .ok (.replaceMeta (RouteMeta.ofJson (anyField o "value")))
      | _ => .ok (.malformed verb "")
    match o.get? "do" with
    | some (.str verb) =>
      let s := match read verb with
        | .ok s => s
        | .error m => .malformed verb m
      match listOf o "then" with
      | .error m => if plainScopeVerbs.contains verb then s else .looseThen m s
      | .ok _ => s
    | _ => .unreadable (fieldMust "do" "a string")

/-- Read a list of statements. -/
def Statement.listOfJson (xs : List Json) : List Statement :=
  xs.map fun x => Statement.ofJson (x.depth + 1) x

end ResourceRoutes.Script
