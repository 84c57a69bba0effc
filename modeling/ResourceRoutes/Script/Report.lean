import ResourceRoutes.Router.Basic
import ResourceRoutes.Config.Load
import ResourceRoutes.Registration.Basic

/-!
# Reports as documents

The documents a script's answers are made of: errors, tables, options, the inherited settings of
a node, a route's details, and the view of a node inside its tree.
-/

namespace ResourceRoutes.Report

/-- A router error: kind, message, status and code. -/
def routerError (e : RouterError) : Json :=
  Json.object [("error", .str e.kind), ("message", .str e.message), ("status", Json.nat e.status),
    ("code", .str e.code)]

/-- A configuration error: kind and message. -/
def configError (e : ConfigError) : Json :=
  Json.object [("error", .str e.kind), ("message", .str e.message)]

/-- A refused piece of script input. -/
def badInput (message : String) : Json :=
  Json.object [("error", .str "BadInput"), ("message", .str message)]

/-- A table: `[name, path]` pairs in order. -/
def table (t : RouteTable) : Json :=
  .arr (t.entries.map fun e => .arr [.str e.name, .str e.path])

/-- Options as they serialize. -/
def options (o : Options) : Json :=
  Json.object [("basePath", Json.optStr o.basePath), ("baseUrl", Json.optStr o.baseUrl)]

/-- An authentication requirement with its kind. -/
def auth : Option Auth → Json
  | none => .null
  | some a => Json.object [("kind", .str a.kindName), ("value", a.toJson)]

/-- A controller designation. -/
def designation : Option Designation → Json
  | none => .null
  | some d => d.toJson

/-- A subscription callback. -/
def hook : Option HookRef → Json
  | none => .null
  | some h => h.toJson

/-- A subscription's configuration. -/
def subscription : Option Subscription → Json
  | none => .null
  | some s => Json.object [("filter", hook s.filter), ("on_subscribe", hook s.onSubscribe),
      ("on_unsubscribe", hook s.onUnsubscribe), ("auth", auth s.auth)]

/-- A document or null. -/
def optDoc : Option Json → Json
  | some j => j
  | none => .null

/-- The schemas in force at a node. -/
def validate (t : Tree) (id : Nat) : Json :=
  Json.object (Slot.all.map fun s => (s.name, optDoc (t.schema id s)))

/-- The pre-steps in force, by what each stores under. -/
def pre (steps : List PreStep) : Json := .arr (steps.map fun p => Json.optStr p.assign)

/-- The settings in force at a node. -/
def scope (t : Tree) (id : Nat) : List (String × Json) :=
  [("auth", auth (t.auth id)), ("controller", designation (t.controller id)),
   ("bind", optDoc (t.bind id)), ("validate", validate t id),
   ("tags", .arr ((t.tags id).map .str)), ("pre", pre (t.pre id))]

/-- A route's own description. -/
def spec (s : RouteSpec) : List (String × Json) :=
  [("method", .str s.method.name), ("action", s.action.toJson), ("meta", s.metadata.toJson),
   ("subscription", subscription s.subscription)]

/-- What `inspect` reports of a node: its name and settings, and for a route its description. -/
def inspect (t : Tree) (id : Nat) : Json :=
  match t.node? id with
  | none => .null
  | some n => Json.object ([("name", .str n.name)] ++ scope t id ++ (n.spec?.map spec).getD [])

/-- Debug notation of a designation in force. -/
def designationDebug (d : Option Designation) : String := Debug.option (d.map Designation.debug)

/-- Debug notation of the pre-steps in force. -/
def preDebug (steps : List PreStep) : String := Debug.list (steps.map PreStep.debug)

/-- Debug notation of a route ref. -/
def routeRefDebug (r : RouteRef) : String :=
  Debug.record "RouteRef"
    [("name", Debug.str r.entry.name), ("path", Debug.str r.entry.path),
     ("method", r.spec.method.debug), ("action", r.spec.action.debug)]

/-- The details of a built route, read with the tree as it is now; with `debug`, also its debug
notation and named action. -/
def routeDetail (t : Tree) (r : RouteRef) (debug : Bool) : Json :=
  let base : List (String × Json) :=
    [("name", .str r.entry.name), ("path", .str r.entry.path),
     ("method", .str r.spec.method.name),
     ("skips_payload_validation", .bool r.spec.method.skipsPayload),
     ("action", r.spec.action.toJson), ("meta", r.spec.metadata.toJson),
     ("payload_max_bytes", match r.spec.metadata.payloadMaxBytes with
        | some n => Json.nat n
        | none => .null),
     ("subscription", subscription r.spec.subscription)] ++ scope t r.entry.node
  let extra : List (String × Json) :=
    if debug then [("debug", .str (routeRefDebug r)), ("action_name", Json.optStr r.spec.action.name?)]
    else []
  Json.object (base ++ extra)

/-- A node seen in its tree: name, segment, parent, kind, children, items node, and the tree's
first assembly error. -/
def treeView (t : Tree) (id : Nat) : Json :=
  match t.node? id with
  | none => .null
  | some n =>
    let nameOf (i : Nat) : Json := match t.node? i with
      | some c => .str c.name
      | none => .null
    let kindOf (c : Node) : Json := match c.kind? with
      | some k => .str k.name
      | none => .null
    Json.object
      [("name", .str n.name),
       ("segment", match n.segment with
          | .root => .null
          | .named s => .str s),
       ("parent", match n.parent with
          | some p => nameOf p
          | none => .null),
       ("kind", kindOf n),
       ("is_route", .bool n.spec?.isSome),
       ("children", .arr (n.children.filterMap fun (_, c) => (t.node? c).map fun cn =>
          Json.object [("name", .str cn.name), ("kind", kindOf cn), ("is_route", .bool cn.spec?.isSome)])),
       ("items", match n.items? with
          | some i => nameOf i
          | none => .null),
       ("error", match t.error with
          | some e => routerError e
          | none => .null)]

/-- Counts of a registration pass. -/
def summary (s : Summary) : Json :=
  Json.object [("routes", Json.nat s.routes), ("subscriptions", Json.nat s.subscriptions),
    ("skipped", Json.nat s.skipped)]

/-- A summary or the error that stopped the pass. -/
def outcome (r : Except RouterError Summary) : Json :=
  match r with
  | .ok s => summary s
  | .error e => routerError e

/-- The debug notation of a validator record, or null when it has none to show. -/
def recordDebug (r : Option ValidatorRecord) : Json :=
  match r with
  | some x => Json.optStr x.debug?
  | none => .null

/-- An HTTP registration as recorded. -/
def httpRegistration (r : HttpRegistration) (debug : Bool) : Json :=
  let base : List (String × Json) :=
    [("id", .str r.id), ("path", .str r.path), ("method", .str r.method.name),
     ("handler", match r.handler with
        | some h => h.ident
        | none => .null),
     ("auth", auth r.auth), ("tags", .arr (r.tags.map .str)), ("pre", pre r.pre),
     ("bind", optDoc r.bind), ("meta", r.metadata.toJson),
     ("validate", Json.object (Slot.all.map fun s => (s.name, optDoc (r.validation.slot s)))),
     ("validate_empty", .bool r.validation.isEmpty),
     ("controller", match r.controller with
        | some c => Json.object [("label", .str c.inst.label), ("from_class", .bool c.builtBy.isSome)]
        | none => .null)]
  let extra : List (String × Json) :=
    if debug then
      [("debug", Json.object [("registration", .str r.debug),
        ("controller", .str (Debug.option (r.controller.map Resolved.debug)))])]
    else []
  Json.object (base ++ extra)

/-- A subscription registration as recorded. -/
def subscriptionRegistration (r : SubscriptionRegistration) (debug : Bool) : Json :=
  let answer (b : Option Bool) : Json := match b with
    | some x => .bool x
    | none => .null
  Json.object ([("id", .str r.id), ("path", .str r.path), ("filter", answer r.filter),
    ("on_subscribe", answer r.onSubscribe), ("on_unsubscribe", answer r.onUnsubscribe),
    ("auth", auth r.auth)] ++ (if debug then [("debug", .str r.debug)] else []))

end ResourceRoutes.Report
