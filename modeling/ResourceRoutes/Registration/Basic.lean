import ResourceRoutes.Router.Basic

/-!
# Registering routes with a host

`register` loads the controller map first (a failed load is the answer, even for a router that
is not built), then refuses a router whose table is stale, then hands every table entry to the
host in table order: an HTTP route as an `HttpRegistration`, a subscription as a
`SubscriptionRegistration` the host may decline. A controller that cannot be resolved, or a host
that refuses, stops the pass; the host keeps what it accepted before.

For each route the controller is the nearest designation, resolved against the map. The
handler of a named action is that action of the controller; a direct action is its own handler.
Each validation slot is resolved on its own (`validationFor`).
-/

namespace ResourceRoutes

/-- The schemas handed to the host, one optional schema per slot. -/
structure Validation where
  params : Option Json
  query : Option Json
  response : Option Json
  payload : Option Json

namespace Validation

/-- The schema of a slot. -/
def slot (v : Validation) : Slot → Option Json
  | .params => v.params
  | .query => v.query
  | .response => v.response
  | .payload => v.payload

/-- Whether no slot has a schema. -/
def isEmpty (v : Validation) : Bool := Slot.all.all fun s => (v.slot s).isNone

/-- Debug notation, each schema as `Schema(..)`. -/
def debug (v : Validation) : String :=
  let one (x : Option Json) := Debug.option (x.map fun j => "Schema(" ++ j.debug ++ ")")
  Debug.record "Validation"
    [("params", one v.params), ("query", one v.query), ("response", one v.response),
     ("payload", one v.payload)]

end Validation

/-- The schema of one slot for a route: none for the payload of `GET` and `OPTIONS`; else the
route's own (inherited) schema; else, for a named action, the controller record's validator
for that action. -/
def schemaFor (tree : Tree) (ref : RouteRef) (controller : Option Resolved) (s : Slot) : Option Json :=
  if s == .payload && ref.spec.method.skipsPayload then none
  else
    match tree.schema ref.entry.node s with
    | some σ => some σ
    | none =>
      match ref.spec.action with
      | .direct _ => none
      | .named a => (controller.bind (·.record)).bind fun r => (r.slot s).bind (·.schemaFor a)

/-- The schemas of all slots for a route. -/
def validationFor (tree : Tree) (ref : RouteRef) (controller : Option Resolved) : Validation :=
  ⟨schemaFor tree ref controller .params, schemaFor tree ref controller .query,
    schemaFor tree ref controller .response, schemaFor tree ref controller .payload⟩

/-- The handler of a route's action. -/
def handlerFor (action : Action) (controller : Option Resolved) : Option Handler :=
  match action with
  | .direct l => some (.direct l)
  | .named n => controller.bind fun c => c.inst.action? n

/-- The answer of a subscription callback, when it resolves. -/
def hookFor (hook : Option HookRef) (controller : Option Resolved) : Option Bool :=
  match hook with
  | none => none
  | some (.direct b) => some b
  | some (.named n) => controller.bind fun c => c.inst.hook? n

/-- What a host receives for an HTTP route. -/
structure HttpRegistration where
  id : String
  path : String
  method : HttpMethod
  handler : Option Handler
  auth : Option Auth
  tags : List String
  pre : List PreStep
  bind : Option Json
  metadata : RouteMeta
  validation : Validation
  controller : Option Resolved

/-- Debug notation of an HTTP registration. -/
def HttpRegistration.debug (r : HttpRegistration) : String :=
  Debug.openRecord "HttpRegistration"
    [("id", Debug.str r.id), ("path", Debug.str r.path), ("method", r.method.debug),
     ("handler", Debug.bool r.handler.isSome), ("auth", Debug.option (r.auth.map Auth.debug)),
     ("tags", Debug.list (r.tags.map Debug.str)), ("pre", toString r.pre.length),
     ("validate", r.validation.debug)]

/-- What a host receives for a subscription: the answers of the resolved callbacks. -/
structure SubscriptionRegistration where
  id : String
  path : String
  filter : Option Bool
  onSubscribe : Option Bool
  onUnsubscribe : Option Bool
  auth : Option Auth

/-- Debug notation of a subscription registration: whether each callback resolved. -/
def SubscriptionRegistration.debug (r : SubscriptionRegistration) : String :=
  Debug.record "SubscriptionRegistration"
    [("id", Debug.str r.id), ("path", Debug.str r.path), ("filter", Debug.bool r.filter.isSome),
     ("on_subscribe", Debug.bool r.onSubscribe.isSome),
     ("on_unsubscribe", Debug.bool r.onUnsubscribe.isSome),
     ("auth", Debug.option (r.auth.map Auth.debug))]

/-- The HTTP registration of a table entry. -/
def httpRegistration (tree : Tree) (ref : RouteRef) (m : HttpMethod) (controller : Option Resolved) :
    HttpRegistration :=
  { id := ref.entry.name, path := ref.entry.path, method := m,
    handler := handlerFor ref.spec.action controller, auth := tree.auth ref.entry.node,
    tags := tree.tags ref.entry.node, pre := tree.pre ref.entry.node,
    bind := tree.bind ref.entry.node, metadata := ref.spec.metadata,
    validation := validationFor tree ref controller, controller := controller }

/-- The subscription registration of a table entry; its authentication is the subscription's
own, not the tree's. -/
def subscriptionRegistration (ref : RouteRef) (controller : Option Resolved) :
    SubscriptionRegistration :=
  let config := ref.spec.subscription.getD ⟨none, none, none, none⟩
  { id := ref.entry.name, path := ref.entry.path, filter := hookFor config.filter controller,
    onSubscribe := hookFor config.onSubscribe controller,
    onUnsubscribe := hookFor config.onUnsubscribe controller, auth := config.auth }

/-- A server that accepts resolved routes. Each call hands back the host as the call left it,
whether it accepted the route or refused it. -/
class Host (H : Type) where
  /-- Accept an HTTP route, or refuse it. -/
  route : H → HttpRegistration → H × Except RouterError Unit
  /-- Accept a subscription (`true`), decline it (`false`), or refuse it; a host without
  subscriptions declines them all. -/
  subscription : H → SubscriptionRegistration → H × Except RouterError Bool := fun h _ => (h, .ok false)

/-- Counts of a registration pass. -/
structure Summary where
  routes : Nat
  subscriptions : Nat
  /-- Subscriptions the host declined. -/
  skipped : Nat
  deriving Repr, DecidableEq

/-- Hand the routes to the host in order, stopping at the first failure. -/
def registerRoutes {H : Type} [Host H] (tree : Tree) (map : ControllerMap) :
    List RouteRef → H → Summary → H × Except RouterError Summary
  | [], h, s => (h, .ok s)
  | ref :: rest, h, s =>
    match map.resolveDesignation (tree.controller ref.entry.node) with
    | .error e => (h, .error e)
    | .ok controller =>
      match ref.spec.method with
      | .http m =>
        match Host.route h (httpRegistration tree ref m controller) with
        | (h', .error e) => (h', .error e)
        | (h', .ok ()) => registerRoutes tree map rest h' { s with routes := s.routes + 1 }
      | .subscription =>
        match Host.subscription h (subscriptionRegistration ref controller) with
        | (h', .error e) => (h', .error e)
        | (h', .ok true) => registerRoutes tree map rest h' { s with subscriptions := s.subscriptions + 1 }
        | (h', .ok false) => registerRoutes tree map rest h' { s with skipped := s.skipped + 1 }

/-- Register a built router's routes against a resolved controller map. -/
def registerWith {H : Type} [Host H] (map : ControllerMap) (r : Router) (h : H) :
    H × Except RouterError Summary :=
  if r.phase != .built then (h, .error .notBuilt)
  else registerRoutes r.tree map r.routes h ⟨0, 0, 0⟩

/-- Load the controllers, then register. -/
def register {H : Type} [Host H] (r : Router) (source : ControllerSource) (h : H) :
    H × Except RouterError Summary :=
  match source.load with
  | .error e => (h, .error e)
  | .ok map => registerWith map r h

end ResourceRoutes
