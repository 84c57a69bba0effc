import ResourceRoutes.Auth
import ResourceRoutes.Route.Method
import ResourceRoutes.Route.Meta

/-!
# What a route is

A route is a method, an action, metadata, and for a subscription its callbacks.

* An action names a method of the route's controller, or is a handler given directly.
* A subscription has three optional callbacks (a filter, one on subscribing, one on
  unsubscribing), each a controller hook by name or a given hook with a fixed answer, and an
  authentication requirement of its own.
* A pre-step runs before a route's handler: it may require a header, answer on its own with a
  status, and store a value under a key for the handler.
-/

namespace ResourceRoutes

/-- What a route runs: a method of its controller by name, or a handler used as it is. -/
inductive Action where
  | named (name : String)
  | direct (label : Json)

namespace Action

/-- The controller method's name; `none` for a direct handler. -/
def name? : Action → Option String
  | .named n => some n
  | .direct _ => none

/-- Debug notation: `Named("a")` or `Direct(..)`. -/
def debug : Action → String
  | .named n => "Named(" ++ Debug.str n ++ ")"
  | .direct _ => "Direct(..)"

/-- The action as a document: `{"named": name}` or `{"direct": label}`. -/
def toJson : Action → Json
  | .named n => Json.object [("named", .str n)]
  | .direct l => Json.object [("direct", l)]

end Action

/-- A subscription callback: a controller hook by name, or a hook with a fixed answer. -/
inductive HookRef where
  | named (name : String)
  | direct (answer : Bool)

namespace HookRef

/-- Debug notation: `Named("h")` or `Direct(..)`. -/
def debug : HookRef → String
  | .named n => "Named(" ++ Debug.str n ++ ")"
  | .direct _ => "Direct(..)"

/-- The callback as a document: `{"named": name}` or `{"direct": answer}`. -/
def toJson : HookRef → Json
  | .named n => Json.object [("named", .str n)]
  | .direct b => Json.object [("direct", .bool b)]

end HookRef

/-- The callbacks and authentication of a subscription. -/
structure Subscription where
  filter : Option HookRef
  onSubscribe : Option HookRef
  onUnsubscribe : Option HookRef
  auth : Option Auth

namespace Subscription

/-- Debug notation of the callbacks and the requirement. -/
def debug (s : Subscription) : String :=
  Debug.record "SubscriptionConfig"
    [("filter", Debug.option (s.filter.map HookRef.debug)),
     ("on_subscribe", Debug.option (s.onSubscribe.map HookRef.debug)),
     ("on_unsubscribe", Debug.option (s.onUnsubscribe.map HookRef.debug)),
     ("auth", Debug.option (s.auth.map Auth.debug))]

end Subscription

/-- The leaf data of a route node. -/
structure RouteSpec where
  method : Method
  action : Action
  metadata : RouteMeta
  subscription : Option Subscription

namespace RouteSpec

/-- An HTTP route whose action is the method of its own name. -/
def http (m : HttpMethod) (name : String) : RouteSpec :=
  ⟨.http m, .named name, RouteMeta.empty, none⟩

/-- A subscription whose action is the method of its own name. -/
def subscriptionOf (name : String) (config : Subscription) : RouteSpec :=
  ⟨.subscription, .named name, RouteMeta.empty, some config⟩

end RouteSpec

/-- A step run before a route's handler. -/
structure PreStep where
  /-- The key the step's value is stored under. -/
  assign : Option String
  /-- The value stored; absent means nothing is stored. -/
  value : Option Json
  /-- The status asked for when the step refuses the request (see `statusOf`). -/
  reject : Option Nat
  /-- A header the request must carry. -/
  requireHeader : Option String

namespace PreStep

/-- Debug notation: `PreHook { assign: Some("k"), .. }`. -/
def debug (p : PreStep) : String :=
  Debug.openRecord "PreHook" [("assign", Debug.option (p.assign.map Debug.str))]

/-- The status answered for a requested one: the request taken to 16 bits, when that is a
three-digit status (`100 … 999`); otherwise `418`. -/
def statusOf (n : Nat) : Nat :=
  let s := n % 65536
  if 100 ≤ s ∧ s ≤ 999 then s else 418

/-- What a step does with a request's header names: a refusal with a status and a text, or
the value to store. A missing header is refused with `401` unless the step asks for another
status. -/
def run (p : PreStep) (hasHeader : String → Bool) : Except (Nat × String) (Option Json) :=
  match p.requireHeader with
  | some h =>
    if hasHeader h then .ok p.value
    else .error (statusOf (p.reject.getD 401), "missing " ++ h)
  | none =>
    match p.reject with
    | some status => .error (statusOf status, "rejected")
    | none => .ok p.value

end PreStep

end ResourceRoutes
