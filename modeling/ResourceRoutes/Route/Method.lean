/-!
# Methods

A route answers one HTTP method, or is a subscription. Requests of the methods `GET` and
`OPTIONS` carry no payload worth validating (`Method.skipsPayload`).
-/

namespace ResourceRoutes

/-- The HTTP methods a route can answer. -/
inductive HttpMethod where
  | get
  | post
  | put
  | patch
  | delete
  | options
  deriving Repr, DecidableEq, BEq

namespace HttpMethod

/-- The method's name on the wire. -/
def name : HttpMethod → String
  | .get => "GET"
  | .post => "POST"
  | .put => "PUT"
  | .patch => "PATCH"
  | .delete => "DELETE"
  | .options => "OPTIONS"

/-- The method's name in debug notation. -/
def debug : HttpMethod → String
  | .get => "Get"
  | .post => "Post"
  | .put => "Put"
  | .patch => "Patch"
  | .delete => "Delete"
  | .options => "Options"

/-- The method with this wire name. -/
def ofName? : String → Option HttpMethod
  | "GET" => some .get
  | "POST" => some .post
  | "PUT" => some .put
  | "PATCH" => some .patch
  | "DELETE" => some .delete
  | "OPTIONS" => some .options
  | _ => none

end HttpMethod

/-- What a route answers: an HTTP method, or subscriptions. -/
inductive Method where
  | http (m : HttpMethod)
  | subscription
  deriving Repr, DecidableEq

namespace Method

/-- Requests of this method carry no payload to validate. -/
def skipsPayload : Method → Bool
  | .http .get | .http .options => true
  | _ => false

/-- The method's name: the HTTP name, or `SUBSCRIPTION`. -/
def name : Method → String
  | .http m => m.name
  | .subscription => "SUBSCRIPTION"

/-- Debug notation: `Http(Get)` or `Subscription`. -/
def debug : Method → String
  | .http m => "Http(" ++ m.debug ++ ")"
  | .subscription => "Subscription"

end Method

end ResourceRoutes
