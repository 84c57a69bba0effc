import ResourceRoutes.Registration.Basic

/-!
# Mounting routes on an HTTP server

The server host mounts each HTTP route that has a handler at its path with each placeholder
`{p}` written `:p`, the server's parameter syntax. Routes without a handler are skipped and
listed. Two routes conflict when their paths have one shape (placeholders erased) but different
mounted spellings, or when they repeat a method on one mounted path; the later one is refused
with a conflict on its method and path. Subscriptions are declined.

Routes on one mounted path share it: each method has its endpoint, and a method not served there
is answered by the path's fallback, which carries the body limit of the route mounted there last.
-/

namespace ResourceRoutes.Http

/-- A mounted route: what serves one method on one path. -/
structure Endpoint where
  /-- The route's canonical name. -/
  id : String
  method : HttpMethod
  handler : Handler
  pre : List PreStep
  /-- The largest declared body length accepted, in bytes. -/
  limit : Option Nat

/-- The endpoints of one mounted path, with the body limit of its fallback. -/
structure PathRoutes where
  path : String
  endpoints : List Endpoint
  fallbackLimit : Option Nat

/-- The host: mounted paths in first-mount order, the mounted spelling of each shape, the
(method, path) pairs taken, and the skipped route names. -/
structure ServerHost where
  paths : List PathRoutes
  shapes : List (String × String)
  taken : List (HttpMethod × String)
  skipped : List String

namespace ServerHost

/-- A host with nothing mounted. -/
def empty : ServerHost := ⟨[], [], [], []⟩

/-- A path in the server's syntax: `{p}` becomes `:p`. -/
def mountedPath (path : String) : String := fillPlaceholders path fun p => ":" ++ p

/-- A path with its placeholder names erased: `{p}` becomes `{}`. -/
def shapeOf (path : String) : String := fillPlaceholders path fun _ => "\x7b\x7d"

/-- Add an endpoint at a mounted path: a new path goes last, a known one gains the endpoint
and takes the endpoint's limit for its fallback. -/
def mount (paths : List PathRoutes) (path : String) (e : Endpoint) : List PathRoutes :=
  if paths.any (·.path == path) then
    paths.map fun r =>
      if r.path == path then { r with endpoints := r.endpoints ++ [e], fallbackLimit := e.limit } else r
  else paths ++ [⟨path, [e], e.limit⟩]

/-- The endpoint that serves a route with a handler. -/
def endpointOf (r : HttpRegistration) (handler : Handler) : Endpoint :=
  ⟨r.id, r.method, handler, r.pre, r.metadata.payloadMaxBytes⟩

/-- The host after it mounts a route with a handler: the shape keeps its first mounted spelling,
the pair is taken, and the endpoint is mounted at the route's mounted path. -/
def mountRoute (h : ServerHost) (r : HttpRegistration) (handler : Handler) : ServerHost :=
  { h with
    shapes := if h.shapes.any (·.1 == shapeOf r.path) then h.shapes
      else h.shapes ++ [(shapeOf r.path, mountedPath r.path)],
    taken := h.taken ++ [(r.method, mountedPath r.path)],
    paths := mount h.paths (mountedPath r.path) (endpointOf r handler) }

/-- Mount an HTTP route, skip it, or refuse it. -/
def route (h : ServerHost) (r : HttpRegistration) : Except RouterError ServerHost :=
  match r.handler with
  | none => .ok { h with skipped := h.skipped ++ [r.id] }
  | some handler =>
    let path := mountedPath r.path
    let conflict := RouterError.routeConflict r.method.name r.path
    if (h.shapes.find? (·.1 == shapeOf r.path)).any (·.2 != path) then .error conflict
    else if h.taken.contains (r.method, path) then .error conflict
    else .ok (h.mountRoute r handler)

/-- Debug notation: the mounted paths in order and the skipped names. -/
def debug (h : ServerHost) : String :=
  Debug.record "AxumHost"
    [("paths", Debug.list (h.paths.map (Debug.str ·.path))), ("skipped", Debug.list (h.skipped.map Debug.str))]

end ServerHost

/-- A refused route leaves the host as it was; subscriptions are declined. -/
instance : Host ServerHost where
  route h r :=
    match ServerHost.route h r with
    | .ok h' => (h', .ok ())
    | .error e => (h, .error e)

end ResourceRoutes.Http
