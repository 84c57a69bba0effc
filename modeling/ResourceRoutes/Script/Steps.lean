import ResourceRoutes.Script.Build
import ResourceRoutes.Registration.Recording
import ResourceRoutes.Http.Serve

/-!
# Steps on a router

A router script is a list of steps, each answered on its own: building statements (`add` runs
them and rebuilds, `do` only runs them), rebuilding, reading the table and its routes, links,
and registering the routes with a host. A step with malformed fields is answered with a
complaint and changes nothing, except that `add` rebuilds after statements that stopped.
-/

namespace ResourceRoutes.Script

/-- The value of a link parameter as text: a string, an integer in decimal, or a boolean. -/
def readParamValue (v : Json) : Except String String :=
  match v with
  | .str s => .ok s
  | .num (.int i) => .ok (toString i)
  | .bool b => .ok (if b then "true" else "false")
  | _ => .error "param values must be strings, integers or booleans"

/-- Link parameters: a list of `[key, value]` pairs. -/
def readParams (o : Json) : Except String (List (String × String)) :=
  match o.get? "params" with
  | none | some .null => .ok []
  | some (.arr items) => items.mapM fun
    | .arr [.str k, v] => return (k, ← readParamValue v)
    | _ => .error "each param must be [string, value]"
  | some _ => .error "params must be a list of [key, value] pairs"

/-- A request to a served router: method `GET`, URI `/`, no headers and an empty body unless
given as strings; a header whose value is no string is sent empty. `none` when these parts
make no request. -/
def readRequest (o : Json) : Option Http.Request :=
  let text (k d : String) : String := ((o.get? k).bind Json.getStr?).getD d
  let headers := match o.get? "headers" with
    | some (.obj fs) => fs.map fun (k, v) => (k, v.getStr?.getD "")
    | _ => []
  Http.Request.build? (text "method" "GET") (text "uri" "/") headers (text "body" "")

/-- A response as a document: its status, and its body as `json` when it is a document, else
as `text`. -/
def responseJson (r : Http.Response) : Json :=
  match r.body with
  | .json j => Json.object [("status", Json.nat r.status), ("json", j)]
  | .text s => Json.object [("status", Json.nat r.status), ("text", .str s)]

/-- The answer to one request: the response, or a complaint when the request could not be
built. -/
def requestAnswer (srv : Http.Server) (q : Option Http.Request) : Json :=
  match q with
  | some r => responseJson (srv.respond r)
  | none => Report.badInput "request could not be built"

/-- The hosts a script can register with. -/
inductive HostChoice where
  /-- Records routes and declines subscriptions. -/
  | recording
  /-- Records routes and subscriptions. -/
  | recordingSubscriptions
  /-- Mounts routes on an HTTP server and sends it requests. -/
  | server
  deriving DecidableEq, Repr

/-- A registration step. -/
structure Registering where
  host : HostChoice
  source : ControllerSource
  /-- The routes a recording host refuses (the strings of a list), or the complaint about
  them. -/
  refuse : Except String (List String)
  /-- The requests to send once the routes are served, or the complaint about them. -/
  requests : Except String (List (Option Http.Request))
  debug : Bool

/-- Read a registration step: host (`recording` unless named by a string), source (`map`
unless named by a string), controllers, refusals and requests. -/
def readRegistering (o : Json) : Except String Registering := do
  let host ← match textOr o "host" "recording" with
    | "recording" => pure HostChoice.recording
    | "recording_subs" => pure .recordingSubscriptions
    | "axum" => pure .server
    | other => throw ("unknown host '" ++ other ++ "'")
  let sourceName := textOr o "source" "map"
  unless sourceName == "map" || sourceName == "loader" do
    throw ("unknown source '" ++ sourceName ++ "'")
  let map ← readControllers (o.get? "controllers")
  let source ← readSource o map
  return ⟨host, source, someStrings o "fail_on", (listOf o "requests").map (·.map readRequest),
    flag o "debug"⟩

/-- Register a router's routes as a step says, and report what the host holds. Refusals are
read only by a recording host, and requests only when every route was registered, so a
malformed list of them is answered then, before a server is built from the routes. -/
def Registering.answer (g : Registering) (r : Router) : Json :=
  match g.host with
  | .server =>
    let (h, outcome) := register r g.source Http.ServerHost.empty
    let base : List (String × Json) :=
      [("result", Report.outcome outcome), ("skipped", .arr (h.skipped.map .str))]
    let shown := if g.debug then [("host_debug", .str h.debug)] else []
    match outcome, h.serve?, g.requests with
    | .error _, _, _ => Json.object (base ++ shown)
    | .ok _, _, .error m => Report.badInput m
    | .ok _, none, _ => Json.object (base ++ shown ++ [("responses", Json.object [("error", .str "Panic")])])
    | .ok _, some srv, .ok qs =>
      Json.object (base ++ shown ++ [("responses", .arr (qs.map (requestAnswer srv)))])
  | host =>
    match g.refuse with
    | .error m => Report.badInput m
    | .ok refuse =>
      let (h, outcome) :=
        register r g.source (RecordingHost.new refuse (host == .recordingSubscriptions))
      Json.object [("result", Report.outcome outcome),
        ("routes", .arr (h.routes.map (Report.httpRegistration · g.debug))),
        ("subscriptions", .arr (h.subscriptions.map (Report.subscriptionRegistration · g.debug)))]

/-- The answer to statements that stopped: the complaint, with the reports made before. -/
def stoppedAnswer (message : String) (trace : Array Json) : Json :=
  match Report.badInput message with
  | .obj fs => if trace.isEmpty then .obj fs else .obj (Json.Fields.insert "trace" (.arr trace.toList) fs)
  | j => j

/-- Run one step: the router after it and the answer. -/
def runStep (r : Router) (o : Json) : Router × Json :=
  let name? : Except String String := needStr o "name"
  let orBad (x : Except String Json) : Json := match x with
    | .ok j => j
    | .error m => Report.badInput m
  match o.get? "do" with
  | some (.str "add") =>
    match listOf o "body" with
    | .error m => (r, Report.badInput m)
    | .ok body =>
      let (r, trace, stopped) := runBuilder r (Statement.listOfJson body)
      let (r, built) := r.build
      match stopped with
      | some m => (r, stoppedAnswer m trace)
      | none =>
        let result := match built with
          | .ok t => Report.table t
          | .error e => Report.routerError e
        (r, Json.object [("result", result), ("trace", .arr trace.toList)])
  | some (.str "do") =>
    match listOf o "body" with
    | .error m => (r, Report.badInput m)
    | .ok body =>
      let (r, trace, stopped) := runBuilder r (Statement.listOfJson body)
      match stopped with
      | some m => (r, stoppedAnswer m trace)
      | none => (r, Json.object [("trace", .arr trace.toList)])
  | some (.str "build") =>
    let (r, built) := r.build
    match built with
    | .ok t => (r, Report.table t)
    | .error e => (r, Report.routerError e)
  | some (.str "routes") => (r, Report.table r.table)
  | some (.str "get") =>
    (r, orBad do
      let name ← name?
      return match r.get? name with
        | some ref => Report.routeDetail r.tree ref (flag o "debug")
        | none => .null)
  | some (.str "contains") => (r, orBad do return .bool (r.table.contains (← name?)))
  | some (.str "len") =>
    (r, Json.object [("len", Json.nat r.table.size), ("is_empty", .bool (r.table.size == 0))])
  | some (.str "names") => (r, .arr (r.table.names.map .str))
  | some (.str "iter") => (r, .arr (r.routes.map fun ref => Report.routeDetail r.tree ref (flag o "debug")))
  | some (.str "debug") => (r, .str r.debug)
  | some (.str "href") =>
    (r, orBad do
      let name ← name?
      let params ← readParams o
      return match r.href name params with
        | .ok s => Json.object [("href", .str s)]
        | .error e => Report.routerError e)
  | some (.str "phase") => (r, .str r.phase.name)
  | some (.str "options") => (r, Report.options r.options)
  | some (.str "register") => (r, orBad do return (← readRegistering o).answer r)
  | some (.str other) => (r, Report.badInput ("unknown step '" ++ other ++ "'"))
  | _ => (r, Report.badInput (fieldMust "do" "a string"))

/-- Run steps in order, answering each. -/
def runSteps (r : Router) : List Json → List Json
  | [] => []
  | o :: rest =>
    let (r', answer) := runStep r o
    answer :: runSteps r' rest

end ResourceRoutes.Script
