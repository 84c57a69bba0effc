import ResourceRoutes.Script.Statement
import ResourceRoutes.Script.Report

/-!
# Running builder statements

Statements run on a handle: the router's own handle (the root resource), a resource, or a route.
A statement the handle does not offer, or one with malformed fields, stops the run with a
complaint; what ran before it stays done.

* A child resource is created, its body runs on it, and then it is attached to its parent, also
  when the body stopped; only then its `then` statements run on it.
* Routes are attached when created; their `then` statements run on the route.
* Through the router's own handle, every statement that changes the tree marks the router
  assembling; `inspect`, `debug` and `tree` only report.
-/

namespace ResourceRoutes.Script

/-- What statements run on: a node and its kind. -/
structure Handle where
  node : Nat
  kind : HandleKind

/-- The router's own handle. -/
def Handle.root : Handle := ⟨0, .resource .router⟩

/-- Whether a handle is the router's own. -/
def Handle.isRoot (h : Handle) : Bool := h.node == 0 && h.kind == .resource .router

/-- The state builder statements change: the router, and the reports made so far. -/
structure Session where
  router : Router
  trace : Array Json

/-- Builder computations: they change a session and may stop with a complaint. -/
abbrev Build := ExceptT String (StateM Session)

/-- Change the tree through a handle. -/
def change (h : Handle) (f : Tree → Tree) : Build Unit :=
  modify fun s =>
    let r := if h.isRoot then s.router.touch else s.router
    { s with router := { r with tree := f r.tree } }

/-- Add a report to the trace. -/
def report (j : Json) : Build Unit := modify fun s => { s with trace := s.trace.push j }

/-- Create a node under a handle's node, through the handle. -/
def createUnder (h : Handle) (name : String) (seg : Segment) (body : NodeBody) : Build Nat := do
  let s ← get
  let id := s.router.tree.nodes.size
  change h fun t => (t.create h.node name seg body).1
  pure id

/-- The items node of a handle's node, created on first use. -/
def itemsUnder (h : Handle) (name : String) : Build Nat := do
  let s ← get
  let id := (s.router.tree.items h.node name).2
  change h fun t => (t.items h.node name).1
  pure id

/-- What `debug` reports of a handle: its debug notation, the designation and pre-steps in force,
and for a route its subscription and action. -/
def debugReport (r : Router) (h : Handle) : Json :=
  let t := r.tree
  let common : List (String × Json) :=
    [("controller", .str (Report.designationDebug (t.controller h.node))),
     ("pre", .str (Report.preDebug (t.pre h.node)))]
  match t.node? h.node with
  | none => .null
  | some n =>
    match h.kind, n.spec? with
    | .route, some spec =>
      Json.object ([("debug", .str (Debug.record "Route"
          [("name", Debug.str n.name), ("method", spec.method.debug), ("action", spec.action.debug)])),
        ("subscription", .str (Debug.option (spec.subscription.map Subscription.debug))),
        ("action", .str spec.action.debug), ("action_name", Json.optStr spec.action.name?)] ++ common)
    | .resource k, _ =>
      let shown := if h.isRoot then r.debug
        else Debug.record k.name
          [("name", Debug.str n.name), ("children", Debug.list (n.children.map (Debug.str ·.1)))]
      Json.object ([("debug", .str shown)] ++ common)
    | .route, none => .null

/-- Create and attach a route under a handle's node. -/
def addRoute (h : Handle) (name : String) (seg : Segment) (spec : RouteSpec) : Build Nat := do
  let id ← createUnder h name seg (.route spec)
  change h fun t => t.attach h.node id
  pure id

mutual

/-- Run one statement on a handle. -/
def run (h : Handle) : Statement → Build Unit
  | .unreadable m => throw m
  | .looseThen m st => if h.kind == .route then run h st else throw m
  | st => do
    unless offers h.kind st.verb do
      throw ("statement '" ++ st.verb ++ "' is not available on " ++ h.kind.name)
    match st with
    | .setAuth a => change h fun t => t.modifyOptions h.node ({ · with auth := .set a })
    | .clearAuth => change h fun t => t.modifyOptions h.node ({ · with auth := .clear })
    | .setController d => change h fun t => t.modifyOptions h.node ({ · with controller := .set d })
    | .clearController => change h fun t => t.modifyOptions h.node ({ · with controller := .clear })
    | .setBind v => change h fun t => t.modifyOptions h.node ({ · with bind := .set v })
    | .setValidate s schema => change h fun t => t.modifyOptions h.node (·.withSchema s (.set schema))
    | .clearValidate s => change h fun t => t.modifyOptions h.node (·.withSchema s .clear)
    | .tag tg => change h fun t => t.addTag h.node tg
    | .pre p => change h fun t => t.addPre h.node p
    | .inspect => do report (Report.inspect (← get).router.tree h.node)
    | .debug => do report (debugReport (← get).router h)
    | .tree => do report (Report.treeView (← get).router.tree h.node)
    | .child k name path body after => do
      let kind := match h.kind with
        | .resource parent => k.kind parent
        | .route => .group
      let seg : Segment := if k == .group then .root else .named (path.getD name)
      let id ← createUnder h name seg (.resource kind [] none)
      let stopped ← tryCatch (do runAll ⟨id, .resource kind⟩ body; pure none) fun e => pure (some e)
      change h fun t => t.attach h.node id
      if let some e := stopped then throw e
      runAll ⟨id, .resource kind⟩ after
    | .items name body after => do
      let id ← itemsUnder h name
      runAll ⟨id, .resource .collectionItem⟩ body
      runAll ⟨id, .resource .collectionItem⟩ after
    | .route m name path after => do
      let id ← addRoute h name (.named (path.getD name)) (RouteSpec.http m name)
      runAll ⟨id, .route⟩ after
    | .rootRoute m name after => do
      let id ← addRoute h name .root (RouteSpec.http m name)
      runAll ⟨id, .route⟩ after
    | .conventional c after => do
      let id ← addRoute h c.name .root (RouteSpec.http c.method c.name)
      runAll ⟨id, .route⟩ after
    | .subscription name config after => do
      let id ← addRoute h name .root (RouteSpec.subscriptionOf name config)
      runAll ⟨id, .route⟩ after
    | .setAction a => change h fun t => t.modifySpec h.node ({ · with action := a })
    | .changeMeta _ c => change h fun t => t.modifySpec h.node fun s => { s with metadata := c.apply s.metadata }
    | .replaceMeta (.ok m) => change h fun t => t.modifySpec h.node ({ · with metadata := m })
    | .replaceMeta (.error e) =>
      report (Json.object [("error", .str "MetaDeserialize"), ("message", .str e)])
    | .malformed _ m => throw m
    | .looseThen m _ => throw m
    | .unreadable m => throw m

/-- Run statements in order, stopping at the first complaint. -/
def runAll (h : Handle) : List Statement → Build Unit
  | [] => pure ()
  | st :: rest => do run h st; runAll h rest

end

/-- Run statements on the router's own handle: the router after them, the reports, and the
complaint that stopped them, if any. -/
def runBuilder (r : Router) (body : List Statement) : Router × Array Json × Option String :=
  match (runAll Handle.root body).run ⟨r, #[]⟩ with
  | (.ok (), s) => (s.router, s.trace, none)
  | (.error e, s) => (s.router, s.trace, some e)

end ResourceRoutes.Script
