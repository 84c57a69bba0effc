import ResourceRoutes.Router.Table
import ResourceRoutes.Router.Placeholder
import ResourceRoutes.Config.Options
import ResourceRoutes.Text.Percent

/-!
# The router

A router owns the tree, its options, the table of its last successful build, and its phase.
Any change to the tree moves the router back to assembling (`Router.touch`); only a build that
succeeds makes it built.

* `Router.build`: the table is cleared and the phase set to assembling first. A tree with an
  assembly error fails with it; otherwise the walk from the root (name `""`, path
  `rootPath`) is inserted in order, and the first repeated name fails. Only a complete table is
  stored, with the phase built.
* `Router.href`: the link to a built route with its placeholders filled by encoded values.
-/

namespace ResourceRoutes

/-- Whether the table matches the tree. -/
inductive Phase where
  | assembling
  | built
  deriving Repr, DecidableEq

/-- The phase's name. -/
def Phase.name : Phase → String
  | .assembling => "Assembling"
  | .built => "Built"

/-- A router: tree, options, last table and phase. -/
structure Router where
  tree : Tree
  options : Options
  table : RouteTable
  phase : Phase

/-- A table entry read together with its route node. -/
structure RouteRef where
  entry : RouteEntry
  spec : RouteSpec

namespace Router

/-- The name of the root resource. -/
def rootName : String := "ROUTER"

/-- A router with these options, taken as they are. -/
def withOptions (o : Options) : Router := ⟨Tree.new rootName, o, RouteTable.empty, .assembling⟩

/-- A router with checked options. -/
def fromOptions (o : Options) : Except RouterError Router :=
  match o.validate with
  | .ok () => .ok (withOptions o)
  | .error e => .error (.config e)

/-- The router after a change to its tree: assembling. -/
def touch (r : Router) : Router := { r with phase := .assembling }

/-- The walk of the whole tree from the root path. -/
def walk (r : Router) : List Visited := r.tree.visit 0 "" r.options.rootPath

/-- Rebuild the table from the tree. -/
def build (r : Router) : Router × Except RouterError RouteTable :=
  let r := { r with table := RouteTable.empty, phase := .assembling }
  match r.tree.error with
  | some e => (r, .error e)
  | none =>
    match RouteTable.ofVisited r.walk with
    | .error e => (r, .error e)
    | .ok t => ({ r with table := t, phase := .built }, .ok t)

/-- An entry with its route node, if the node is a route. -/
def refOf (r : Router) (e : RouteEntry) : Option RouteRef :=
  (r.tree.node? e.node).bind fun n => n.spec?.map fun s => ⟨e, s⟩

/-- The built route of a name. -/
def get? (r : Router) (name : String) : Option RouteRef :=
  (r.table.get? name).bind r.refOf

/-- The built routes in table order. -/
def routes (r : Router) : List RouteRef := r.table.entries.filterMap r.refOf

/-- The link to a built route: each placeholder filled with the value of its key (for a key
given twice, the later value), encoded as one path segment, after the base URL without its
trailing slashes. -/
def href (r : Router) (name : String) (params : List (String × String)) : Except RouterError String :=
  match r.table.get? name with
  | none => .error (.unknownRoute name)
  | some e =>
    let value? (k : String) : Option String := (params.reverse.find? (·.1 == k)).map (·.2)
    match (placeholders e.path).find? (fun p => (value? p).isNone) with
    | some missing => .error (.missingParam name missing)
    | none =>
      let path := fillPlaceholders e.path fun k => Text.encodeSegment ((value? k).getD "")
      match r.options.baseUrl with
      | some base => .ok (String.ofList (base.toList.reverse.dropWhile (· == '/')).reverse ++ path)
      | none => .ok path

/-- Debug notation of a router: options, phase, and the table's size. -/
def debug (r : Router) : String :=
  let opts := Debug.record "RouterOptions"
    [("base_path", Debug.option (r.options.basePath.map Debug.str)),
     ("base_url", Debug.option (r.options.baseUrl.map Debug.str))]
  Debug.record "Router" [("options", opts), ("phase", r.phase.name), ("routes", toString r.table.size)]

end Router

end ResourceRoutes
