import ResourceRoutes.Tree.Visit

/-!
# The route table

The routes of a build, in walk order, with an index from canonical name to position.
`RouteTable.insert` refuses a name already present and otherwise appends; so names in a table
are distinct and the index knows exactly the names of the entries.
-/

namespace ResourceRoutes

/-- A route of the table: canonical name, path, and the route node. -/
structure RouteEntry where
  name : String
  path : String
  node : Nat
  deriving Repr, DecidableEq

/-- Routes in walk order, and the position of each name. -/
structure RouteTable where
  entries : List RouteEntry
  byName : List (String × Nat)
  deriving Repr, DecidableEq

namespace RouteTable

/-- The table without routes. -/
def empty : RouteTable := ⟨[], []⟩

/-- The position of a name. -/
def position? (t : RouteTable) (name : String) : Option Nat :=
  (t.byName.find? (·.1 == name)).map (·.2)

/-- Whether a route of this name is in the table. -/
def contains (t : RouteTable) (name : String) : Bool := (t.position? name).isSome

/-- Append a visited route; a name already present is refused. -/
def insert (t : RouteTable) (v : Visited) : Except RouterError RouteTable :=
  if t.contains v.name then .error (.duplicateRoute v.name)
  else .ok ⟨t.entries ++ [⟨v.name, v.path, v.node⟩], t.byName ++ [(v.name, t.entries.length)]⟩

/-- The table of visited routes, refusing the first repeated name. -/
def ofVisited (vs : List Visited) : Except RouterError RouteTable :=
  vs.foldlM insert empty

/-- The entry of a name. -/
def get? (t : RouteTable) (name : String) : Option RouteEntry :=
  (t.position? name).bind fun i => t.entries[i]?

/-- Number of routes. -/
def size (t : RouteTable) : Nat := t.entries.length

/-- Route names in table order. -/
def names (t : RouteTable) : List String := t.entries.map (·.name)

end RouteTable

end ResourceRoutes
