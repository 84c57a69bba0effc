import ResourceRoutes.Tree.Basic

/-!
# Walking the tree

`Tree.visit` lists the attached routes below a node, depth first: the named children in attach
order, then the items node. Each route comes with its canonical name and its path. A group adds
nothing to either; another node adds `.name` to the name (just `name` under an empty one) and
its segment to the path. The items node adds `[name]` to the name and the segment `{name}` to
the path.
-/

namespace ResourceRoutes

/-- A route reached by the walk, with its canonical name and full path. -/
structure Visited where
  name : String
  path : String
  node : Nat
  deriving Repr, DecidableEq

namespace Tree

/-- The attached routes below node `id`, whose name and path are `baseName` and `basePath`. -/
def visit (t : Tree) (id : Nat) (baseName basePath : String) : List Visited :=
  if h : id < t.nodes.size then
    match t.nodes[id].body with
    | .route _ => []
    | .resource _ children items =>
      let named := children.flatMap fun (_, c) =>
        if id < c then
          match t.node? c with
          | none => []
          | some child =>
            let name := child.joinName baseName
            let path := child.joinSegment basePath
            match child.body with
            | .route _ => [⟨name, path, c⟩]
            | .resource .. => visit t c name path
        else []
      let member := match items with
        | some i =>
          if id < i then
            match t.node? i with
            | some item =>
              visit t i (baseName ++ "[" ++ item.name ++ "]")
                (joinPath basePath ("\x7b" ++ item.name ++ "\x7d"))
            | none => []
          else []
        | none => []
      named ++ member
  else []
termination_by t.nodes.size - id

end Tree

end ResourceRoutes
