/-!
# Lists that accumulate down the tree

A node adds its own items to a list that it inherits: what a node carries is every ancestor's
own items, the root's first, then its own. `InheritedList.compose` takes the chain nearest first
(the node, its parent, …) and gives that concatenation.
-/

namespace ResourceRoutes

/-- The items one node adds to a list inherited down the tree. -/
structure InheritedList (α : Type) where
  own : List α

namespace InheritedList

/-- The items carried at the first node of a chain given nearest first: the farthest ancestor's
items first. -/
def compose {α : Type} (chain : List (InheritedList α)) : List α :=
  (chain.reverse.map (·.own)).flatten

theorem compose_cons {α : Type} (l : InheritedList α) (rest : List (InheritedList α)) :
    compose (l :: rest) = compose rest ++ l.own := by
  simp [compose]

end InheritedList

end ResourceRoutes
