import ResourceRoutes.Tree.Setting
import ResourceRoutes.Route.Spec
import ResourceRoutes.Tree.Inherited

/-!
# The resource tree

Nodes live in one array and name their parent by index. A node is created under a parent,
whose options it reads at once, and is attached to the parent's children later; a node's parent
never changes. Children keep their attach order, and names are unique per parent: the first
attach of a second child of one name is recorded as the tree's error, and that child is never
attached. A collection-like node may have one more child, its items node, kept apart from the
named children.

* `Tree.lookup`: an option reads from the nearest node on the parent chain (the node first)
  that decides it; cleared reads as absent.
* `Tree.tags`, `Tree.pre`: lists accumulate down the chain, ancestors' entries first.

Every parent has a smaller index than its children, which is what bounds the walks up and down.
-/

namespace ResourceRoutes

/-- The kinds of resource nodes. -/
inductive ResourceKind where
  | router
  | «namespace»
  | collection
  | item
  | group
  | collectionItem
  | collectionGroup
  | itemGroup
  deriving Repr, DecidableEq

namespace ResourceKind

/-- The kind's name. -/
def name : ResourceKind → String
  | .router => "Router"
  | .namespace => "Namespace"
  | .collection => "Collection"
  | .item => "Item"
  | .group => "Group"
  | .collectionItem => "CollectionItem"
  | .collectionGroup => "CollectionGroup"
  | .itemGroup => "ItemGroup"

/-- Groups add nothing to names or paths. -/
def isTransparent : ResourceKind → Bool
  | .group | .collectionGroup | .itemGroup => true
  | _ => false

end ResourceKind

/-- What a node adds to the path: nothing, or one segment. -/
inductive Segment where
  | root
  | named (s : String)
  deriving Repr, DecidableEq

/-- A path with a segment after it; below `/` no second slash is added. -/
def joinPath (base seg : String) : String :=
  if base == "/" then "/" ++ seg else base ++ "/" ++ seg

/-- The path below a node with this segment. -/
def Segment.join : Segment → String → String
  | .root, base => base
  | .named s, base => joinPath base s

/-- A node is a resource with children, or a route. -/
inductive NodeBody where
  | resource (kind : ResourceKind) (children : List (String × Nat)) (items : Option Nat)
  | route (spec : RouteSpec)

/-- A node of the tree. -/
structure Node where
  parent : Option Nat
  name : String
  segment : Segment
  options : NodeOptions
  /-- The node's own tags. -/
  tags : List String
  /-- The node's own pre-steps. -/
  pre : List PreStep
  body : NodeBody

namespace Node

/-- A resource node's kind; `none` for a route. -/
def kind? (n : Node) : Option ResourceKind :=
  match n.body with
  | .resource k _ _ => some k
  | .route _ => none

/-- A route node's spec. -/
def spec? (n : Node) : Option RouteSpec :=
  match n.body with
  | .route s => some s
  | .resource .. => none

/-- Attached children by name, in attach order. -/
def children (n : Node) : List (String × Nat) :=
  match n.body with
  | .resource _ cs _ => cs
  | .route _ => []

/-- The items node. -/
def items? (n : Node) : Option Nat :=
  match n.body with
  | .resource _ _ i => i
  | .route _ => none

/-- Whether the node is a group, which adds nothing to names and paths. -/
def isTransparent (n : Node) : Bool :=
  match n.body with
  | .resource k _ _ => k.isTransparent
  | .route _ => false

/-- The canonical name below this node: `base.name`, just `name` under an empty base, and the
base itself for a group. -/
def joinName (n : Node) (base : String) : String :=
  if n.isTransparent then base else if base.isEmpty then n.name else base ++ "." ++ n.name

/-- The path below this node; a group adds nothing. -/
def joinSegment (n : Node) (base : String) : String :=
  if n.isTransparent then base else n.segment.join base

end Node

/-- The resource tree: its nodes (the root at index `0`) and its first assembly error. -/
structure Tree where
  nodes : Array Node
  error : Option RouterError

namespace Tree

/-- A tree of one resource node, the root, of kind `router`. -/
def new (rootName : String) : Tree :=
  ⟨#[⟨none, rootName, .root, NodeOptions.inheritAll, [], [], .resource .router [] none⟩], none⟩

/-- The node at an index. -/
def node? (t : Tree) (id : Nat) : Option Node := t.nodes[id]?

/-- Change the node at an index. -/
def modifyNode (t : Tree) (id : Nat) (f : Node → Node) : Tree :=
  { t with nodes := t.nodes.modify id f }

/-- A new node under `parent`, not yet attached; its index is the new node count less one. -/
def create (t : Tree) (parent : Nat) (name : String) (segment : Segment) (body : NodeBody) :
    Tree × Nat :=
  ({ t with nodes := t.nodes.push ⟨some parent, name, segment, NodeOptions.inheritAll, [], [], body⟩ },
    t.nodes.size)

/-- Attach a created node under its parent by its name. A name already attached there leaves
the node out, and is recorded as the tree's error unless one is recorded already. -/
def attach (t : Tree) (parent child : Nat) : Tree :=
  match t.node? parent, t.node? child with
  | some p, some c =>
    match p.body with
    | .resource k cs items =>
      if cs.any (·.1 == c.name) then
        match t.error with
        | some _ => t
        | none => { t with error := some (.duplicateChild p.name c.name) }
      else t.modifyNode parent fun n => { n with body := .resource k (cs ++ [(c.name, child)]) items }
    | .route _ => t
  | _, _ => t

/-- The items node of a resource, created under it on first use with the given name; later
uses return the same node whatever name they give. Under a route the node is created all the
same, but no slot records it. -/
def items (t : Tree) (parent : Nat) (name : String) : Tree × Nat :=
  match t.node? parent with
  | some p =>
    match p.body with
    | .resource k cs none =>
      let (t', id) := t.create parent name .root (.resource .collectionItem [] none)
      (t'.modifyNode parent fun n => { n with body := .resource k cs (some id) }, id)
    | .resource _ _ (some existing) => (t, existing)
    | .route _ => t.create parent name .root (.resource .collectionItem [] none)
  -- the arena is only asked for nodes it holds: an index past it is where indexing the arena
  -- would stop the program, and it is left as it is
  | none => (t, parent)

/-- Change a node's own options. -/
def modifyOptions (t : Tree) (id : Nat) (f : NodeOptions → NodeOptions) : Tree :=
  t.modifyNode id fun n => { n with options := f n.options }

/-- Add a tag to a node's own tags. -/
def addTag (t : Tree) (id : Nat) (tag : String) : Tree :=
  t.modifyNode id fun n => { n with tags := n.tags ++ [tag] }

/-- Add a pre-step to a node's own steps. -/
def addPre (t : Tree) (id : Nat) (p : PreStep) : Tree :=
  t.modifyNode id fun n => { n with pre := n.pre ++ [p] }

/-- Change a route node's spec. -/
def modifySpec (t : Tree) (id : Nat) (f : RouteSpec → RouteSpec) : Tree :=
  t.modifyNode id fun n =>
    match n.body with
    | .route s => { n with body := .route (f s) }
    | .resource .. => n

/-- The node and its ancestors, nearest first. -/
def chain (t : Tree) (id : Nat) : List Node :=
  match t.node? id with
  | none => []
  | some n =>
    match n.parent with
    | some p => if p < id then n :: chain t p else [n]
    | none => [n]
termination_by id

/-- The nearest decided value of an option up the chain; cleared reads as absent. -/
def lookup {α : Type} (t : Tree) (id : Nat) (field : NodeOptions → Setting α) : Option α :=
  ((t.chain id).findSome? fun n => (field n.options).decided).join

/-- The authentication requirement in force at a node. -/
def auth (t : Tree) (id : Nat) : Option Auth := t.lookup id (·.auth)

/-- The controller designation in force at a node. -/
def controller (t : Tree) (id : Nat) : Option Designation := t.lookup id (·.controller)

/-- The binding document in force at a node. -/
def bind (t : Tree) (id : Nat) : Option Json := t.lookup id (·.bind)

/-- The schema in force at a node for a validation slot. -/
def schema (t : Tree) (id : Nat) (s : Slot) : Option Json := t.lookup id (·.schema s)

/-- The tags at a node: ancestors' first. -/
def tags (t : Tree) (id : Nat) : List String := InheritedList.compose ((t.chain id).map (⟨·.tags⟩))

/-- The pre-steps at a node: ancestors' first. -/
def pre (t : Tree) (id : Nat) : List PreStep := InheritedList.compose ((t.chain id).map (⟨·.pre⟩))

end Tree

end ResourceRoutes
