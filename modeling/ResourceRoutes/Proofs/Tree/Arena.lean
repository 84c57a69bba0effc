import Mathlib.Logic.Relation
import ResourceRoutes.Tree.Basic

/-!
# What the tree operations do to the arena

Every change a builder makes to the tree is one `Tree.Step`:

* `create`: a new node, with no children and no items node, under an existing node;
* `attach`: a created node under its own parent, by its name. The node is never an items node,
  and it is at least `base`, the node count when the run that makes the step started, so a run
  only attaches nodes it created;
* `items`: the items node of an existing node, created on first use;
* `modify`: a change of a node's options, tags, pre-steps or route spec, which keeps its shape
  (`Node.SameShape`).

From the step alone:

* `Step.extends`: nodes keep their parent, name, segment and kind; children are only appended
  and an items node is never replaced (`Node.Grows`).
* `Step.error`: the error changes only at an attach, and only from none (`error_attach`).
* `Step.wf`: the arena stays well formed (`Tree.WF`): parents have smaller indices, every
  link leads to a node whose parent is the linking node, items nodes are exactly the
  collection items, and child names are distinct.
-/

namespace ResourceRoutes

namespace Node

/-- `n'` has the parent, name, segment, children, items node and kind of `n`: what a change of
options, tags, pre-steps or a route's spec keeps. -/
structure SameShape (n n' : Node) : Prop where
  parent : n'.parent = n.parent
  name : n'.name = n.name
  segment : n'.segment = n.segment
  children : n'.children = n.children
  items : n'.items? = n.items?
  kind : n'.kind? = n.kind?

/-- `n'` is `n` after later changes: same parent, name, segment and kind; children only
appended; an items node kept. -/
structure Grows (n n' : Node) : Prop where
  parent : n'.parent = n.parent
  name : n'.name = n.name
  segment : n'.segment = n.segment
  kind : n'.kind? = n.kind?
  children : n.children <+: n'.children
  items : ∀ i, n.items? = some i → n'.items? = some i

theorem Grows.refl (n : Node) : n.Grows n :=
  ⟨rfl, rfl, rfl, rfl, List.prefix_refl _, fun _ h => h⟩

theorem Grows.trans {n₁ n₂ n₃ : Node} (h₁ : n₁.Grows n₂) (h₂ : n₂.Grows n₃) : n₁.Grows n₃ :=
  ⟨h₂.parent.trans h₁.parent, h₂.name.trans h₁.name, h₂.segment.trans h₁.segment,
    h₂.kind.trans h₁.kind, h₁.children.trans h₂.children, fun i h => h₂.items i (h₁.items i h)⟩

theorem SameShape.grows {n n' : Node} (h : n.SameShape n') : n.Grows n' :=
  ⟨h.parent, h.name, h.segment, h.kind, h.children ▸ List.prefix_refl _, fun _ hi => h.items ▸ hi⟩

/-- A route has no kind, no children and no items node. -/
theorem kind?_eq_none_iff {n : Node} : n.kind? = none ↔ ∃ s, n.body = .route s := by
  unfold kind?; split <;> simp_all

@[simp] theorem children_route {n : Node} {s : RouteSpec} (h : n.body = .route s) :
    n.children = [] := by
  simp [children, h]

@[simp] theorem items?_route {n : Node} {s : RouteSpec} (h : n.body = .route s) :
    n.items? = none := by
  simp [items?, h]

end Node

/-- Whether a segment, when it names one, passes `p`. -/
def Segment.all (p : String → Bool) : Segment → Bool
  | .root => true
  | .named s => p s

theorem Segment.all_eq_true {p : String → Bool} {seg : Segment} :
    seg.all p = true ↔ ∀ s, seg = .named s → p s = true := by
  cases seg <;> simp [Segment.all]

/-- A body a new node may have: a route, or a resource with no children and no items node. -/
def NodeBody.IsFresh : NodeBody → Prop
  | .resource _ cs items => cs = [] ∧ items = none
  | .route _ => True

namespace Tree

variable {t : Tree}

/-! ## The operations, node by node -/

theorem node?_create (t : Tree) (p : Nat) (name : String) (seg : Segment) (body : NodeBody)
    (i : Nat) :
    (t.create p name seg body).1.node? i =
      if i = t.nodes.size then some ⟨some p, name, seg, NodeOptions.inheritAll, [], [], body⟩
      else t.node? i := by
  simp [create, node?, Array.getElem?_push]

@[simp] theorem create_snd (t : Tree) (p : Nat) (name : String) (seg : Segment) (body : NodeBody) :
    (t.create p name seg body).2 = t.nodes.size := rfl

@[simp] theorem size_create (t : Tree) (p : Nat) (name : String) (seg : Segment) (body : NodeBody) :
    (t.create p name seg body).1.nodes.size = t.nodes.size + 1 := by
  simp [create]

@[simp] theorem error_create (t : Tree) (p : Nat) (name : String) (seg : Segment) (body : NodeBody) :
    (t.create p name seg body).1.error = t.error := rfl

theorem node?_modifyNode (t : Tree) (id : Nat) (f : Node → Node) (i : Nat) :
    (t.modifyNode id f).node? i = if id = i then (t.node? i).map f else t.node? i :=
  Array.getElem?_modify

@[simp] theorem size_modifyNode (t : Tree) (id : Nat) (f : Node → Node) :
    (t.modifyNode id f).nodes.size = t.nodes.size := by
  simp [modifyNode]

@[simp] theorem error_modifyNode (t : Tree) (id : Nat) (f : Node → Node) :
    (t.modifyNode id f).error = t.error := rfl

theorem node?_lt {i : Nat} {n : Node} (h : t.node? i = some n) : i < t.nodes.size :=
  (Array.getElem?_eq_some_iff.1 h).1

theorem node?_isSome_iff {i : Nat} : (t.node? i).isSome ↔ i < t.nodes.size := by
  simp [node?]

/-- What holds of every node the tree gives holds of every member of its node list, and back;
so a condition on all nodes can be checked by running over the list. -/
theorem forall_node?_iff {P : Node → Prop} :
    (∀ i n, t.node? i = some n → P n) ↔ ∀ n ∈ t.nodes.toList, P n := by
  constructor
  · intro h n hn
    obtain ⟨i, hi⟩ := Array.mem_iff_getElem?.1 (Array.mem_toList_iff.1 hn)
    exact h i n hi
  · intro h i n hn
    exact h n (Array.mem_toList_iff.2 (Array.mem_of_getElem? hn))

/-- A condition on every named segment and on every items node of the tree, as one condition on
each member of its node list. -/
theorem forall_segment_items_iff {P : String → Prop} {Q : Node → Prop} :
    ((∀ {i n s}, t.node? i = some n → n.segment = .named s → P s) ∧
      ∀ {i n}, t.node? i = some n → n.kind? = some .collectionItem → Q n) ↔
    ∀ n ∈ t.nodes.toList, (∀ s, n.segment = .named s → P s) ∧
      (¬ n.kind? = some .collectionItem ∨ Q n) := by
  rw [← forall_node?_iff]
  constructor
  · rintro ⟨hseg, hitems⟩ i n hn
    refine ⟨fun s hs => hseg hn hs, ?_⟩
    by_cases hk : n.kind? = some .collectionItem
    · exact .inr (hitems hn hk)
    · exact .inl hk
  · intro h
    exact ⟨fun hn hs => (h _ _ hn).1 _ hs, fun hn hk => (h _ _ hn).2.resolve_left (not_not_intro hk)⟩

/-- The error an attach of node `c` under node `p` records on a tree that has none: `p` has an
attached child of `c`'s name already. -/
def clash (t : Tree) (p c : Nat) : Option RouterError :=
  match t.node? p, t.node? c with
  | some pn, some cn =>
    if pn.children.any (·.1 == cn.name) then some (.duplicateChild pn.name cn.name) else none
  | _, _ => none

/-- An attach records its clash unless an error is recorded already. -/
theorem error_attach (t : Tree) (p c : Nat) : (t.attach p c).error = t.error.or (t.clash p c) := by
  unfold attach clash
  rcases t.node? p with _ | pn <;> rcases t.node? c with _ | cn <;> simp only [Option.or_none]
  rcases hb : pn.body with ⟨k, cs, items⟩ | s
  · have hcs : pn.children = cs := by simp [Node.children, hb]
    by_cases hany : cs.any (·.1 == cn.name) = true
    · rcases he : t.error with _ | e <;> simp [hcs, hany, he]
    · simp [hcs, hany, modifyNode]
  · simp [Node.children_route hb]

/-- An attach that clashes leaves the nodes as they are: the rejected node enters no children
list. -/
theorem nodes_attach_of_clash {p c : Nat} {e : RouterError} (h : t.clash p c = some e) :
    (t.attach p c).nodes = t.nodes := by
  unfold clash at h
  rcases hp : t.node? p with _ | pn
  · simp [hp] at h
  rcases hc : t.node? c with _ | cn
  · simp [hp, hc] at h
  simp only [hp, hc] at h
  unfold attach
  simp only [hp, hc]
  rcases hb : pn.body with ⟨k, cs, items⟩ | s
  · have hcs : pn.children = cs := by simp [Node.children, hb]
    have hany : cs.any (·.1 == cn.name) = true := by
      cases hn : cs.any (·.1 == cn.name)
      · simp [hcs, hn] at h
      · rfl
    rcases t.error with _ | _ <;> simp [hany]
  · rfl

/-- An attach either leaves the nodes as they are, or appends the child, under its name, to the
children of its parent, a resource at which it does not clash. -/
theorem attach_cases (t : Tree) (p c : Nat) :
    (t.attach p c).nodes = t.nodes ∨
      ∃ pn cn k cs items, t.node? p = some pn ∧ t.node? c = some cn ∧
        pn.body = .resource k cs items ∧ t.clash p c = none ∧
        (t.attach p c).nodes =
          (t.modifyNode p fun n => { n with body := .resource k (cs ++ [(cn.name, c)]) items }).nodes := by
  unfold attach
  rcases hp : t.node? p with _ | pn
  · exact .inl rfl
  rcases hc : t.node? c with _ | cn
  · exact .inl rfl
  simp only
  rcases hb : pn.body with ⟨k, cs, items⟩ | s
  · simp only
    by_cases hany : cs.any (·.1 == cn.name) = true
    · left; rcases t.error with _ | _ <;> simp [hany]
    · have hcl : t.clash p c = none := by
        simp [clash, hp, hc, Node.children, hb, hany]
      right
      exact ⟨pn, cn, k, cs, items, rfl, rfl, hb, hcl, by simp [hany]⟩
  · exact .inl rfl

@[simp] theorem size_attach (t : Tree) (p c : Nat) : (t.attach p c).nodes.size = t.nodes.size := by
  rcases attach_cases t p c with h | ⟨_, _, _, _, _, -, -, -, -, h⟩
  · rw [h]
  · rw [h, size_modifyNode]

/-- The items node of `p`: the one it has, or a new collection item under it, recorded as its
items node; under a route, a new collection item that no slot records. A missing node is left as
it is. -/
theorem items_cases (t : Tree) (p : Nat) (name : String) :
    ((t.items p name).1 = t ∧ ((∃ pn, t.node? p = some pn ∧ pn.items? = some (t.items p name).2) ∨
        (t.items p name).2 = p ∧ t.node? p = none)) ∨
      (∃ pn k cs, t.node? p = some pn ∧ pn.body = .resource k cs none ∧
        (t.items p name).2 = t.nodes.size ∧
        (t.items p name).1 =
          (t.create p name .root (.resource .collectionItem [] none)).1.modifyNode p
            fun n => { n with body := .resource k cs (some t.nodes.size) }) ∨
      ∃ pn s, t.node? p = some pn ∧ pn.body = .route s ∧ (t.items p name).2 = t.nodes.size ∧
        (t.items p name).1 = (t.create p name .root (.resource .collectionItem [] none)).1 := by
  unfold items
  rcases hp : t.node? p with _ | pn
  · exact .inl ⟨rfl, .inr ⟨rfl, rfl⟩⟩
  simp only
  rcases hb : pn.body with ⟨k, cs, _ | i⟩ | s
  · exact .inr (.inl ⟨pn, k, cs, rfl, hb, rfl, rfl⟩)
  · exact .inl ⟨rfl, .inl ⟨pn, rfl, by simp [Node.items?, hb]⟩⟩
  · exact .inr (.inr ⟨pn, s, rfl, hb, rfl, rfl⟩)

@[simp] theorem error_items (t : Tree) (p : Nat) (name : String) :
    (t.items p name).1.error = t.error := by
  rcases items_cases t p name with ⟨h, -⟩ | ⟨_, _, _, -, -, -, h⟩ | ⟨_, _, -, -, -, h⟩
  · rw [h]
  · rw [h, error_modifyNode, error_create]
  · rw [h, error_create]

theorem node?_create_of_lt {i : Nat} (p : Nat) (name : String) (seg : Segment) (body : NodeBody)
    (h : i < t.nodes.size) : (t.create p name seg body).1.node? i = t.node? i := by
  rw [node?_create, if_neg (by omega)]

/-- A node of the tree after a change at one node: the changed node, or one as it was. -/
theorem node?_modifyNode_eq_some {id i : Nat} {f : Node → Node} {m : Node} :
    (t.modifyNode id f).node? i = some m ↔
      (∃ n, id = i ∧ t.node? i = some n ∧ m = f n) ∨ (id ≠ i ∧ t.node? i = some m) := by
  rw [node?_modifyNode]
  by_cases h : id = i
  · simp only [h, if_true, ne_eq, not_true_eq_false, false_and, or_false, true_and]
    constructor
    · intro hm
      obtain ⟨n, hn, rfl⟩ := Option.map_eq_some_iff.1 hm
      exact ⟨n, hn, rfl⟩
    · rintro ⟨n, hn, rfl⟩
      simp [hn]
  · simp [h]

theorem node?_attach (t : Tree) (p c i : Nat) :
    (t.attach p c).node? i = (t.attach p c).nodes[i]? := rfl

/-! ## Nodes only grow -/

/-- Every node of `t` is a node of `t'`, grown (`Node.Grows`). -/
def Extends (t t' : Tree) : Prop :=
  ∀ i n, t.node? i = some n → ∃ n', t'.node? i = some n' ∧ n.Grows n'

theorem Extends.refl (t : Tree) : t.Extends t := fun _ n h => ⟨n, h, .refl n⟩

theorem Extends.trans {t₁ t₂ t₃ : Tree} (h₁ : t₁.Extends t₂) (h₂ : t₂.Extends t₃) :
    t₁.Extends t₃ := by
  intro i n h
  obtain ⟨n₂, h₂', g₂⟩ := h₁ i n h
  obtain ⟨n₃, h₃, g₃⟩ := h₂ i n₂ h₂'
  exact ⟨n₃, h₃, g₂.trans g₃⟩

theorem Extends.size_le {t' : Tree} (h : t.Extends t') : t.nodes.size ≤ t'.nodes.size := by
  rcases hs : t.nodes.size with _ | k
  · exact Nat.zero_le _
  · obtain ⟨n, hn⟩ : ∃ n, t.node? k = some n :=
      Option.isSome_iff_exists.1 (node?_isSome_iff.2 (by omega))
    obtain ⟨n', hn', -⟩ := h k n hn
    exact node?_lt hn'

theorem extends_create (t : Tree) (p : Nat) (name : String) (seg : Segment) (body : NodeBody) :
    t.Extends (t.create p name seg body).1 :=
  fun _ n h => ⟨n, by rw [node?_create_of_lt _ _ _ _ (node?_lt h)]; exact h, .refl n⟩

theorem extends_modifyNode {id : Nat} {f : Node → Node}
    (hf : ∀ n, t.node? id = some n → n.Grows (f n)) : t.Extends (t.modifyNode id f) := by
  intro i n h
  rw [node?_modifyNode]
  split
  · subst_vars; exact ⟨f n, by simp [h], hf n h⟩
  · exact ⟨n, h, .refl n⟩

theorem extends_attach (t : Tree) (p c : Nat) : t.Extends (t.attach p c) := by
  rcases attach_cases t p c with h | ⟨pn, cn, k, cs, items, hp, -, hb, -, h⟩
  · intro i n hn
    exact ⟨n, by rw [node?_attach, h]; exact hn, .refl n⟩
  · have hm : t.Extends (t.modifyNode p fun n => { n with body := .resource k (cs ++ [(cn.name, c)]) items }) := by
      refine extends_modifyNode fun n hn => ?_
      rw [hp] at hn; cases hn
      exact ⟨rfl, rfl, rfl, by simp [Node.kind?, hb],
        by simp [Node.children, hb], fun i hi => by simpa [Node.items?, hb] using hi⟩
    intro i n hn
    obtain ⟨n', hn', g⟩ := hm i n hn
    exact ⟨n', by rw [node?_attach, h]; exact hn', g⟩

theorem extends_items (t : Tree) (p : Nat) (name : String) : t.Extends (t.items p name).1 := by
  rcases items_cases t p name with ⟨h, -⟩ | ⟨pn, k, cs, hp, hb, -, h⟩ | ⟨-, -, -, -, -, h⟩
  · rw [h]; exact .refl t
  · rw [h]
    refine (extends_create t p name .root _).trans (extends_modifyNode fun n hn => ?_)
    rw [node?_create_of_lt _ _ _ _ (node?_lt hp), hp] at hn; cases hn
    exact ⟨rfl, rfl, rfl, by simp [Node.kind?, hb], by simp [Node.children, hb],
      fun i hi => by simp [Node.items?, hb] at hi⟩
  · rw [h]; exact extends_create t p name .root _

/-! ## Steps -/

/-- One change a builder makes to the tree, in a run that started with `base` nodes. -/
inductive Step (base : Nat) : Tree → Tree → Prop
  /-- A new node under an existing one. -/
  | create {t : Tree} {p : Nat} {name : String} {seg : Segment} {body : NodeBody} :
      p < t.nodes.size → body.IsFresh → Step base t (t.create p name seg body).1
  /-- A node the run created, attached under its parent; never an items node. -/
  | attach {t : Tree} {p c : Nat} {n : Node} :
      t.node? c = some n → n.parent = some p → n.kind? ≠ some .collectionItem → base ≤ c →
      Step base t (t.attach p c)
  /-- The items node of an existing node. -/
  | items {t : Tree} {p : Nat} {name : String} :
      p < t.nodes.size → Step base t (t.items p name).1
  /-- A change of one node that keeps its shape. -/
  | modify {t : Tree} {id : Nat} {f : Node → Node} :
      (∀ n : Node, n.SameShape (f n)) → Step base t (t.modifyNode id f)

theorem Step.mono {base base' : Nat} {t t' : Tree} (hb : base' ≤ base) :
    Step base t t' → Step base' t t'
  | .create hp hf => .create hp hf
  | .attach hc hp hk hcb => .attach hc hp hk (Nat.le_trans hb hcb)
  | .items hp => .items hp
  | .modify hf => .modify hf

theorem Step.extends {base : Nat} {t t' : Tree} : Step base t t' → t.Extends t'
  | .create .. => extends_create _ _ _ _ _
  | .attach .. => extends_attach _ _ _
  | .items .. => extends_items _ _ _
  | .modify hf => extends_modifyNode fun n _ => (hf n).grows

/-- A recorded error stays. -/
theorem Step.error {base : Nat} {t t' : Tree} {e : RouterError} (h : t.error = some e) :
    Step base t t' → t'.error = some e
  | .create .. => h
  | .attach .. => by rw [error_attach, h, Option.some_or]
  | .items .. => by rw [error_items, h]
  | .modify _ => h

/-! ## Well-formed arenas -/

/-- The arena is well formed: the root is node `0`, a router with no parent; a parent has a
smaller index than its child; every attached child and every items node exists and has the
linking node as its parent; items nodes are collection items and attached children are not;
child names are distinct. -/
structure WF (t : Tree) : Prop where
  root : ∃ r, t.node? 0 = some r ∧ r.parent = none ∧ r.kind? = some .router
  parent_lt : ∀ {i n p}, t.node? i = some n → n.parent = some p → p < i
  child : ∀ {p n e}, t.node? p = some n → e ∈ n.children →
    ∃ c, t.node? e.2 = some c ∧ c.parent = some p ∧ c.name = e.1 ∧ c.kind? ≠ some .collectionItem
  items : ∀ {p n i}, t.node? p = some n → n.items? = some i →
    ∃ c, t.node? i = some c ∧ c.parent = some p ∧ c.kind? = some .collectionItem
  names : ∀ {p n}, t.node? p = some n → (n.children.map (·.1)).Nodup

/-- The one node of a new tree is its root. -/
theorem node?_new {name : String} {i : Nat} {n : Node} (h : (Tree.new name).node? i = some n) :
    i = 0 ∧ n = ⟨none, name, .root, NodeOptions.inheritAll, [], [], .resource .router [] none⟩ := by
  rcases i with _ | i
  · exact ⟨rfl, by simpa [new, node?] using h.symm⟩
  · simp [new, node?] at h

theorem wf_new (name : String) : (Tree.new name).WF where
  root := ⟨_, rfl, rfl, rfl⟩
  parent_lt h hp := by
    obtain ⟨rfl, rfl⟩ := node?_new h; cases hp
  child h he := by
    obtain ⟨rfl, rfl⟩ := node?_new h; simp [Node.children] at he
  items h hi := by
    obtain ⟨rfl, rfl⟩ := node?_new h; simp [Node.items?] at hi
  names h := by
    obtain ⟨rfl, rfl⟩ := node?_new h; simp [Node.children]

theorem WF.size_pos (hwf : t.WF) : 0 < t.nodes.size := by
  obtain ⟨r, hr, -⟩ := hwf.root
  exact node?_lt hr

theorem WF.create (hwf : t.WF) {p : Nat} {name : String} {seg : Segment} {body : NodeBody}
    (hp : p < t.nodes.size) (hfresh : body.IsFresh) : (t.create p name seg body).1.WF := by
  -- the new node has no links; every other node and link is as before
  have hnew : ∀ {n}, (t.create p name seg body).1.node? t.nodes.size = some n →
      n.children = [] ∧ n.items? = none := by
    intro n h
    rw [node?_create, if_pos rfl] at h; cases h
    unfold NodeBody.IsFresh at hfresh
    split at hfresh <;> simp_all [Node.children, Node.items?]
  have hold : ∀ {i n}, (t.create p name seg body).1.node? i = some n → i ≠ t.nodes.size →
      t.node? i = some n := by
    intro i n h hi
    rwa [node?_create, if_neg hi] at h
  have hkeep : ∀ {i n}, t.node? i = some n → (t.create p name seg body).1.node? i = some n :=
    fun h => by rw [node?_create_of_lt _ _ _ _ (node?_lt h)]; exact h
  refine ⟨?_, ?_, ?_, ?_, ?_⟩
  · obtain ⟨r, hr, hr'⟩ := hwf.root
    exact ⟨r, hkeep hr, hr'⟩
  · intro i n q h hq
    by_cases hi : i = t.nodes.size
    · subst hi
      rw [node?_create, if_pos rfl] at h; cases h; cases hq; exact hp
    · exact hwf.parent_lt (hold h hi) hq
  · intro q n e h he
    by_cases hq : q = t.nodes.size
    · subst hq; simp [(hnew h).1] at he
    · obtain ⟨c, hc, hc'⟩ := hwf.child (hold h hq) he
      exact ⟨c, hkeep hc, hc'⟩
  · intro q n i h hi
    by_cases hq : q = t.nodes.size
    · subst hq; simp [(hnew h).2] at hi
    · obtain ⟨c, hc, hc'⟩ := hwf.items (hold h hq) hi
      exact ⟨c, hkeep hc, hc'⟩
  · intro q n h
    by_cases hq : q = t.nodes.size
    · subst hq; simp [(hnew h).1]
    · exact hwf.names (hold h hq)

/-- A change of one node that keeps its parent, name and kind keeps the arena well formed when
the node's new links satisfy the conditions of `WF` in the tree before. -/
theorem WF.modifyNode (hwf : t.WF) {id : Nat} {f : Node → Node} {n₀ : Node}
    (hn : t.node? id = some n₀) (hparent : (f n₀).parent = n₀.parent) (hname : (f n₀).name = n₀.name)
    (hkind : (f n₀).kind? = n₀.kind?)
    (hchild : ∀ e ∈ (f n₀).children, ∃ c, t.node? e.2 = some c ∧ c.parent = some id ∧
      c.name = e.1 ∧ c.kind? ≠ some .collectionItem)
    (hitems : ∀ i, (f n₀).items? = some i →
      ∃ c, t.node? i = some c ∧ c.parent = some id ∧ c.kind? = some .collectionItem)
    (hnames : ((f n₀).children.map (·.1)).Nodup) : (t.modifyNode id f).WF := by
  -- a node read after the change has the parent, name and kind it had before
  have htr : ∀ {j c}, t.node? j = some c → ∃ c', (t.modifyNode id f).node? j = some c' ∧
      c'.parent = c.parent ∧ c'.name = c.name ∧ c'.kind? = c.kind? := by
    intro j c hc
    by_cases hj : id = j
    · subst hj; rw [hn] at hc; cases hc
      exact ⟨f n₀, by simp [node?_modifyNode, hn], hparent, hname, hkind⟩
    · exact ⟨c, by rw [node?_modifyNode, if_neg hj]; exact hc, rfl, rfl, rfl⟩
  refine ⟨?_, ?_, ?_, ?_, ?_⟩
  · obtain ⟨r, hr, hrp, hrk⟩ := hwf.root
    obtain ⟨r', hr', hp', -, hk'⟩ := htr hr
    exact ⟨r', hr', hp'.trans hrp, hk'.trans hrk⟩
  · intro i m q h hq
    rcases node?_modifyNode_eq_some.1 h with ⟨n, rfl, hi, rfl⟩ | ⟨-, hi⟩
    · rw [hn] at hi; cases hi
      exact hwf.parent_lt hn (hparent ▸ hq)
    · exact hwf.parent_lt hi hq
  · intro q m e h he
    obtain ⟨c, hc, hcp, hcn, hck⟩ : ∃ c, t.node? e.2 = some c ∧ c.parent = some q ∧
        c.name = e.1 ∧ c.kind? ≠ some .collectionItem := by
      rcases node?_modifyNode_eq_some.1 h with ⟨n, rfl, hi, rfl⟩ | ⟨-, hi⟩
      · rw [hn] at hi; cases hi; exact hchild e he
      · exact hwf.child hi he
    obtain ⟨c', hc', hp', hn', hk'⟩ := htr hc
    exact ⟨c', hc', hp'.trans hcp, hn'.trans hcn, hk' ▸ hck⟩
  · intro q m i h hi
    obtain ⟨c, hc, hcp, hck⟩ : ∃ c, t.node? i = some c ∧ c.parent = some q ∧
        c.kind? = some .collectionItem := by
      rcases node?_modifyNode_eq_some.1 h with ⟨n, rfl, hq, rfl⟩ | ⟨-, hq⟩
      · rw [hn] at hq; cases hq; exact hitems i hi
      · exact hwf.items hq hi
    obtain ⟨c', hc', hp', -, hk'⟩ := htr hc
    exact ⟨c', hc', hp'.trans hcp, hk'.trans hck⟩
  · intro q m h
    rcases node?_modifyNode_eq_some.1 h with ⟨n, rfl, hi, rfl⟩ | ⟨-, hi⟩
    · rw [hn] at hi; cases hi; exact hnames
    · exact hwf.names hi

theorem WF.of_nodes_eq {t' : Tree} (hwf : t.WF) (h : t'.nodes = t.nodes) : t'.WF := by
  have hn : ∀ i, t'.node? i = t.node? i := fun i => by simp [node?, h]
  exact ⟨by simpa [hn] using hwf.root, fun h' => hwf.parent_lt (by rwa [← hn]),
    fun h' he => by simpa [hn] using hwf.child (by rwa [← hn]) he,
    fun h' hi => by simpa [hn] using hwf.items (by rwa [← hn]) hi,
    fun h' => hwf.names (by rwa [← hn])⟩

theorem Step.wf {base : Nat} {t t' : Tree} (hwf : t.WF) : Step base t t' → t'.WF
  | .create hp hf => hwf.create hp hf
  | .attach (p := p) (c := c) (n := n) hc hcp hck _ => by
    rcases attach_cases t p c with h | ⟨pn, cn, k, cs, items, hp, hc', hb, hcl, h⟩
    · exact hwf.of_nodes_eq h
    · rw [hc] at hc'; cases hc'
      refine WF.of_nodes_eq (hwf.modifyNode hp rfl rfl (by simp [Node.kind?, hb]) ?_ ?_ ?_) h
      · intro e he
        simp only [Node.children, List.mem_append, List.mem_singleton] at he
        rcases he with he | rfl
        · exact hwf.child hp (by simpa [Node.children, hb] using he)
        · exact ⟨_, hc, hcp, rfl, hck⟩
      · intro i hi
        exact hwf.items hp (by simpa [Node.items?, hb] using hi)
      · have hnd := hwf.names hp
        have hfree : ¬ (cs.any (·.1 == n.name) = true) := by
          intro hany
          simp [clash, hp, hc, Node.children, hb, hany] at hcl
        simp only [Node.children, hb] at hnd
        simp only [Node.children, List.map_append, List.map_cons, List.map_nil]
        refine List.nodup_append.2 ⟨hnd, by simp, ?_⟩
        intro a ha b hb' hab
        rw [List.mem_singleton] at hb'
        obtain ⟨e, he, rfl⟩ := List.mem_map.1 ha
        exact hfree (List.any_eq_true.2 ⟨e, he, by simp [hab, hb']⟩)
  | @Step.items _ _ p name hp => by
    rcases items_cases t p name with ⟨h, -⟩ | ⟨pn, k, cs, hpn, hb, -, h⟩ | ⟨-, -, -, -, -, h⟩
    · rw [h]; exact hwf
    · rw [h]
      have hc : (t.create p name .root (.resource .collectionItem [] none)).1.WF :=
        hwf.create hp ⟨rfl, rfl⟩
      have hpn' := node?_create_of_lt p name .root (.resource .collectionItem [] none) (node?_lt hpn)
      rw [hpn] at hpn'
      refine hc.modifyNode hpn' rfl rfl (by simp [Node.kind?, hb]) ?_ ?_ ?_
      · intro e he
        obtain ⟨c, hc', hc''⟩ := hwf.child hpn (by simpa [Node.children, hb] using he)
        exact ⟨c, by rw [node?_create_of_lt _ _ _ _ (node?_lt hc')]; exact hc', hc''⟩
      · intro i hi
        simp only [Node.items?, Option.some.injEq] at hi
        subst hi
        exact ⟨_, by rw [node?_create, if_pos rfl], rfl, rfl⟩
      · simpa [Node.children, hb] using hwf.names hpn
    · -- under a route the new node stays out of every slot
      rw [h]; exact hwf.create hp ⟨rfl, rfl⟩
  | @Step.modify _ _ id f hf => by
    rcases hn : t.node? id with _ | n₀
    · refine hwf.of_nodes_eq ?_
      simp only [modifyNode]
      apply Array.ext (by simp)
      intro i h₁ h₂
      simp only [Array.getElem_modify]
      split
      · subst_vars; simp [node?] at hn; omega
      · rfl
    · refine hwf.modifyNode hn (hf n₀).parent (hf n₀).name (hf n₀).kind ?_ ?_ ?_
      · intro e he; exact hwf.child hn ((hf n₀).children ▸ he)
      · intro i hi; exact hwf.items hn ((hf n₀).items ▸ hi)
      · rw [(hf n₀).children]; exact hwf.names hn

/-- The node a well-formed tree gives as the items node of one of its nodes is a node. -/
theorem WF.items_snd_lt (hwf : t.WF) {p : Nat} (hp : p < t.nodes.size) (name : String) :
    (t.items p name).2 < (t.items p name).1.nodes.size := by
  rcases items_cases t p name with ⟨h, ⟨pn, hpn, hi⟩ | ⟨hi, -⟩⟩ | ⟨pn, k, cs, -, -, hi, h⟩ |
      ⟨-, -, -, -, hi, h⟩
  · obtain ⟨c, hc, -⟩ := hwf.items hpn hi
    rw [h]; exact node?_lt hc
  · rw [h, hi]; exact hp
  · rw [h, hi]; simp
  · rw [h, hi]; simp

/-! ## Runs of steps -/

section Steps

variable {base : Nat} {t' : Tree}

theorem Steps.wf (hwf : t.WF) (h : Relation.ReflTransGen (Step base) t t') : t'.WF := by
  induction h with
  | refl => exact hwf
  | tail _ hs ih => exact hs.wf ih

theorem Steps.extends (h : Relation.ReflTransGen (Step base) t t') : t.Extends t' := by
  induction h with
  | refl => exact .refl t
  | tail _ hs ih => exact ih.trans hs.extends

theorem Steps.error {e : RouterError} (he : t.error = some e)
    (h : Relation.ReflTransGen (Step base) t t') : t'.error = some e := by
  induction h with
  | refl => exact he
  | tail _ hs ih => exact hs.error ih

theorem Steps.mono {base' : Nat} (hb : base' ≤ base) (h : Relation.ReflTransGen (Step base) t t') :
    Relation.ReflTransGen (Step base') t t' := by
  induction h with
  | refl => exact .refl
  | tail _ hs ih => exact ih.tail (hs.mono hb)

end Steps

end Tree

end ResourceRoutes
