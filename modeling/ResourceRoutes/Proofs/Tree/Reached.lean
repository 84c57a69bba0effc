import ResourceRoutes.Proofs.Router.Duplicates
import ResourceRoutes.Proofs.Tree.Inheritance

/-!
# The arena of a reached tree

Every tree a router reaches from a fresh one, through builder statements and builds, is a well
formed arena (`Tree.WF`). This module reads the arena's slots off that invariant and one more
that the steps keep:

* every index stored in a parent link, a children list or an items slot is a node; a parent
  has a smaller index than its child, and only a resource has children (`WF.parent_node`,
  `WF.slot_node`);
* a node sits in at most one slot of the whole tree, the one of its parent that links to it
  (`WF.slot_unique`);
* only the root lacks a parent (`Tree.Parented`), so the walk up from any node ends at the root
  (`chainIds_getLast?`);
* later operations keep each node's kind and name and a filled items slot; a later `items` under
  any name returns the node of the slot (`items_of_items?`), which the first call created under
  its own name (`items_of_fresh`).

`reached_arena_well_formed` puts these together.
-/

namespace ResourceRoutes

namespace Tree

variable {t : Tree}

/-! ## Slots -/

/-- A parent link names an existing node of smaller index. -/
theorem WF.parent_node (hwf : t.WF) {i p : Nat} {n : Node} (hn : t.node? i = some n)
    (hp : n.parent = some p) : p < i ∧ (t.node? p).isSome :=
  have hlt := hwf.parent_lt hn hp
  ⟨hlt, node?_isSome_iff.2 (Nat.lt_trans hlt (node?_lt hn))⟩

/-- A node in a children list or an items slot is a node under the slot's owner, of larger
index, and the owner is a resource. -/
theorem WF.slot_node (hwf : t.WF) {p c : Nat} {n : Node} (hn : t.node? p = some n)
    (hc : c ∈ n.children.map (·.2) ∨ n.items? = some c) :
    (∃ k, n.kind? = some k) ∧ p < c ∧ ∃ cn, t.node? c = some cn ∧ cn.parent = some p := by
  obtain ⟨cn, hcn, hcp⟩ : ∃ cn, t.node? c = some cn ∧ cn.parent = some p := by
    rcases hc with hc | hc
    · obtain ⟨e, he, rfl⟩ := List.mem_map.1 hc
      obtain ⟨cn, hcn, hcp, -⟩ := hwf.child hn he
      exact ⟨cn, hcn, hcp⟩
    · obtain ⟨cn, hcn, hcp, -⟩ := hwf.items hn hc
      exact ⟨cn, hcn, hcp⟩
  refine ⟨?_, hwf.parent_lt hcn hcp, cn, hcn, hcp⟩
  rcases hb : n.body with ⟨k, cs, items⟩ | s
  · exact ⟨k, by simp [Node.kind?, hb]⟩
  · -- a route has no children and no items node
    simp [Node.children_route hb, Node.items?_route hb] at hc

/-- A node sits in at most one slot: every link to it starts at its parent, and a node has
one link to each of its children. -/
theorem WF.slot_unique (hwf : t.WF) {p p' c : Nat} {n n' : Node} {l l' : Link}
    (hn : t.node? p = some n) (hn' : t.node? p' = some n') (hl : n.target? l = some c)
    (hl' : n'.target? l' = some c) : p = p' ∧ l = l' := by
  obtain ⟨child, hchild, hp⟩ := hwf.target hn hl
  obtain ⟨child', hchild', hp'⟩ := hwf.target hn' hl'
  rw [hchild] at hchild'; cases hchild'
  obtain rfl : p = p' := Option.some.inj (hp.symm.trans hp')
  rw [hn] at hn'; cases hn'
  exact ⟨rfl, hwf.link_unique hn hl hl'⟩

/-! ## Only the root lacks a parent -/

/-- Every node but the root has a parent. -/
def Parented (t : Tree) : Prop :=
  ∀ i n, t.node? i = some n → n.parent = none → i = 0

theorem parented_new (name : String) : (Tree.new name).Parented :=
  fun _ _ h _ => (node?_new h).1

theorem Parented.of_nodes_eq {t' : Tree} (hP : t.Parented) (h : t'.nodes = t.nodes) :
    t'.Parented :=
  fun i n hn => hP i n (by simpa [node?, h] using hn)

theorem Parented.create (hP : t.Parented) (p : Nat) (name : String) (seg : Segment)
    (body : NodeBody) : (t.create p name seg body).1.Parented := by
  intro i n hn hnone
  rw [node?_create] at hn
  split at hn
  · cases hn; cases hnone
  · exact hP i n hn hnone

theorem Parented.modifyNode (hP : t.Parented) {id : Nat} {f : Node → Node}
    (hf : ∀ n, (f n).parent = n.parent) : (t.modifyNode id f).Parented := by
  intro i m hm hnone
  rcases node?_modifyNode_eq_some.1 hm with ⟨n, -, hn, rfl⟩ | ⟨-, hn⟩
  · exact hP i n hn ((hf n).symm.trans hnone)
  · exact hP i m hn hnone

/-- Every step creates nodes under a parent and keeps the parents of the others. -/
theorem Step.parented {base : Nat} {t' : Tree} (hP : t.Parented) : Step base t t' → t'.Parented
  | .create .. => hP.create _ _ _ _
  | .attach (p := p) (c := c) .. => by
    rcases attach_cases t p c with h | ⟨pn, cn, k, cs, items, -, -, -, -, h⟩
    · exact hP.of_nodes_eq h
    · refine Parented.of_nodes_eq ?_ h
      exact hP.modifyNode fun _ => rfl
  | @Step.items _ _ p name _ => by
    rcases items_cases t p name with ⟨h, -⟩ | ⟨-, k, cs, -, -, -, h⟩ | ⟨-, -, -, -, -, h⟩
    · rw [h]; exact hP
    · rw [h]; exact (hP.create _ _ _ _).modifyNode fun _ => rfl
    · rw [h]; exact hP.create _ _ _ _
  | .modify hf => hP.modifyNode fun n => (hf n).parent

/-- In a well-formed tree where only the root lacks a parent, the walk up from every node ends
at the root. -/
theorem chainIds_getLast? (hwf : t.WF) (hP : t.Parented) {x : Nat} (hx : x < t.nodes.size) :
    (t.chainIds x).getLast? = some 0 := by
  induction x using Nat.strong_induction_on with
  | _ x ih =>
    obtain ⟨n, hn⟩ := Option.isSome_iff_exists.1 (node?_isSome_iff.2 hx)
    rw [chainIds, hn]
    rcases hp : n.parent with _ | p <;> simp only [hp]
    · simp [hP x n hn hp]
    · have hlt := hwf.parent_lt hn hp
      -- the walk goes on from the parent, and the parent's walk ends at the root
      rw [if_pos hlt, List.getLast?_cons, ih p hlt (Nat.lt_trans hlt hx)]
      rfl

/-! ## Items slots -/

/-- A node whose items slot is filled keeps the tree as it is and gives the slot's node,
whatever name it is asked for. -/
theorem items_of_items? {p j : Nat} {n : Node} (hn : t.node? p = some n) (hj : n.items? = some j)
    (name : String) : t.items p name = (t, j) := by
  unfold Node.items? at hj
  rcases hb : n.body with ⟨k, cs, _ | j'⟩ | s <;> rw [hb] at hj
  · cases hj
  · cases hj
    simp [items, hn, hb]
  · cases hj

/-- A resource without an items node gets a new one, named as asked and under it, in its
slot. -/
theorem items_of_fresh {p : Nat} {n : Node} {k : ResourceKind} {cs : List (String × Nat)}
    (hn : t.node? p = some n) (hb : n.body = .resource k cs none) (name : String) :
    (t.items p name).2 = t.nodes.size ∧
      ∃ c n', (t.items p name).1.node? t.nodes.size = some c ∧ c.name = name ∧
        c.parent = some p ∧ (t.items p name).1.node? p = some n' ∧
        n'.items? = some t.nodes.size := by
  have hp : p < t.nodes.size := node?_lt hn
  have hitems : t.items p name =
      ((t.create p name .root (.resource .collectionItem [] none)).1.modifyNode p
        fun m => { m with body := .resource k cs (some t.nodes.size) }, t.nodes.size) := by
    simp [items, hn, hb]
  rw [hitems]
  refine ⟨rfl, ⟨some p, name, .root, NodeOptions.inheritAll, [], [], .resource .collectionItem [] none⟩,
    { n with body := .resource k cs (some t.nodes.size) }, ?_, rfl, rfl, ?_, rfl⟩
  · rw [node?_modifyNode, if_neg (by omega), node?_create, if_pos rfl]
  · rw [node?_modifyNode, if_pos rfl, node?_create_of_lt _ _ _ _ hp, hn]
    rfl

end Tree

/-! ## Trees reached by operations -/

open Script

/-- A property of trees that every step keeps on well-formed trees holds of every tree reached
from one that has it. -/
theorem Router.runOps_induction {P : Tree → Prop}
    (hstep : ∀ {base : Nat} {t t' : Tree}, t.WF → P t → Tree.Step base t t' → P t')
    {r : Router} (hwf : r.tree.WF) (hP : P r.tree) (ops : List Op) : P (r.runOps ops).tree := by
  induction ops generalizing r with
  | nil => exact hP
  | cons op ops ih =>
    refine ih (Op.apply_wf hwf op) ?_
    cases op with
    | script body =>
      -- the statements change the tree by steps, each from a well-formed tree
      have hsteps := (runBuilder_follows hwf body).run.steps
      have hboth : ∀ {t'}, Relation.ReflTransGen (Tree.Step r.tree.nodes.size) r.tree t' →
          t'.WF ∧ P t' := by
        intro t' h
        induction h with
        | refl => exact ⟨hwf, hP⟩
        | tail _ hs ih => exact ⟨hs.wf ih.1, hstep ih.1 ih.2 hs⟩
      exact (hboth hsteps).2
    | build =>
      show P r.build.1.tree
      rw [Router.build_tree]; exact hP

/-- Every tree a router reaches from a fresh one is a well-formed arena. Every index stored in
a parent link, a children list or an items slot is a node; a child sits under its parent, a
resource of smaller index, in one slot of the whole tree; child names are distinct per parent;
only the root lacks a parent, so the walk up from every node ends at the root. Later
operations keep every node's kind, its name and a filled items slot. A later `items` under any
name gives the slot's node and changes nothing; the first one creates that node, under the
name it is given. -/
theorem reached_arena_well_formed (o : Options) (ops : List Op) :
    let r := (Router.withOptions o).runOps ops
    let t := r.tree
    (∀ i n p, t.node? i = some n → n.parent = some p → p < i ∧ (t.node? p).isSome) ∧
    (∀ p n c, t.node? p = some n → c ∈ n.children.map (·.2) ∨ n.items? = some c →
      (∃ k, n.kind? = some k) ∧ p < c ∧ ∃ cn, t.node? c = some cn ∧ cn.parent = some p) ∧
    (∀ p p' c n n' (l l' : Link), t.node? p = some n → t.node? p' = some n' →
      n.target? l = some c → n'.target? l' = some c → p = p' ∧ l = l') ∧
    (∀ p n, t.node? p = some n → (n.children.map (·.1)).Nodup) ∧
    (∀ x < t.nodes.size, (t.chainIds x).getLast? = some 0) ∧
    (∀ ops' i n, t.node? i = some n → ∃ n', (r.runOps ops').tree.node? i = some n' ∧
      n'.kind? = n.kind? ∧ n'.name = n.name ∧ ∀ j, n.items? = some j → n'.items? = some j) ∧
    (∀ p n j name, t.node? p = some n → n.items? = some j → t.items p name = (t, j)) ∧
    (∀ p n k cs name, t.node? p = some n → n.body = .resource k cs none →
      (t.items p name).2 = t.nodes.size ∧
      ∃ c n', (t.items p name).1.node? t.nodes.size = some c ∧ c.name = name ∧
        c.parent = some p ∧ (t.items p name).1.node? p = some n' ∧
        n'.items? = some t.nodes.size) := by
  intro r t
  have hwf : t.WF := runOps_wf o ops
  have hP : t.Parented :=
    Router.runOps_induction (fun _ hP hs => hs.parented hP) (Tree.wf_new _) (Tree.parented_new _) ops
  refine ⟨fun i n p hn hp => hwf.parent_node hn hp, fun p n c hn hc => hwf.slot_node hn hc,
    fun p p' c n n' l l' hn hn' hl hl' => hwf.slot_unique hn hn' hl hl',
    fun p n hn => hwf.names hn, fun x hx => Tree.chainIds_getLast? hwf hP hx,
    fun ops' i n hn => ?_, fun p n j name hn hj => Tree.items_of_items? hn hj name,
    fun p n k cs name hn hb => Tree.items_of_fresh hn hb name⟩
  obtain ⟨n', hn', g⟩ := Router.extends_runOps hwf ops' i n hn
  exact ⟨n', hn', g.kind, g.name, g.items⟩

end ResourceRoutes
