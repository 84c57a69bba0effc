import ResourceRoutes.Proofs.Router.Reach
import ResourceRoutes.Proofs.Tree.Inheritance

/-!
# Lists accumulate, options override

A node's tags and pre-steps are the lists its ancestors carry followed by its own
(`InheritedList.compose`); its scalar options are the nearest decision up the chain. Both read
the chain of the node and its ancestors (`Tree.chain`), which in a well-formed tree is the node
followed by its parent's chain (`chain_of_parent`).

* `InheritedList.compose_append`: composing a chain cut in two puts the farther part's lists
  first.
* `Tree.accumulated`: a list carried down the chain, the two lists of the tree being its
  instances (`tags_eq_accumulated`, `pre_eq_accumulated`). A node's is its parent's followed by
  its own (`accumulated_of_parent`), the root's its own; an ancestor's is a prefix of a
  descendant's (`accumulated_prefix`); and a change to the own list of a node off the chain is
  not seen (`accumulated_modifyNode_off_chain`).
* `lookup_of_parent`: a node's own decision of an option replaces its parent's.
-/

namespace ResourceRoutes

namespace InheritedList

variable {α : Type}

@[simp] theorem compose_nil : compose ([] : List (InheritedList α)) = [] := rfl

theorem compose_singleton (l : InheritedList α) : compose [l] = l.own := by
  simp [compose]

/-- A chain cut in two, nearest part first: the farther part's lists come first. -/
theorem compose_append (c₁ c₂ : List (InheritedList α)) :
    compose (c₁ ++ c₂) = compose c₂ ++ compose c₁ := by
  simp [compose]

end InheritedList

namespace Tree

variable {t : Tree} {β : Type}

/-! ## The chain -/

/-- In a well-formed tree a node's chain is the node, then its parent's chain. -/
theorem chain_of_parent (hwf : t.WF) {x p : Nat} {n : Node} (hn : t.node? x = some n)
    (hp : n.parent = some p) : t.chain x = n :: t.chain p := by
  rw [chain, hn]
  simp [hp, hwf.parent_lt hn hp]

/-- A node without a parent is alone on its chain. -/
theorem chain_of_parent_none {x : Nat} {n : Node} (hn : t.node? x = some n) (hp : n.parent = none) :
    t.chain x = [n] := by
  rw [chain, hn]
  simp [hp]

/-! ## Lists carried down the chain -/

/-- The list carried at a node: the own lists (`f`) of its ancestors, the farthest first, then
its own. -/
def accumulated (t : Tree) (f : Node → List β) (x : Nat) : List β :=
  InheritedList.compose ((t.chain x).map fun n => ⟨f n⟩)

theorem tags_eq_accumulated (x : Nat) : t.tags x = t.accumulated Node.tags x := rfl

theorem pre_eq_accumulated (x : Nat) : t.pre x = t.accumulated Node.pre x := rfl

variable (f : Node → List β)

/-- A node carries its parent's list followed by its own. -/
theorem accumulated_of_parent (hwf : t.WF) {x p : Nat} {n : Node} (hn : t.node? x = some n)
    (hp : n.parent = some p) : t.accumulated f x = t.accumulated f p ++ f n := by
  rw [accumulated, chain_of_parent hwf hn hp, List.map_cons, InheritedList.compose_cons]
  rfl

/-- A node without a parent carries its own list. -/
theorem accumulated_of_parent_none {x : Nat} {n : Node} (hn : t.node? x = some n)
    (hp : n.parent = none) : t.accumulated f x = f n := by
  rw [accumulated, chain_of_parent_none hn hp, List.map_cons, List.map_nil,
    InheritedList.compose_singleton]

/-- An ancestor's list is a prefix of a descendant's. -/
theorem accumulated_prefix (hwf : t.WF) {a x : Nat} (ha : a ∈ t.chainIds x) :
    t.accumulated f a <+: t.accumulated f x := by
  induction x using Nat.strong_induction_on with
  | _ x ih =>
    rw [chainIds] at ha
    rcases hn : t.node? x with _ | n <;> rw [hn] at ha
    · cases ha
    rcases hp : n.parent with _ | p <;> simp only [hp] at ha
    · obtain rfl := List.mem_singleton.1 ha
      exact List.prefix_refl _
    · have hlt := hwf.parent_lt hn hp
      rw [if_pos hlt] at ha
      rcases List.mem_cons.1 ha with rfl | ha
      · exact List.prefix_refl _
      · -- the parent's list is a prefix of the node's, which extends it by the node's own
        rw [accumulated_of_parent f hwf hn hp]
        exact (ih p hlt ha).trans (List.prefix_append _ _)

/-- A change to one node that keeps every parent is not seen from a node whose chain does not
pass it. -/
theorem accumulated_modifyNode_off_chain {y x : Nat} {g : Node → Node}
    (hg : ∀ n, (g n).parent = n.parent) (hy : y ∉ t.chainIds x) :
    (t.modifyNode y g).accumulated f x = t.accumulated f x := by
  have hids : (t.modifyNode y g).chainIds x = t.chainIds x := by
    refine chainIds_congr fun i _ => ?_
    rw [node?_modifyNode]
    split
    · rw [Option.map_map]
      exact Option.map_congr fun n _ => hg n
    · rfl
  rw [accumulated, accumulated, chain_eq_filterMap, chain_eq_filterMap, hids]
  congr 2
  refine List.filterMap_congr fun i hi => ?_
  rw [node?_modifyNode, if_neg fun h : y = i => hy (h ▸ hi)]

/-! ## Options override -/

/-- A node's own decision of an option replaces its parent's; a node that leaves the option
to its parent reads what the parent reads. -/
theorem lookup_of_parent {α : Type} (hwf : t.WF) {x p : Nat} {n : Node} (hn : t.node? x = some n)
    (hp : n.parent = some p) (field : NodeOptions → Setting α) :
    t.lookup x field = (field n.options).decided.getD (t.lookup p field) := by
  rw [lookup, chain_of_parent hwf hn hp, List.findSome?_cons]
  rcases (field n.options).decided with _ | d <;> rfl

end Tree

/-- Lists accumulate down the tree and options override. Composing a chain given nearest first
puts the farther lists first: the empty chain composes to nothing, one list to itself, and a
chain cut in two to the farther part's lists then the nearer part's. On every tree a router
reaches: a node's tags and pre-steps are its parent's followed by its own, the root's are its
own, and an ancestor's are a prefix of a descendant's; a change to the own tags or pre-steps of
a node off a node's chain (a sibling, a cousin, a descendant) is not seen there. A node's own
decision of a scalar option instead replaces its parent's. -/
theorem lists_accumulate_options_override :
    (∀ (α : Type) (l : InheritedList α) (c₁ c₂ : List (InheritedList α)),
      InheritedList.compose ([] : List (InheritedList α)) = [] ∧
        InheritedList.compose [l] = l.own ∧
        InheritedList.compose (c₁ ++ c₂) = InheritedList.compose c₂ ++ InheritedList.compose c₁) ∧
    ∀ (o : Options) (ops : List Op),
      let t := ((Router.withOptions o).runOps ops).tree
      (∀ x n p, t.node? x = some n → n.parent = some p →
        t.tags x = t.tags p ++ n.tags ∧ t.pre x = t.pre p ++ n.pre ∧
        ∀ (α : Type) (field : NodeOptions → Setting α),
          t.lookup x field = (field n.options).decided.getD (t.lookup p field)) ∧
      (∀ n, t.node? 0 = some n → t.tags 0 = n.tags ∧ t.pre 0 = n.pre) ∧
      (∀ x a, a ∈ t.chainIds x → t.tags a <+: t.tags x ∧ t.pre a <+: t.pre x) ∧
      (∀ x y, y ∉ t.chainIds x → ∀ (tag : String) (step : PreStep),
        (t.addTag y tag).tags x = t.tags x ∧ (t.addPre y step).pre x = t.pre x) := by
  refine ⟨fun α l c₁ c₂ => ⟨rfl, InheritedList.compose_singleton l,
    InheritedList.compose_append c₁ c₂⟩, fun o ops => ?_⟩
  intro t
  have hwf : t.WF := runOps_wf o ops
  refine ⟨fun x n p hn hp => ⟨Tree.accumulated_of_parent _ hwf hn hp,
      Tree.accumulated_of_parent _ hwf hn hp, fun α field => Tree.lookup_of_parent hwf hn hp field⟩,
    fun n hn => ?_, fun x a ha => ⟨Tree.accumulated_prefix _ hwf ha, Tree.accumulated_prefix _ hwf ha⟩,
    fun x y hy tag step => ⟨Tree.accumulated_modifyNode_off_chain _ (fun _ => rfl) hy,
      Tree.accumulated_modifyNode_off_chain _ (fun _ => rfl) hy⟩⟩
  -- the root is a router without a parent
  obtain ⟨r, hr, hrp, -⟩ := hwf.root
  rw [hn] at hr; cases hr
  exact ⟨Tree.accumulated_of_parent_none _ hn hrp, Tree.accumulated_of_parent_none _ hn hrp⟩

end ResourceRoutes
