import ResourceRoutes.Proofs.Router.Phase

/-!
# Duplicate children

An attach refuses a child whose name its parent already has among its children, whatever their
kinds, and records the refusal as the tree's error unless one is recorded already. Statements
make their attach calls in the order `Script.attachLog` gives: a child resource after its body
and before its `then` block, a route as soon as it is created, an items node never. So:

* the error after statements is the one before, or the first clash among their calls;
* a refused child never enters a children list, then or later (`not_linked_runOps`), though it
  stays a node under its parent;
* an items node is never in a children list, so it clashes with no named child;
* once recorded, the error stays (`error_runOps`), every build returns it, and the router is
  never built again.
-/

namespace ResourceRoutes

open Script

/-- An items node is never among its parent's children. -/
theorem Tree.WF.items_not_child {t : Tree} (hwf : t.WF) {i j : Nat} {n : Node}
    (hn : t.node? i = some n) (hj : n.items? = some j) : j ∉ n.children.map (·.2) := by
  intro hm
  obtain ⟨e, he, rfl⟩ := List.mem_map.1 hm
  obtain ⟨c, hc, -, -, hk⟩ := hwf.child hn he
  obtain ⟨c', hc', -, hk'⟩ := hwf.items hn hj
  rw [hc] at hc'; cases hc'
  exact hk hk'

section Later

/-- Operations only grow the tree. -/
theorem Op.extends_apply {r : Router} (hwf : r.tree.WF) : ∀ op : Op, r.tree.Extends (op.apply r).tree
  | .script body => Tree.Steps.extends (runBuilder_follows hwf body).run.steps
  | .build => by
    show r.tree.Extends r.build.1.tree
    rw [Router.build_tree]; exact .refl _

theorem Router.extends_runOps : ∀ {r : Router}, r.tree.WF → ∀ ops : List Op,
    r.tree.Extends (r.runOps ops).tree
  | _, _, [] => .refl _
  | _, hwf, op :: ops => (Op.extends_apply hwf op).trans (extends_runOps (Op.apply_wf hwf op) ops)

/-- A recorded error stays through every operation. -/
theorem error_runOps {e : RouterError} : ∀ {r : Router}, r.tree.WF → r.tree.error = some e →
    ∀ ops : List Op, (r.runOps ops).tree.error = some e
  | _, _, he, [] => he
  | r, hwf, he, .script body :: ops => by
    refine error_runOps ((runBuilder_follows hwf body).wf hwf) ?_ ops
    rw [(runBuilder_follows hwf body).run.error, he, Option.some_or]
  | r, hwf, he, .build :: ops => by
    refine error_runOps (Op.apply_wf hwf .build) ?_ ops
    show r.build.1.tree.error = some e
    rw [Router.build_tree]; exact he

/-- A node of the tree that is in no children list stays so: later statements attach only nodes
they create. -/
theorem not_linked_runOps {c : Nat} : ∀ {r : Router}, r.tree.WF → c < r.tree.nodes.size →
    (∀ i x, ¬ r.tree.Linked i (x, c)) →
    ∀ (ops : List Op) (i : Nat) (x : String), ¬ (r.runOps ops).tree.Linked i (x, c)
  | _, _, _, hnl, [] => hnl
  | r, hwf, hc, hnl, .script body :: ops => by
    have f := runBuilder_follows hwf body
    refine not_linked_runOps (f.wf hwf) (Nat.lt_of_lt_of_le hc f.size_le) (fun i x hl => ?_) ops
    rcases f.run.linked hl with hl | ⟨a, ha, -, hac, -⟩
    · exact hnl i x hl
    · have := (f.child_mem a ha).1
      simp only at hac
      omega
  | r, hwf, hc, hnl, .build :: ops => by
    have ht : (Op.build.apply r).tree = r.tree := Router.build_tree r
    exact not_linked_runOps (Op.apply_wf hwf .build) (ht ▸ hc) (ht ▸ hnl) ops

end Later

/-- Statements on a router reached from a fresh one: the error after them is the one before or
the first clash among their attach calls, in the order they make them (`attachLogAll`). Every
call's child stays a node under the call's parent, whatever follows; a refused child never
enters a children list, and an items node is never in one. Once an error is recorded it stays,
every later build returns it, and the router is never built again. -/
theorem first_duplicate_child_recorded (o : Options) (ops : List Op) (body : List Statement) :
    let r := (Router.withOptions o).runOps ops
    let calls := attachLogAll Handle.root body ⟨r, #[]⟩
    let r' := (runBuilder r body).1
    r'.tree.error = r.tree.error.or (calls.findSome? AttachCall.clash) ∧
      (∀ a ∈ calls, ∀ ops', ∃ n, (r'.runOps ops').tree.node? a.child = some n ∧
        n.parent = some a.parent) ∧
      (∀ a ∈ calls, a.clash.isSome = true → ∀ ops' i n, (r'.runOps ops').tree.node? i = some n →
        a.child ∉ n.children.map (·.2)) ∧
      (∀ ops' i n j, (r'.runOps ops').tree.node? i = some n → n.items? = some j →
        j ∉ n.children.map (·.2)) ∧
      (∀ e, r'.tree.error = some e → ∀ ops', (r'.runOps ops').tree.error = some e ∧
        (r'.runOps ops').build.2 = .error e ∧ (r'.runOps ops').phase ≠ .built) := by
  intro r calls r'
  have hwf : r.tree.WF := runOps_wf o ops
  have f : Follows r.tree.nodes.size calls r r' := runBuilder_follows hwf body
  have hwf' : r'.tree.WF := f.wf hwf
  have hr' : r' = (Router.withOptions o).runOps (ops ++ [.script body]) := by
    rw [Router.runOps_append]; rfl
  have hc' : r'.Consistent := hr' ▸ consistent_runOps (consistent_withOptions o) _
  refine ⟨f.run.error, fun a ha ops' => ?_, fun a ha hcl ops' i n hn hmem => ?_,
    fun ops' i n j hn hj => (Router.runOps_wf_of hwf' ops').items_not_child hn hj,
    fun e he ops' => ?_⟩
  · obtain ⟨-, n, hn, hp⟩ := f.run.child_mem a ha
    obtain ⟨n', hn', g⟩ := Router.extends_runOps hwf' ops' _ _ hn
    exact ⟨n', hn', g.parent.trans hp⟩
  · -- the refused child is in no children list once the statements ran
    have hnl : ∀ i x, ¬ r'.tree.Linked i (x, a.child) := by
      intro i x hl
      rcases f.run.linked hl with ⟨m, hm, he⟩ | ⟨b, hb, -, hbc, hbcl⟩
      · -- entries from before name nodes from before, and the child is newer
        obtain ⟨c, hc, -⟩ := hwf.child hm he
        have := (f.child_mem a ha).1
        have := Tree.node?_lt hc
        simp only at this
        omega
      · -- calls are of distinct nodes, so this is the refused call
        rw [List.inj_on_of_nodup_map f.nodup hb ha hbc] at hbcl
        rw [hbcl] at hcl
        cases hcl
    obtain ⟨x, hx, hxe⟩ := List.mem_map.1 hmem
    exact not_linked_runOps hwf' (f.child_mem a ha).2 hnl ops' i x.1 ⟨n, hn, by rw [← hxe]; exact hx⟩
  · have he' := error_runOps hwf' he ops'
    have hb := (Router.build_outcome (r'.runOps ops')).1 e he'
    refine ⟨he', by rw [hb], fun hbuilt => ?_⟩
    have hfix := congrArg Prod.snd ((consistent_runOps hc' ops').built hbuilt)
    rw [hb] at hfix
    cases hfix

end ResourceRoutes
