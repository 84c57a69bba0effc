import ResourceRoutes.Proofs.Tree.Arena

/-!
# Runs of steps with their attach calls

`Tree.Run base t log t'` is a run of steps from `t` to `t'` that lists its attach calls in the
order it makes them, each with the tree it is made on (`AttachCall`). What the run does to the
recorded error and to the children lists is read off the calls:

* `Run.error`: the error at the end is the one at the start or, if there was none, the first
  clash among the calls;
* `Run.linked`: a child entry at the end was there at the start or comes from a call that did
  not clash;
* `Run.child_mem`: every call's child was created by the run and is a node at the end, under
  the call's parent.
-/

namespace ResourceRoutes

/-- An attach call: the tree it is made on, the parent and the child. -/
structure AttachCall where
  tree : Tree
  parent : Nat
  child : Nat

/-- The error an attach call records on a tree that has none (`Tree.clash`). -/
def AttachCall.clash (a : AttachCall) : Option RouterError := a.tree.clash a.parent a.child

namespace Tree

variable {t : Tree}

/-- Entry `e` is in the children list of node `i`. -/
def Linked (t : Tree) (i : Nat) (e : String × Nat) : Prop :=
  ∃ n, t.node? i = some n ∧ e ∈ n.children

/-! ## Child entries, operation by operation -/

theorem Linked.of_create {p : Nat} {name : String} {seg : Segment} {body : NodeBody} {i : Nat}
    {e : String × Nat} (hf : body.IsFresh) (h : (t.create p name seg body).1.Linked i e) :
    t.Linked i e := by
  obtain ⟨n, hn, he⟩ := h
  rw [node?_create] at hn
  split at hn
  · cases hn
    rcases body with ⟨k, cs, items⟩ | s
    · obtain ⟨rfl, -⟩ := hf
      simp [Node.children] at he
    · simp [Node.children] at he
  · exact ⟨n, hn, he⟩

theorem Linked.of_modifyNode {id : Nat} {f : Node → Node} {i : Nat} {e : String × Nat}
    (hf : ∀ n, t.node? id = some n → (f n).children = n.children)
    (h : (t.modifyNode id f).Linked i e) : t.Linked i e := by
  obtain ⟨m, hm, he⟩ := h
  rcases node?_modifyNode_eq_some.1 hm with ⟨n, rfl, hn, rfl⟩ | ⟨-, hn⟩
  · exact ⟨n, hn, hf n hn ▸ he⟩
  · exact ⟨m, hn, he⟩

theorem Linked.of_items {p : Nat} {name : String} {i : Nat} {e : String × Nat}
    (h : (t.items p name).1.Linked i e) : t.Linked i e := by
  have hfresh : NodeBody.IsFresh (.resource .collectionItem [] none) := ⟨rfl, rfl⟩
  rcases items_cases t p name with ⟨ht, -⟩ | ⟨pn, k, cs, hp, hb, -, ht⟩ | ⟨-, -, -, -, -, ht⟩
  · rwa [ht] at h
  · rw [ht] at h
    -- the new items node has no children, and its parent keeps its children
    refine Linked.of_create hfresh (Linked.of_modifyNode (fun n hn => ?_) h)
    rw [node?_create_of_lt _ _ _ _ (node?_lt hp), hp] at hn
    cases hn
    simp [Node.children, hb]
  · rw [ht] at h
    exact Linked.of_create hfresh h

/-- An attach adds at most its own child, under its parent, when it does not clash. -/
theorem Linked.of_attach {p c i : Nat} {e : String × Nat} (h : (t.attach p c).Linked i e) :
    t.Linked i e ∨ (i = p ∧ e.2 = c ∧ t.clash p c = none) := by
  obtain ⟨m, hm, he⟩ := h
  rcases attach_cases t p c with hn | ⟨pn, cn, k, cs, items, hp, -, hb, hcl, hn⟩
  · rw [node?_attach, hn] at hm
    exact .inl ⟨m, hm, he⟩
  · rw [node?_attach, hn] at hm
    rcases node?_modifyNode_eq_some.1 hm with ⟨n, rfl, hn', rfl⟩ | ⟨-, hn'⟩
    · rw [hp] at hn'; cases hn'
      simp only [Node.children, List.mem_append, List.mem_singleton] at he
      rcases he with he | rfl
      · exact .inl ⟨pn, hp, by simpa [Node.children, hb] using he⟩
      · exact .inr ⟨rfl, rfl, hcl⟩
    · exact .inl ⟨m, hn', he⟩

/-! ## Runs -/

/-- A run of steps from a run that started with `base` nodes, with the attach calls it makes,
in order. -/
inductive Run (base : Nat) : Tree → List AttachCall → Tree → Prop
  | refl (t : Tree) : Run base t [] t
  /-- A new node under an existing one. -/
  | create {t t' : Tree} {p : Nat} {name : String} {seg : Segment} {body : NodeBody}
      {log : List AttachCall} :
      p < t.nodes.size → body.IsFresh → Run base (t.create p name seg body).1 log t' →
      Run base t log t'
  /-- The items node of an existing node. -/
  | items {t t' : Tree} {p : Nat} {name : String} {log : List AttachCall} :
      p < t.nodes.size → Run base (t.items p name).1 log t' → Run base t log t'
  /-- A change of one node that keeps its shape. -/
  | modify {t t' : Tree} {id : Nat} {f : Node → Node} {log : List AttachCall} :
      (∀ n : Node, n.SameShape (f n)) → Run base (t.modifyNode id f) log t' → Run base t log t'
  /-- A node the run created, attached under its parent; never an items node. -/
  | attach {t t' : Tree} {p c : Nat} {n : Node} {log : List AttachCall} :
      t.node? c = some n → n.parent = some p → n.kind? ≠ some .collectionItem → base ≤ c →
      Run base (t.attach p c) log t' → Run base t (⟨t, p, c⟩ :: log) t'

namespace Run

variable {base : Nat} {t' t'' : Tree} {log log' : List AttachCall}

theorem steps (h : Run base t log t') : Relation.ReflTransGen (Step base) t t' := by
  induction h with
  | refl => exact .refl
  | create hp hf _ ih => exact .head (.create hp hf) ih
  | items hp _ ih => exact .head (.items hp) ih
  | modify hf _ ih => exact .head (.modify hf) ih
  | attach hc hp hk hb _ ih => exact .head (.attach hc hp hk hb) ih

theorem trans (h₁ : Run base t log t') (h₂ : Run base t' log' t'') : Run base t (log ++ log') t'' := by
  induction h₁ with
  | refl => exact h₂
  | create hp hf _ ih => exact .create hp hf (ih h₂)
  | items hp _ ih => exact .items hp (ih h₂)
  | modify hf _ ih => exact .modify hf (ih h₂)
  | attach hc hp hk hb _ ih => exact .attach hc hp hk hb (ih h₂)

theorem mono {base' : Nat} (hb : base' ≤ base) (h : Run base t log t') : Run base' t log t' := by
  induction h with
  | refl => exact .refl _
  | create hp hf _ ih => exact .create hp hf ih
  | items hp _ ih => exact .items hp ih
  | modify hf _ ih => exact .modify hf ih
  | attach hc hp hk hcb _ ih => exact .attach hc hp hk (Nat.le_trans hb hcb) ih

/-- The error at the end of a run is the one at its start or the first clash of its calls. -/
theorem error (h : Run base t log t') : t'.error = t.error.or (log.findSome? AttachCall.clash) := by
  induction h with
  | refl => simp
  | create _ _ _ ih => rw [ih, error_create]
  | items _ _ ih => rw [ih, error_items]
  | modify _ _ ih => rw [ih, error_modifyNode]
  | @attach t _ p c _ log _ _ _ _ _ ih =>
    rw [ih, error_attach, List.findSome?_cons, Option.or_assoc]
    simp only [AttachCall.clash]
    rcases t.clash p c with _ | e <;> rfl

/-- A child entry at the end of a run was there at its start, or comes from a call of the run
that did not clash. -/
theorem linked {i : Nat} {e : String × Nat} (h : Run base t log t') (he : t'.Linked i e) :
    t.Linked i e ∨ ∃ a ∈ log, a.parent = i ∧ a.child = e.2 ∧ a.clash = none := by
  induction h with
  | refl => exact .inl he
  | create _ hf _ ih => exact (ih he).imp_left (Linked.of_create hf)
  | items _ _ ih => exact (ih he).imp_left Linked.of_items
  | modify hf _ ih => exact (ih he).imp_left (Linked.of_modifyNode fun n _ => (hf n).children)
  | @attach t _ p c _ log _ _ _ _ _ ih =>
    rcases ih he with hl | ⟨a, ha, hai⟩
    · rcases Linked.of_attach hl with hl | ⟨rfl, hc, hcl⟩
      · exact .inl hl
      · exact .inr ⟨⟨t, i, c⟩, List.mem_cons_self, rfl, hc.symm, hcl⟩
    · exact .inr ⟨a, List.mem_cons_of_mem _ ha, hai⟩

/-- Every call's child was created by the run and is a node at its end, under the call's
parent. -/
theorem child_mem (h : Run base t log t') :
    ∀ a ∈ log, base ≤ a.child ∧ ∃ n, t'.node? a.child = some n ∧ n.parent = some a.parent := by
  induction h with
  | refl => simp
  | create _ _ _ ih => exact ih
  | items _ _ ih => exact ih
  | modify _ _ ih => exact ih
  | @attach t _ p c n _ hc hp _ hb hrest ih =>
    intro a ha
    rcases List.mem_cons.1 ha with rfl | ha
    · obtain ⟨n', hn', g⟩ := ((extends_attach t p c).trans (Steps.extends hrest.steps)) c n hc
      exact ⟨hb, n', hn', g.parent.trans hp⟩
    · exact ih a ha

/-- A node created under `p` by a run may be attached under `p` after the run's later steps,
unless it is an items node. -/
theorem attach_created {p : Nat} {name : String} {seg : Segment} {body : NodeBody}
    (hk : ∀ k cs i, body = .resource k cs i → k ≠ .collectionItem) (hb : base ≤ t.nodes.size)
    (hext : (t.create p name seg body).1.Extends t') :
    Run base t' [⟨t', p, t.nodes.size⟩] (t'.attach p t.nodes.size) := by
  obtain ⟨n, hn, g⟩ := hext _ _ (by rw [node?_create, if_pos rfl])
  refine .attach hn g.parent ?_ hb (.refl _)
  rw [g.kind]
  rcases body with ⟨k, cs, i⟩ | s
  · simpa [Node.kind?] using hk k cs i rfl
  · simp [Node.kind?]

end Run

end Tree

end ResourceRoutes
