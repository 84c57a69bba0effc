import ResourceRoutes.Script.Steps
import ResourceRoutes.Proofs.Tree.Walk
import ResourceRoutes.Proofs.Tree.Trace

/-!
# What a builder run does

Builder statements run in `Build`, an exception monad over the session. The run of each kind
of statement is written out once as a function of the session, and later proofs read runs only
through these equations:

* `run_leaf`: a statement without a body either changes its handle's node without changing the
  node's shape (`Node.SameShape`), only reports, or stops with the session as it was;
* `run_child_run`: a child resource is created, its body runs on it, it is attached, and its
  `then` block runs unless the body stopped;
* `run_items_run`: the items node is found or created, then the body and the `then` block run on
  it;
* `run_addsRoute_run`: a route is created and attached at once, then its `then` block runs.

From these, `runAll_follows`: a run on a handle of a well-formed tree changes the tree only by
`Tree.Step`s, keeps the table, and leaves the phase as it was or assembling; and
`runAll_keepsOptions`: no run changes the router's options.
-/

namespace ResourceRoutes.Script

variable {α β : Type}

/-! ## Builder computations on a session -/

theorem run_bind (m : Build α) (f : α → Build β) (s : Session) :
    (m >>= f).run.run s = match m.run.run s with
      | (.ok a, s') => (f a).run.run s'
      | (.error e, s') => (.error e, s') := by
  simp only [ExceptT.run_bind, StateT.run_bind]
  rcases m.run.run s with ⟨_ | _, _⟩ <;> rfl

theorem run_tryCatch (m : Build α) (k : String → Build α) (s : Session) :
    (tryCatch m k).run.run s = match m.run.run s with
      | (.ok a, s') => (.ok a, s')
      | (.error e, s') => (k e).run.run s' := by
  simp only [tryCatch, tryCatchThe, MonadExceptOf.tryCatch, ExceptT.tryCatch, ExceptT.run_mk,
    StateT.run_bind]
  rcases h : m.run.run s with ⟨_ | _, s'⟩ <;> simp only [ExceptT.run] at h <;> simp only [h] <;> rfl

/-- The session after a change of the tree through a handle; through the router's own handle
the router is assembling again. -/
def Session.changed (s : Session) (h : Handle) (f : Tree → Tree) : Session :=
  let r := if h.isRoot then s.router.touch else s.router
  { s with router := { r with tree := f r.tree } }

section Changed

variable {s : Session} {h : Handle} {f : Tree → Tree}

@[simp] theorem Session.changed_tree : (s.changed h f).router.tree = f s.router.tree := by
  unfold Session.changed; split <;> rfl

@[simp] theorem Session.changed_options : (s.changed h f).router.options = s.router.options := by
  unfold Session.changed; split <;> rfl

@[simp] theorem Session.changed_table : (s.changed h f).router.table = s.router.table := by
  unfold Session.changed; split <;> rfl

theorem Session.changed_phase :
    (s.changed h f).router.phase = if h.isRoot then .assembling else s.router.phase := by
  unfold Session.changed; split <;> rfl

end Changed

theorem change_run (h : Handle) (f : Tree → Tree) (s : Session) :
    (change h f).run.run s = (.ok (), s.changed h f) := rfl

theorem createUnder_run (h : Handle) (name : String) (seg : Segment) (body : NodeBody)
    (s : Session) :
    (createUnder h name seg body).run.run s =
      (.ok s.router.tree.nodes.size, s.changed h fun t => (t.create h.node name seg body).1) := rfl

theorem itemsUnder_run (h : Handle) (name : String) (s : Session) :
    (itemsUnder h name).run.run s =
      (.ok (s.router.tree.items h.node name).2, s.changed h fun t => (t.items h.node name).1) := rfl

/-! ## Statements, kind by kind -/

namespace Statement

/-- Statements that change their handle's own node: options, tags, pre-steps, a route's action
and metadata. -/
def isEdit : Statement → Bool
  | .setAuth _ | .clearAuth | .setController _ | .clearController | .setBind _
  | .setValidate .. | .clearValidate _ | .tag _ | .pre _ | .setAction _ | .changeMeta ..
  | .replaceMeta (.ok _) => true
  | _ => false

/-- Statements that only report. -/
def isReport : Statement → Bool
  | .inspect | .debug | .tree | .replaceMeta (.error _) => true
  | _ => false

/-- Statements that always stop the run. -/
def isStop : Statement → Bool
  | .malformed .. | .unreadable _ => true
  | _ => false

/-- Statements without a body or a `then` block. -/
def isLeaf (st : Statement) : Bool := st.isEdit || st.isReport || st.isStop

/-- The route a statement creates: its name, segment, spec and `then` block. -/
def routeParts : Statement → Option (String × Segment × RouteSpec × List Statement)
  | .route m name path after => some (name, .named (path.getD name), RouteSpec.http m name, after)
  | .rootRoute m name after => some (name, .root, RouteSpec.http m name, after)
  | .conventional c after => some (c.name, .root, RouteSpec.http c.method c.name, after)
  | .subscription name config after => some (name, .root, RouteSpec.subscriptionOf name config, after)
  | _ => none

/-- Statements that add a node under their handle's node: a child resource, the items node, a
route. -/
def isNested : Statement → Bool
  | .child .. | .items .. => true
  | st => st.routeParts.isSome

/-- Every statement is a leaf, adds a node, or is a misplaced `then` block. -/
theorem isLeaf_or_isNested (st : Statement) :
    st.isLeaf = true ∨ st.isNested = true ∨ ∃ m st', st = .looseThen m st' := by
  cases st with
  | looseThen m st' => exact .inr (.inr ⟨m, st', rfl⟩)
  | replaceMeta r => rcases r with _ | _ <;> exact .inl rfl
  | child | items | route | rootRoute | conventional | subscription => exact .inr (.inl rfl)
  | _ => exact .inl rfl

end Statement

theorem sameShape_spec (f : RouteSpec → RouteSpec) (n : Node) :
    n.SameShape (match n.body with
      | .route s => { n with body := .route (f s) }
      | .resource .. => n) := by
  rcases hb : n.body with ⟨k, cs, i⟩ | s
  · exact ⟨rfl, rfl, rfl, rfl, rfl, rfl⟩
  · exact ⟨rfl, rfl, rfl, by simp [Node.children, hb], by simp [Node.items?, hb],
      by simp [Node.kind?, hb]⟩

section Leaves

variable {h : Handle} {st : Statement}

/-- A statement its handle does not offer stops with the session as it was. -/
theorem run_refused (hoff : offers h.kind st.verb = false) (hst : ∀ m st', st ≠ .looseThen m st')
    (s : Session) : ∃ e, (run h st).run.run s = (.error e, s) := by
  have ho : ¬ offers h.kind st.verb = true := by simp [hoff]
  cases st with
  | unreadable => exact ⟨_, by rw [run]; rfl⟩
  | looseThen m st' => exact absurd rfl (hst m st')
  | replaceMeta r => rcases r with _ | _ <;> exact ⟨_, by rw [run, if_neg ho]; rfl⟩
  | _ => exact ⟨_, by rw [run, if_neg ho]; rfl⟩

/-- An offered edit changes its handle's node and keeps the node's shape. -/
theorem run_edit (he : st.isEdit = true) (ho : offers h.kind st.verb = true) (s : Session) :
    ∃ g : Node → Node, (∀ n : Node, n.SameShape (g n)) ∧
      (run h st).run.run s = (.ok (), s.changed h fun t => t.modifyNode h.node g) := by
  cases st with
  | setAuth | clearAuth | setController | clearController | setBind | setValidate
  | clearValidate | tag | pre =>
    refine ⟨_, ?_, by rw [run, if_pos ho]; rfl⟩
    exact fun _ => ⟨rfl, rfl, rfl, rfl, rfl, rfl⟩
  | setAction | changeMeta => exact ⟨_, sameShape_spec _, by rw [run, if_pos ho]; rfl⟩
  | replaceMeta r =>
    rcases r with e | m
    · simp [Statement.isEdit] at he
    · exact ⟨_, sameShape_spec _, by rw [run, if_pos ho]; rfl⟩
  | _ => simp [Statement.isEdit] at he

/-- An offered report leaves the router as it is. -/
theorem run_report (hr : st.isReport = true) (ho : offers h.kind st.verb = true) (s : Session) :
    ∃ s', s'.router = s.router ∧ (run h st).run.run s = (.ok (), s') := by
  cases st with
  | inspect | debug | tree =>
    refine ⟨_, ?_, by rw [run, if_pos ho]; rfl⟩
    rfl
  | replaceMeta r =>
    rcases r with e | m
    · refine ⟨_, ?_, by rw [run, if_pos ho]; rfl⟩
      rfl
    · simp [Statement.isReport] at hr
  | _ => simp [Statement.isReport] at hr

/-- A malformed or unreadable statement stops with the session as it was. -/
theorem run_stop (hs : st.isStop = true) (s : Session) : ∃ e, (run h st).run.run s = (.error e, s) := by
  cases st with
  | malformed v m =>
    by_cases ho : offers h.kind (Statement.malformed v m).verb = true
    · exact ⟨_, by rw [run, if_pos ho]; rfl⟩
    · exact run_refused (by simpa using ho) (fun _ _ => by simp) s
  | unreadable => exact ⟨_, by rw [run]; rfl⟩
  | _ => simp [Statement.isStop] at hs

/-- A statement without a body either changes its handle's node without changing the node's
shape, or leaves the router as it was: it reports, stops, or is not offered. -/
theorem run_leaf (hl : st.isLeaf = true) (s : Session) :
    (∃ g : Node → Node, (∀ n : Node, n.SameShape (g n)) ∧
      ((run h st).run.run s).2 = s.changed h fun t => t.modifyNode h.node g) ∨
    ((run h st).run.run s).2.router = s.router := by
  have hl' := hl
  simp only [Statement.isLeaf, Bool.or_eq_true] at hl'
  by_cases ho : offers h.kind st.verb = true
  · rcases hl' with (he | hr) | hs
    · obtain ⟨g, hg, hrun⟩ := run_edit he ho s
      exact .inl ⟨g, hg, by rw [hrun]⟩
    · obtain ⟨s', hs', hrun⟩ := run_report hr ho s
      exact .inr (by rw [hrun]; exact hs')
    · obtain ⟨e, hrun⟩ := run_stop hs s
      exact .inr (by rw [hrun])
  · have hst : ∀ m st', st ≠ .looseThen m st' := by
      rintro m st' rfl; simp [Statement.isEdit, Statement.isReport, Statement.isStop] at hl'
    obtain ⟨e, hrun⟩ := run_refused (by simpa using ho) hst s
    exact .inr (by rw [hrun])

end Leaves

/-! ## Statements with a body or a `then` block -/

/-- The kind of resource a child statement creates on a handle; under a route, a group. -/
def childKind (h : Handle) (k : ChildKind) : ResourceKind :=
  match h.kind with
  | .resource parent => k.kind parent
  | .route => .group

/-- The segment of a child resource: a group adds none. -/
def childSegment (k : ChildKind) (name : String) (path : Option String) : Segment :=
  if k == .group then .root else .named (path.getD name)

theorem childKind_ne_collectionItem (h : Handle) (k : ChildKind) :
    childKind h k ≠ .collectionItem := by
  unfold childKind
  rcases h.kind with parent | _ <;> cases k <;> simp only [ChildKind.kind, ne_eq, reduceCtorEq,
    not_false_eq_true]
  unfold groupKind; split <;> simp

/-- A child resource: created, its body run on it, attached whether or not the body stopped,
then its `then` block run on it unless the body stopped. -/
theorem run_child_run {h : Handle} {k : ChildKind} {name : String} {path : Option String}
    {body after : List Statement}
    (hoff : offers h.kind (Statement.child k name path body after).verb = true) (s : Session) :
    (run h (.child k name path body after)).run.run s =
      let c : Handle := ⟨s.router.tree.nodes.size, .resource (childKind h k)⟩
      let s₁ := s.changed h fun t =>
        (t.create h.node name (childSegment k name path) (.resource (childKind h k) [] none)).1
      match (runAll c body).run.run s₁ with
      | (.error e, s₂) => (.error e, s₂.changed h fun t => t.attach h.node c.node)
      | (.ok (), s₂) => (runAll c after).run.run (s₂.changed h fun t => t.attach h.node c.node) := by
  rw [run, if_pos hoff]
  simp only [run_bind, createUnder_run, run_tryCatch, childKind, childSegment]
  rcases (runAll _ body).run.run _ with ⟨_ | _, s₂⟩ <;> rfl

/-- The items node: found or created, then the body and the `then` block run on it. -/
theorem run_items_run {h : Handle} {name : String} {body after : List Statement}
    (hoff : offers h.kind (Statement.items name body after).verb = true) (s : Session) :
    (run h (.items name body after)).run.run s =
      let c : Handle := ⟨(s.router.tree.items h.node name).2, .resource .collectionItem⟩
      match (runAll c body).run.run (s.changed h fun t => (t.items h.node name).1) with
      | (.error e, s₂) => (.error e, s₂)
      | (.ok (), s₂) => (runAll c after).run.run s₂ := by
  rw [run, if_pos hoff]
  simp only [run_bind, itemsUnder_run]
  rcases (runAll _ body).run.run _ with ⟨_ | _, s₂⟩ <;> rfl

/-- A route: created and attached at once, then its `then` block run on it. -/
theorem run_addsRoute_run {h : Handle} {st : Statement} {name : String} {seg : Segment}
    {spec : RouteSpec} {after : List Statement} (hst : st.routeParts = some (name, seg, spec, after))
    (hoff : offers h.kind st.verb = true) (s : Session) :
    (run h st).run.run s =
      let c := s.router.tree.nodes.size
      (runAll ⟨c, .route⟩ after).run.run
        ((s.changed h fun t => (t.create h.node name seg (.route spec)).1).changed h
          fun t => t.attach h.node c) := by
  cases st <;> simp only [Statement.routeParts, reduceCtorEq, Option.some.injEq,
    Prod.mk.injEq] at hst
  all_goals
    obtain ⟨rfl, rfl, rfl, rfl⟩ := hst
    rw [run, if_pos hoff]
    rfl

/-- Only a route runs the statement of a misplaced `then` block. -/
theorem run_looseThen_run (h : Handle) (m : String) (st : Statement) (s : Session) :
    (run h (.looseThen m st)).run.run s =
      if (h.kind == .route) = true then (run h st).run.run s else (.error m, s) := by
  rw [run]; split <;> rfl

/-! ## Attach calls -/

/-- The attach calls of a statement that creates a route: its own, at once, then those of its
`then` block from the session after it. -/
def routeLog (h : Handle) (st : Statement) (name : String) (seg : Segment) (spec : RouteSpec)
    (s : Session) (rest : Session → List AttachCall) : List AttachCall :=
  if offers h.kind st.verb = true then
    let s₁ := s.changed h fun t => (t.create h.node name seg (.route spec)).1
    ⟨s₁.router.tree, h.node, s.router.tree.nodes.size⟩ ::
      rest (s₁.changed h fun t => t.attach h.node s.router.tree.nodes.size)
  else []

mutual

/-- The attach calls a statement makes, in the order it makes them. A child resource is attached
after its body has run and before its `then` block; a route is attached as soon as it is
created, before its `then` block; an items statement attaches nothing itself. -/
def attachLog (h : Handle) : Statement → Session → List AttachCall
  | .child k name path body after, s =>
    if offers h.kind (Statement.child k name path body after).verb = true then
      let c : Handle := ⟨s.router.tree.nodes.size, .resource (childKind h k)⟩
      let s₁ := s.changed h fun t =>
        (t.create h.node name (childSegment k name path) (.resource (childKind h k) [] none)).1
      let r := (runAll c body).run.run s₁
      attachLogAll c body s₁ ++ ⟨r.2.router.tree, h.node, c.node⟩ ::
        match r.1 with
        | .ok () => attachLogAll c after (r.2.changed h fun t => t.attach h.node c.node)
        | .error _ => []
    else []
  | .items name body after, s =>
    if offers h.kind (Statement.items name body after).verb = true then
      let c : Handle := ⟨(s.router.tree.items h.node name).2, .resource .collectionItem⟩
      let r := (runAll c body).run.run (s.changed h fun t => (t.items h.node name).1)
      attachLogAll c body (s.changed h fun t => (t.items h.node name).1) ++
        match r.1 with
        | .ok () => attachLogAll c after r.2
        | .error _ => []
    else []
  | .route m name path after, s =>
    routeLog h (.route m name path after) name (.named (path.getD name)) (RouteSpec.http m name) s
      (attachLogAll ⟨s.router.tree.nodes.size, .route⟩ after)
  | .rootRoute m name after, s =>
    routeLog h (.rootRoute m name after) name .root (RouteSpec.http m name) s
      (attachLogAll ⟨s.router.tree.nodes.size, .route⟩ after)
  | .conventional c after, s =>
    routeLog h (.conventional c after) c.name .root (RouteSpec.http c.method c.name) s
      (attachLogAll ⟨s.router.tree.nodes.size, .route⟩ after)
  | .subscription name config after, s =>
    routeLog h (.subscription name config after) name .root (RouteSpec.subscriptionOf name config) s
      (attachLogAll ⟨s.router.tree.nodes.size, .route⟩ after)
  | .looseThen _ st, s => if (h.kind == .route) = true then attachLog h st s else []
  | _, _ => []

/-- The attach calls statements make, in order, up to the first that stops. -/
def attachLogAll (h : Handle) : List Statement → Session → List AttachCall
  | [], _ => []
  | st :: rest, s =>
    attachLog h st s ++
      match (run h st).run.run s with
      | (.ok (), s') => attachLogAll h rest s'
      | (.error _, _) => []

end

theorem attachLog_leaf {h : Handle} {st : Statement} (hl : st.isLeaf = true) (s : Session) :
    attachLog h st s = [] := by
  cases st with
  | child | items | route | rootRoute | conventional | subscription | looseThen =>
    simp [Statement.isLeaf, Statement.isEdit, Statement.isReport, Statement.isStop] at hl
  | _ => rfl

theorem attachLog_route {h : Handle} {st : Statement} {name : String} {seg : Segment}
    {spec : RouteSpec} {after : List Statement} (hst : st.routeParts = some (name, seg, spec, after))
    (s : Session) :
    attachLog h st s =
      routeLog h st name seg spec s (attachLogAll ⟨s.router.tree.nodes.size, .route⟩ after) := by
  cases st <;> simp only [Statement.routeParts, reduceCtorEq, Option.some.injEq,
    Prod.mk.injEq] at hst
  all_goals
    obtain ⟨rfl, rfl, rfl, rfl⟩ := hst
    rfl

/-! ## Runs change the tree by steps -/

/-- `r'` is `r` after a run of tree steps, which started with `base` nodes and made the attach
calls `log`, each of a different node: the table is kept, and the phase is kept or
assembling. -/
structure Follows (base : Nat) (log : List AttachCall) (r r' : Router) : Prop where
  run : Tree.Run base r.tree log r'.tree
  nodup : (log.map (·.child)).Nodup
  table : r'.table = r.table
  phase : r'.phase = r.phase ∨ r'.phase = .assembling

namespace Follows

variable {base : Nat} {log log' : List AttachCall} {r r₁ r₂ r₃ : Router}

theorem refl (base : Nat) (r : Router) : Follows base [] r r := ⟨.refl _, List.nodup_nil, rfl, .inl rfl⟩

theorem trans (h₁ : Follows base log r₁ r₂) (h₂ : Follows base log' r₂ r₃)
    (hd : ∀ a ∈ log, ∀ b ∈ log', a.child ≠ b.child) : Follows base (log ++ log') r₁ r₃ := by
  refine ⟨h₁.run.trans h₂.run, ?_, h₂.table.trans h₁.table, ?_⟩
  · rw [List.map_append, List.nodup_append]
    refine ⟨h₁.nodup, h₂.nodup, fun x hx y hy => ?_⟩
    obtain ⟨a, ha, rfl⟩ := List.mem_map.1 hx
    obtain ⟨b, hb, rfl⟩ := List.mem_map.1 hy
    exact hd a ha b hb
  · rcases h₂.phase with h | h
    · exact h ▸ h₁.phase
    · exact .inr h

theorem mono {base' : Nat} (hb : base' ≤ base) (h : Follows base log r₁ r₂) :
    Follows base' log r₁ r₂ :=
  ⟨h.run.mono hb, h.nodup, h.table, h.phase⟩

theorem size_le (h : Follows base log r₁ r₂) : r₁.tree.nodes.size ≤ r₂.tree.nodes.size :=
  (Tree.Steps.extends h.run.steps).size_le

theorem wf (h : Follows base log r₁ r₂) (hwf : r₁.tree.WF) : r₂.tree.WF :=
  Tree.Steps.wf hwf h.run.steps

theorem child_mem (h : Follows base log r₁ r₂) :
    ∀ a ∈ log, base ≤ a.child ∧ a.child < r₂.tree.nodes.size := fun a ha =>
  have ⟨hb, _, hn, _⟩ := h.run.child_mem a ha
  ⟨hb, Tree.node?_lt hn⟩

/-- An assembling router stays assembling. -/
theorem assembling (h : Follows base log r₁ r₂) (h₁ : r₁.phase = .assembling) :
    r₂.phase = .assembling :=
  h.phase.elim (fun h' => h'.trans h₁) id

/-- A run that starts where another ended continues it; its calls are of nodes the first run
had not created. -/
theorem append (h₁ : Follows base log r₁ r₂) (h₂ : Follows r₂.tree.nodes.size log' r₂ r₃)
    (hb : base ≤ r₁.tree.nodes.size) : Follows base (log ++ log') r₁ r₃ := by
  refine h₁.trans (h₂.mono (hb.trans h₁.size_le)) fun a ha b hb' => ?_
  have := (h₁.child_mem a ha).2
  have := (h₂.child_mem b hb').1
  omega

/-- A change through a handle keeps the table, and the phase unless the handle is the
router's own. -/
theorem changed {s : Session} {h : Handle} {f : Tree → Tree}
    (hs : Tree.Run base s.router.tree log (f s.router.tree)) (hnd : (log.map (·.child)).Nodup) :
    Follows base log s.router (s.changed h f).router := by
  refine ⟨by rw [Session.changed_tree]; exact hs, hnd, Session.changed_table, ?_⟩
  rw [Session.changed_phase]
  split
  · exact .inr rfl
  · exact .inl rfl

/-- A change through a handle that makes no attach call. -/
theorem change {s : Session} {h : Handle} {f : Tree → Tree}
    (hs : Tree.Run base s.router.tree [] (f s.router.tree)) :
    Follows base [] s.router (s.changed h f).router :=
  changed hs List.nodup_nil

/-- A change through a handle that makes one attach call. -/
theorem attach {s : Session} {h : Handle} {f : Tree → Tree} {a : AttachCall}
    (hs : Tree.Run base s.router.tree [a] (f s.router.tree)) :
    Follows base [a] s.router (s.changed h f).router :=
  changed hs (List.nodup_singleton _)

end Follows

/-- From every session where the handle names a node of a well-formed tree, the computation
changes the router by steps with the attach calls `log` (`Follows`). -/
def RunFollows (h : Handle) (m : Build Unit) (log : Session → List AttachCall) : Prop :=
  ∀ s : Session, h.node < s.router.tree.nodes.size → s.router.tree.WF →
    Follows s.router.tree.nodes.size (log s) s.router (m.run.run s).2.router

theorem RunFollows.cons {h : Handle} {st : Statement} {rest : List Statement}
    (h₁ : RunFollows h (run h st) (attachLog h st))
    (h₂ : RunFollows h (runAll h rest) (attachLogAll h rest)) :
    RunFollows h (runAll h (st :: rest)) (attachLogAll h (st :: rest)) := by
  intro s hv hwf
  have f₁ := h₁ s hv hwf
  rw [runAll, run_bind, attachLogAll]
  rcases hr : (run h st).run.run s with ⟨_ | _, s'⟩ <;> rw [hr] at f₁
  · simpa using f₁
  · exact f₁.append (h₂ s' (Nat.lt_of_lt_of_le hv f₁.size_le) (f₁.wf hwf)) (Nat.le_refl _)

theorem follows_leaf {h : Handle} {st : Statement} (hl : st.isLeaf = true) :
    RunFollows h (run h st) (attachLog h st) := by
  intro s _ _
  rw [attachLog_leaf hl]
  rcases run_leaf hl s with ⟨g, hg, hrun⟩ | hrun
  · rw [hrun]; exact Follows.change (.modify hg (.refl _))
  · rw [hrun]; exact .refl _ _

/-- A statement that, when its handle offers it, first creates a node through the handle, and
otherwise stops at once: its run follows when the rest of it does from the created node. -/
theorem RunFollows.of_created {h : Handle} {st : Statement} {f : Tree → Tree}
    (hst : ∀ m st', st ≠ .looseThen m st')
    (hcreate : ∀ t : Tree, h.node < t.nodes.size → Tree.Run t.nodes.size t [] (f t))
    (hrefused : ∀ s, ¬ offers h.kind st.verb = true → attachLog h st s = [])
    (hrest : ∀ s, offers h.kind st.verb = true → h.node < s.router.tree.nodes.size →
      s.router.tree.WF → Follows s.router.tree.nodes.size (attachLog h st s)
        (s.changed h f).router ((run h st).run.run s).2.router) :
    RunFollows h (run h st) (attachLog h st) := by
  intro s hv hwf
  by_cases hoff : offers h.kind st.verb = true
  · have f₀ := Follows.change (h := h) (f := f) (hcreate _ hv)
    simpa using f₀.trans (hrest s hoff hv hwf) (by simp)
  · obtain ⟨e, hr⟩ := run_refused (by simpa using hoff) hst s
    rw [hr, hrefused s hoff]; exact .refl _ _

/-- After a child statement has created its node, the rest of its run follows, with the calls
of its body, its own attach, and the calls of its `then` block. -/
theorem child_follows_created {h : Handle} {k : ChildKind} {name : String} {path : Option String}
    {body after : List Statement} (hbody : ∀ c, RunFollows c (runAll c body) (attachLogAll c body))
    (hafter : ∀ c, RunFollows c (runAll c after) (attachLogAll c after)) {s : Session}
    (hoff : offers h.kind (Statement.child k name path body after).verb = true)
    (hv : h.node < s.router.tree.nodes.size) (hwf : s.router.tree.WF) :
    Follows s.router.tree.nodes.size (attachLog h (.child k name path body after) s)
      (s.changed h fun t => (t.create h.node name (childSegment k name path)
        (.resource (childKind h k) [] none)).1).router
      ((run h (.child k name path body after)).run.run s).2.router := by
  rw [run_child_run hoff, attachLog, if_pos hoff]; dsimp only
  let N := s.router.tree.nodes.size
  let s₁ := s.changed h fun t =>
    (t.create h.node name (childSegment k name path) (.resource (childKind h k) [] none)).1
  have f₁ : Follows N [] s.router s₁.router :=
    Follows.change (.create hv (show NodeBody.IsFresh (.resource (childKind h k) [] none)
      from ⟨rfl, rfl⟩) (.refl _))
  have hwf₁ : s₁.router.tree.WF := f₁.wf hwf
  have f₂ := hbody ⟨N, .resource (childKind h k)⟩ s₁ (by simp [s₁, N]) hwf₁
  -- the child is attached whether or not its body stopped, after every call of the body
  have attached : ∀ (s₂ : Session) (l : List AttachCall), Follows (N + 1) l s₁.router s₂.router →
      Follows N (l ++ [⟨s₂.router.tree, h.node, N⟩]) s₁.router
        (s₂.changed h fun t => t.attach h.node N).router := by
    intro s₂ l f
    have hext : (s.router.tree.create h.node name (childSegment k name path)
        (.resource (childKind h k) [] none)).1.Extends s₂.router.tree := by
      simpa [s₁] using Tree.Steps.extends f.run.steps
    refine (f.mono (Nat.le_succ N)).trans
      (Follows.attach (Tree.Run.attach_created ?_ (Nat.le_refl N) hext)) ?_
    · rintro _ _ _ ⟨⟩
      exact childKind_ne_collectionItem h k
    · intro a ha b hb
      rw [List.mem_singleton.1 hb]
      have := (f.child_mem a ha).1
      exact Nat.ne_of_gt this
  rcases hr : (runAll ⟨N, .resource (childKind h k)⟩ body).run.run s₁ with ⟨_ | _, s₂⟩ <;>
    rw [hr] at f₂ <;> simp only [s₁, Session.changed_tree, Tree.size_create] at f₂
  · simpa using attached s₂ _ f₂
  · have f₃ := attached s₂ _ f₂
    have hN : N < s₂.router.tree.nodes.size := by
      have := f₂.size_le
      simp only [Session.changed_tree, Tree.size_create] at this
      omega
    simpa using f₃.append (hafter _ _ (by simpa using hN) (f₃.wf hwf₁)) (by simp [s₁, N])

theorem follows_child {h : Handle} {k : ChildKind} {name : String} {path : Option String}
    {body after : List Statement} (hbody : ∀ c, RunFollows c (runAll c body) (attachLogAll c body))
    (hafter : ∀ c, RunFollows c (runAll c after) (attachLogAll c after)) :
    RunFollows h (run h (.child k name path body after)) (attachLog h (.child k name path body after)) :=
  RunFollows.of_created (fun _ _ => by simp)
    (f := fun t => (t.create h.node name (childSegment k name path) (.resource (childKind h k) [] none)).1)
    (fun _ hv => .create hv (show NodeBody.IsFresh (.resource (childKind h k) [] none) from ⟨rfl, rfl⟩)
      (.refl _))
    (fun _ hoff => by rw [attachLog, if_neg hoff])
    (fun _ hoff hv hwf => child_follows_created hbody hafter hoff hv hwf)

/-- After an items statement has found or created the items node, the rest of its run follows,
with the calls of its body and of its `then` block. -/
theorem items_follows_found {h : Handle} {name : String} {body after : List Statement}
    (hbody : ∀ c, RunFollows c (runAll c body) (attachLogAll c body))
    (hafter : ∀ c, RunFollows c (runAll c after) (attachLogAll c after)) {s : Session}
    (hoff : offers h.kind (Statement.items name body after).verb = true)
    (hv : h.node < s.router.tree.nodes.size) (hwf : s.router.tree.WF) :
    Follows s.router.tree.nodes.size (attachLog h (.items name body after) s)
      (s.changed h fun t => (t.items h.node name).1).router
      ((run h (.items name body after)).run.run s).2.router := by
  rw [run_items_run hoff, attachLog, if_pos hoff]; dsimp only
  let s₁ := s.changed h fun t => (t.items h.node name).1
  have f₁ : Follows s.router.tree.nodes.size [] s.router s₁.router :=
    Follows.change (.items hv (.refl _))
  have hi : (s.router.tree.items h.node name).2 < s₁.router.tree.nodes.size := by
    simpa [s₁] using hwf.items_snd_lt hv name
  have f₂ := hbody ⟨(s.router.tree.items h.node name).2, .resource .collectionItem⟩ s₁ hi (f₁.wf hwf)
  rcases hr : (runAll ⟨(s.router.tree.items h.node name).2, .resource .collectionItem⟩ body).run.run
    s₁ with ⟨_ | _, s₂⟩ <;> rw [hr] at f₂
  · simpa using f₂.mono f₁.size_le
  · exact (f₂.append (hafter _ s₂ (Nat.lt_of_lt_of_le hi f₂.size_le) (f₂.wf (f₁.wf hwf)))
      (Nat.le_refl _)).mono f₁.size_le

theorem follows_items {h : Handle} {name : String} {body after : List Statement}
    (hbody : ∀ c, RunFollows c (runAll c body) (attachLogAll c body))
    (hafter : ∀ c, RunFollows c (runAll c after) (attachLogAll c after)) :
    RunFollows h (run h (.items name body after)) (attachLog h (.items name body after)) :=
  RunFollows.of_created (fun _ _ => by simp) (f := fun t => (t.items h.node name).1)
    (fun _ hv => .items hv (.refl _))
    (fun _ hoff => by rw [attachLog, if_neg hoff])
    (fun _ hoff hv hwf => items_follows_found hbody hafter hoff hv hwf)

/-- After a route statement has created its node, the rest of its run follows, with its own
attach and the calls of its `then` block. -/
theorem route_follows_created {h : Handle} {st : Statement} {name : String} {seg : Segment}
    {spec : RouteSpec} {after : List Statement} (hst : st.routeParts = some (name, seg, spec, after))
    (hafter : ∀ c, RunFollows c (runAll c after) (attachLogAll c after)) {s : Session}
    (hoff : offers h.kind st.verb = true) (hv : h.node < s.router.tree.nodes.size)
    (hwf : s.router.tree.WF) :
    Follows s.router.tree.nodes.size (attachLog h st s)
      (s.changed h fun t => (t.create h.node name seg (.route spec)).1).router
      ((run h st).run.run s).2.router := by
  rw [run_addsRoute_run hst hoff, attachLog_route hst, routeLog, if_pos hoff]; dsimp only
  let s₁ := s.changed h fun t => (t.create h.node name seg (.route spec)).1
  have f₀ : Follows s.router.tree.nodes.size [] s.router s₁.router :=
    Follows.change (.create hv (show NodeBody.IsFresh (.route spec) from trivial) (.refl _))
  have hext : (s.router.tree.create h.node name seg (.route spec)).1.Extends s₁.router.tree := by
    rw [Session.changed_tree]; exact .refl _
  have f₁ : Follows s.router.tree.nodes.size [⟨s₁.router.tree, h.node, s.router.tree.nodes.size⟩]
      s₁.router (s₁.changed h fun t => t.attach h.node s.router.tree.nodes.size).router :=
    Follows.attach (Tree.Run.attach_created (by rintro _ _ _ ⟨⟩) (Nat.le_refl _) hext)
  simpa only [List.singleton_append] using f₁.append
    (hafter ⟨s.router.tree.nodes.size, .route⟩ _ (by simp [s₁]) (f₁.wf (f₀.wf hwf))) (by simp [s₁])

theorem follows_addsRoute {h : Handle} {st : Statement} {name : String} {seg : Segment}
    {spec : RouteSpec} {after : List Statement} (hst : st.routeParts = some (name, seg, spec, after))
    (hafter : ∀ c, RunFollows c (runAll c after) (attachLogAll c after)) :
    RunFollows h (run h st) (attachLog h st) := by
  have hnl : ∀ m st', st ≠ .looseThen m st' := by
    rintro m st' rfl; simp [Statement.routeParts] at hst
  exact RunFollows.of_created hnl (f := fun t => (t.create h.node name seg (.route spec)).1)
    (fun _ hv => .create hv (show NodeBody.IsFresh (.route spec) from trivial) (.refl _))
    (fun _ hoff => by rw [attachLog_route hst, routeLog, if_neg hoff])
    (fun _ hoff hv hwf => route_follows_created hst hafter hoff hv hwf)

theorem follows_looseThen {h : Handle} {m : String} {st : Statement}
    (hin : RunFollows h (run h st) (attachLog h st)) :
    RunFollows h (run h (.looseThen m st)) (attachLog h (.looseThen m st)) := by
  intro s hv hwf
  rw [run_looseThen_run, attachLog]
  split
  · exact hin s hv hwf
  · exact .refl _ _

mutual

/-- Every statement changes the router by steps, with its attach calls. -/
theorem run_follows : ∀ (h : Handle) (st : Statement), RunFollows h (run h st) (attachLog h st)
  | _, .child _ _ _ body after =>
    follows_child (fun c => runAll_follows c body) (fun c => runAll_follows c after)
  | _, .items _ body after =>
    follows_items (fun c => runAll_follows c body) (fun c => runAll_follows c after)
  | _, .route _ _ _ after => follows_addsRoute rfl fun c => runAll_follows c after
  | _, .rootRoute _ _ after => follows_addsRoute rfl fun c => runAll_follows c after
  | _, .conventional _ after => follows_addsRoute rfl fun c => runAll_follows c after
  | _, .subscription _ _ after => follows_addsRoute rfl fun c => runAll_follows c after
  | h, .looseThen _ st => follows_looseThen (run_follows h st)
  | _, .setAuth _ | _, .clearAuth | _, .setController _ | _, .clearController | _, .setBind _
  | _, .setValidate .. | _, .clearValidate _ | _, .tag _ | _, .pre _ | _, .inspect | _, .debug
  | _, .tree | _, .setAction _ | _, .changeMeta .. | _, .replaceMeta (.ok _)
  | _, .replaceMeta (.error _) | _, .malformed .. | _, .unreadable _ => follows_leaf rfl

/-- Every statement list changes the router by steps, with its attach calls. -/
theorem runAll_follows : ∀ (h : Handle) (sts : List Statement),
    RunFollows h (runAll h sts) (attachLogAll h sts)
  | _, [] => fun s _ _ => by rw [runAll, attachLogAll]; exact .refl _ _
  | h, st :: rest => .cons (run_follows h st) (runAll_follows h rest)

end

/-- The router after statements on its own handle, read off the run. -/
theorem runBuilder_fst (r : Router) (body : List Statement) :
    (runBuilder r body).1 = ((runAll Handle.root body).run.run ⟨r, #[]⟩).2.router := by
  unfold runBuilder
  split
  · rename_i s heq
    rw [show (runAll Handle.root body).run.run ⟨r, #[]⟩ = (.ok (), s) from heq]
  · rename_i e s heq
    rw [show (runAll Handle.root body).run.run ⟨r, #[]⟩ = (.error e, s) from heq]

/-- Statements on the router's own handle change its tree only by steps, with their attach
calls, and keep its table. -/
theorem runBuilder_follows {r : Router} (hwf : r.tree.WF) (body : List Statement) :
    Follows r.tree.nodes.size (attachLogAll Handle.root body ⟨r, #[]⟩) r (runBuilder r body).1 := by
  rw [runBuilder_fst]
  exact runAll_follows Handle.root body ⟨r, #[]⟩ hwf.size_pos hwf

/-! ## Runs keep the options -/

/-- A builder computation that leaves the router's options as they are. -/
def KeepsOptions (m : Build Unit) : Prop :=
  ∀ s : Session, (m.run.run s).2.router.options = s.router.options

theorem KeepsOptions.cons {h : Handle} {st : Statement} {rest : List Statement}
    (h₁ : KeepsOptions (run h st)) (h₂ : KeepsOptions (runAll h rest)) :
    KeepsOptions (runAll h (st :: rest)) := by
  intro s
  have h₁s := h₁ s
  rw [runAll, run_bind]
  rcases hr : (run h st).run.run s with ⟨_ | _, s'⟩ <;> rw [hr] at h₁s
  · exact h₁s
  · exact (h₂ s').trans h₁s

theorem keepsOptions_leaf {h : Handle} {st : Statement} (hl : st.isLeaf = true) :
    KeepsOptions (run h st) := by
  intro s
  rcases run_leaf hl s with ⟨g, -, hrun⟩ | hrun
  · rw [hrun, Session.changed_options]
  · rw [hrun]

/-- A statement keeps the options when its handle does not offer it, since it stops at once,
and when the run of the offered statement does. -/
theorem KeepsOptions.of_offered {h : Handle} {st : Statement} (hst : ∀ m st', st ≠ .looseThen m st')
    (hrest : ∀ s, offers h.kind st.verb = true →
      ((run h st).run.run s).2.router.options = s.router.options) :
    KeepsOptions (run h st) := by
  intro s
  by_cases hoff : offers h.kind st.verb = true
  · exact hrest s hoff
  · obtain ⟨e, hr⟩ := run_refused (by simpa using hoff) hst s
    rw [hr]

theorem keepsOptions_child {h : Handle} {k : ChildKind} {name : String} {path : Option String}
    {body after : List Statement} (hbody : ∀ c, KeepsOptions (runAll c body))
    (hafter : ∀ c, KeepsOptions (runAll c after)) :
    KeepsOptions (run h (.child k name path body after)) := by
  refine KeepsOptions.of_offered (fun _ _ => by simp) fun s hoff => ?_
  rw [run_child_run hoff]; dsimp only
  let s₁ := s.changed h fun t =>
    (t.create h.node name (childSegment k name path) (.resource (childKind h k) [] none)).1
  have h₂ := hbody ⟨s.router.tree.nodes.size, .resource (childKind h k)⟩ s₁
  -- the body keeps the options, and so do the attach and the `then` block
  rcases hr : (runAll ⟨s.router.tree.nodes.size, .resource (childKind h k)⟩ body).run.run s₁ with
    ⟨_ | _, s₂⟩ <;> rw [hr] at h₂
  · simpa [s₁] using h₂
  · rw [hafter]; simpa [s₁] using h₂

theorem keepsOptions_items {h : Handle} {name : String} {body after : List Statement}
    (hbody : ∀ c, KeepsOptions (runAll c body)) (hafter : ∀ c, KeepsOptions (runAll c after)) :
    KeepsOptions (run h (.items name body after)) := by
  refine KeepsOptions.of_offered (fun _ _ => by simp) fun s hoff => ?_
  rw [run_items_run hoff]; dsimp only
  let s₁ := s.changed h fun t => (t.items h.node name).1
  have h₂ := hbody ⟨(s.router.tree.items h.node name).2, .resource .collectionItem⟩ s₁
  rcases hr : (runAll ⟨(s.router.tree.items h.node name).2, .resource .collectionItem⟩ body).run.run
    s₁ with ⟨_ | _, s₂⟩ <;> rw [hr] at h₂
  · simpa [s₁] using h₂
  · rw [hafter]; simpa [s₁] using h₂

theorem keepsOptions_addsRoute {h : Handle} {st : Statement} {name : String} {seg : Segment}
    {spec : RouteSpec} {after : List Statement} (hst : st.routeParts = some (name, seg, spec, after))
    (hafter : ∀ c, KeepsOptions (runAll c after)) : KeepsOptions (run h st) := by
  have hnl : ∀ m st', st ≠ .looseThen m st' := by
    rintro m st' rfl; simp [Statement.routeParts] at hst
  refine KeepsOptions.of_offered hnl fun s hoff => ?_
  rw [run_addsRoute_run hst hoff, hafter]
  simp

theorem keepsOptions_looseThen {h : Handle} {m : String} {st : Statement}
    (hin : KeepsOptions (run h st)) : KeepsOptions (run h (.looseThen m st)) := by
  intro s
  rw [run_looseThen_run]
  split
  · exact hin s
  · rfl

mutual

/-- No statement changes the router's options. -/
theorem run_keepsOptions : ∀ (h : Handle) (st : Statement), KeepsOptions (run h st)
  | _, .child _ _ _ body after =>
    keepsOptions_child (fun c => runAll_keepsOptions c body) (fun c => runAll_keepsOptions c after)
  | _, .items _ body after =>
    keepsOptions_items (fun c => runAll_keepsOptions c body) (fun c => runAll_keepsOptions c after)
  | _, .route _ _ _ after => keepsOptions_addsRoute rfl fun c => runAll_keepsOptions c after
  | _, .rootRoute _ _ after => keepsOptions_addsRoute rfl fun c => runAll_keepsOptions c after
  | _, .conventional _ after => keepsOptions_addsRoute rfl fun c => runAll_keepsOptions c after
  | _, .subscription _ _ after => keepsOptions_addsRoute rfl fun c => runAll_keepsOptions c after
  | h, .looseThen _ st => keepsOptions_looseThen (run_keepsOptions h st)
  | _, .setAuth _ | _, .clearAuth | _, .setController _ | _, .clearController | _, .setBind _
  | _, .setValidate .. | _, .clearValidate _ | _, .tag _ | _, .pre _ | _, .inspect | _, .debug
  | _, .tree | _, .setAction _ | _, .changeMeta .. | _, .replaceMeta (.ok _)
  | _, .replaceMeta (.error _) | _, .malformed .. | _, .unreadable _ => keepsOptions_leaf rfl

theorem runAll_keepsOptions : ∀ (h : Handle) (sts : List Statement), KeepsOptions (runAll h sts)
  | _, [] => fun _ => by rw [runAll]; rfl
  | h, st :: rest => .cons (run_keepsOptions h st) (runAll_keepsOptions h rest)

end

/-- Statements on the router's own handle keep its options. -/
theorem runBuilder_options (r : Router) (body : List Statement) :
    (runBuilder r body).1.options = r.options := by
  rw [runBuilder_fst]
  exact runAll_keepsOptions Handle.root body ⟨r, #[]⟩

end ResourceRoutes.Script
