import ResourceRoutes.Proofs.Router.Reach

/-!
# Phase and table of a router

A router is built when its table was made from its current tree. Statements on the router's own
handle that change the tree make it assembling again (`touches`); statements that only report,
or stop before any change, leave it as it is:

* `runBuilder_of_touches_false`: a run that does not touch the tree leaves the router as it is;
* `runBuilder_phase_of_touches`: a run that touches it leaves the router assembling.

`Router.Consistent` is what every router reached from a fresh one satisfies: a built router is
what a build of it gives, the table's name index is sound and every table entry names a route of
the tree. Every operation keeps it (`Consistent.apply`), and reads through the table follow from
it (`Consistent.routes_entry`, `Consistent.get?_isSome`).

`phase_tracks_builds` collects these over every run of operations from a fresh router.
-/

namespace ResourceRoutes

open Script

/-- Whether statements on the router's own handle change its tree: the first statement the
router offers that does not only report is an edit or adds a node. A statement it does not
offer stops the run. -/
def touches : List Statement → Bool
  | [] => false
  | st :: rest =>
    offers Handle.root.kind st.verb &&
      (st.isEdit || st.isNested || (st.isReport && touches rest))

theorem changed_root_phase (s : Session) (f : Tree → Tree) :
    (s.changed Handle.root f).router.phase = .assembling := by
  rw [Session.changed_phase]; rfl

/-- On the router's own handle, a statement that is not an offered edit, nested statement or
report stops with the session as it was. -/
theorem run_root_stops {st : Statement}
    (hst : (offers Handle.root.kind st.verb && (st.isEdit || st.isNested || st.isReport)) = false)
    (s : Session) : ∃ e, (run Handle.root st).run.run s = (.error e, s) := by
  rcases st.isLeaf_or_isNested with hl | hn | ⟨m, st', rfl⟩
  · by_cases ho : offers Handle.root.kind st.verb = true
    · simp only [ho, Bool.true_and, Bool.or_eq_false_iff] at hst
      have hs : st.isStop = true := by
        simpa [Statement.isLeaf, hst.1.1, hst.2] using hl
      exact run_stop hs s
    · refine run_refused (by simpa using ho) ?_ s
      rintro m st' rfl
      simp [Statement.isLeaf, Statement.isEdit, Statement.isReport, Statement.isStop] at hl
  · have ho : offers Handle.root.kind st.verb = false := by simpa [hn] using hst
    refine run_refused ho ?_ s
    rintro m st' rfl
    simp [Statement.isNested, Statement.routeParts] at hn
  · exact ⟨m, by rw [run_looseThen_run]; rfl⟩

/-- Statements on the router's own handle that do not touch the tree leave the router as it is. -/
theorem runAll_root_of_touches_false : ∀ {sts : List Statement}, touches sts = false →
    ∀ s : Session, ((runAll Handle.root sts).run.run s).2.router = s.router
  | [], _, s => by rw [runAll]; rfl
  | st :: rest, h, s => by
    rw [runAll, run_bind]
    by_cases hr : (offers Handle.root.kind st.verb && st.isReport) = true
    · -- a report: the run goes on from the same router
      simp only [Bool.and_eq_true] at hr
      have hrest : touches rest = false := by
        simp [touches, hr.1, hr.2] at h
        exact h.2
      obtain ⟨s', hs', hrun⟩ := run_report hr.2 hr.1 s
      rw [hrun]; dsimp only
      rw [runAll_root_of_touches_false hrest s', hs']
    · have hst : (offers Handle.root.kind st.verb && (st.isEdit || st.isNested || st.isReport)) =
          false := by
        cases ho : offers Handle.root.kind st.verb <;> simp_all [touches]
      obtain ⟨e, hrun⟩ := run_root_stops hst s
      rw [hrun]

/-- On the router's own handle, an offered statement that adds a node leaves the router
assembling: its first change is through that handle. -/
theorem run_root_nested_assembling {st : Statement} (hn : st.isNested = true)
    (ho : offers Handle.root.kind st.verb = true) {s : Session} (hwf : s.router.tree.WF) :
    ((run Handle.root st).run.run s).2.router.phase = .assembling := by
  have hv : Handle.root.node < s.router.tree.nodes.size := hwf.size_pos
  cases st with
  | child k name path body after =>
    exact (child_follows_created (fun c => runAll_follows c body) (fun c => runAll_follows c after)
      ho hv hwf).assembling (changed_root_phase _ _)
  | items name body after =>
    exact (items_follows_found (fun c => runAll_follows c body) (fun c => runAll_follows c after)
      ho hv hwf).assembling (changed_root_phase _ _)
  | route _ _ _ after | rootRoute _ _ after | conventional _ after | subscription _ _ after =>
    exact (route_follows_created rfl (fun c => runAll_follows c after) ho hv hwf).assembling
      (changed_root_phase _ _)
  | _ => simp [Statement.isNested, Statement.routeParts] at hn

/-- Statements on the router's own handle that touch the tree leave the router assembling. -/
theorem runAll_root_of_touches : ∀ {sts : List Statement}, touches sts = true →
    ∀ {s : Session}, s.router.tree.WF → ((runAll Handle.root sts).run.run s).2.router.phase = .assembling
  | [], h, _, _ => by simp [touches] at h
  | st :: rest, h, s, hwf => by
    rw [runAll, run_bind]
    simp only [touches, Bool.and_eq_true, Bool.or_eq_true] at h
    obtain ⟨ho, (he | hn) | ⟨hr, hrest⟩⟩ := h
    · -- an edit through the router's own handle
      obtain ⟨g, hg, hrun⟩ := run_edit he ho s
      have f : Follows s.router.tree.nodes.size [] s.router
          (s.changed Handle.root fun t => t.modifyNode Handle.root.node g).router :=
        Follows.change (.modify hg (.refl _))
      rw [hrun]; dsimp only
      exact (runAll_follows Handle.root rest _ (Nat.lt_of_lt_of_le hwf.size_pos f.size_le)
        (f.wf hwf)).assembling (changed_root_phase _ _)
    · -- a statement that adds a node
      have hph := run_root_nested_assembling hn ho hwf
      have f := run_follows Handle.root st s hwf.size_pos hwf
      rcases hrun : (run Handle.root st).run.run s with ⟨_ | _, s'⟩ <;> rw [hrun] at hph f
      · exact hph
      · exact (runAll_follows Handle.root rest s' (Nat.lt_of_lt_of_le hwf.size_pos f.size_le)
          (f.wf hwf)).assembling hph
    · -- a report: the run goes on from the same router
      obtain ⟨s', hs', hrun⟩ := run_report hr ho s
      rw [hrun]; dsimp only
      exact runAll_root_of_touches hrest (by rw [hs']; exact hwf)

theorem runBuilder_of_touches_false {body : List Statement} (h : touches body = false)
    (r : Router) : (runBuilder r body).1 = r := by
  rw [runBuilder_fst]
  exact runAll_root_of_touches_false h _

theorem runBuilder_phase_of_touches {body : List Statement} (h : touches body = true) {r : Router}
    (hwf : r.tree.WF) : (runBuilder r body).1.phase = .assembling := by
  rw [runBuilder_fst]
  exact runAll_root_of_touches h hwf

/-! ## Operations -/

/-- An operation that leaves the router as it is: statements that do not touch the tree. -/
def Op.quiet : Op → Bool
  | .script body => !touches body
  | .build => false

theorem Router.runOps_quiet (r : Router) : ∀ {ops : List Op}, (∀ op ∈ ops, op.quiet = true) →
    r.runOps ops = r
  | [], _ => rfl
  | .script body :: ops, h => by
    have hq : touches body = false := by simpa [Op.quiet] using h _ List.mem_cons_self
    rw [Router.runOps_cons, Op.apply, runBuilder_of_touches_false hq]
    exact Router.runOps_quiet r fun op hop => h op (List.mem_cons_of_mem _ hop)
  | .build :: _, h => by simp [Op.quiet] at h

theorem Router.build_phase_built {r : Router} {t : RouteTable} (h : r.build.2 = .ok t) :
    r.build.1.phase = .built := by
  rcases r.build_cases with ⟨e, hb⟩ | ⟨t', -, -, hb⟩
  · rw [hb] at h; cases h
  · rw [hb]

theorem Router.build_ok_of_phase {r : Router} (h : r.build.1.phase = .built) :
    ∃ t, r.build.2 = .ok t := by
  rcases r.build_cases with ⟨e, hb⟩ | ⟨t, -, -, hb⟩
  · rw [hb] at h; cases h
  · exact ⟨t, by rw [hb]⟩

/-- A router that is built after operations was built by the last build among them, with only
quiet operations since, or was built before them all and every operation was quiet. -/
theorem built_history {r₀ : Router} (h₀ : r₀.tree.WF) : ∀ ops : List Op,
    (r₀.runOps ops).phase = .built →
    (∃ pre post, ops = pre ++ .build :: post ∧ (∃ tbl, (r₀.runOps pre).build.2 = .ok tbl) ∧
        ∀ op ∈ post, op.quiet = true) ∨
      (r₀.phase = .built ∧ ∀ op ∈ ops, op.quiet = true)
  | [], h => .inr ⟨h, by simp⟩
  | op :: ops, h => by
    rcases built_history (Op.apply_wf h₀ op) ops h with ⟨pre, post, rfl, hok, hq⟩ | ⟨h₁, hq⟩
    · exact .inl ⟨op :: pre, post, rfl, hok, hq⟩
    · cases op with
      | build => exact .inl ⟨[], ops, rfl, Router.build_ok_of_phase h₁, hq⟩
      | script body =>
        cases ht : touches body
        · rw [Op.apply, runBuilder_of_touches_false ht] at h₁
          refine .inr ⟨h₁, ?_⟩
          simpa [Op.quiet, ht] using hq
        · rw [Op.apply, runBuilder_phase_of_touches ht h₀] at h₁
          cases h₁

/-! ## The consistency invariant -/

/-- What every router reached from a fresh one satisfies: a well-formed tree, a sound name
index, table entries that name routes, and, when built, the table a build gives. -/
structure Router.Consistent (r : Router) : Prop where
  wf : r.tree.WF
  indexed : r.table.Indexed
  routes : ∀ e ∈ r.table.entries, r.tree.isRoute e.node = true
  built : r.phase = .built → r.build = (r, .ok r.table)

theorem consistent_withOptions (o : Options) : (Router.withOptions o).Consistent :=
  ⟨Tree.wf_new _, RouteTable.indexed_empty, fun e he => by simp [Router.withOptions, RouteTable.empty] at he,
    fun h => by cases h⟩

namespace Router.Consistent

variable {r : Router}

theorem script (hc : r.Consistent) (body : List Statement) : (runBuilder r body).1.Consistent := by
  cases ht : touches body
  · rw [runBuilder_of_touches_false ht]; exact hc
  · have f := runBuilder_follows hc.wf body
    refine ⟨f.wf hc.wf, f.table ▸ hc.indexed, fun e he => ?_, fun h => ?_⟩
    · rw [f.table] at he
      exact (Tree.Steps.extends f.run.steps).isRoute (hc.routes e he)
    · rw [runBuilder_phase_of_touches ht hc.wf] at h; cases h

theorem build (hc : r.Consistent) : r.build.1.Consistent := by
  rcases r.build_cases with ⟨e, hb⟩ | ⟨t, -, hv, hb⟩ <;> rw [hb]
  · exact ⟨hc.wf, RouteTable.indexed_empty, fun e he => by simp [RouteTable.empty] at he,
      fun h => by cases h⟩
  · obtain ⟨-, hent, hidx⟩ := RouteTable.ofVisited_eq_ok hv
    refine ⟨hc.wf, hidx, fun e he => ?_, fun _ => ?_⟩
    · rw [hent] at he
      obtain ⟨v, hv', rfl⟩ := List.mem_map.1 he
      exact Tree.isRoute_of_mem_visit hc.wf hv'
    · -- a build reads only the tree and the options, so the built router builds to itself
      have hsame : ({ r with table := t, phase := .built } : Router).build = r.build :=
        Router.build_eq_of rfl rfl
      dsimp only
      rw [hsame, hb]

theorem apply (hc : r.Consistent) : ∀ op : Op, (op.apply r).Consistent
  | .script body => hc.script body
  | .build => hc.build

/-- A table entry naming a route reads as that route. -/
theorem refOf_of_isRoute {e : RouteEntry} (h : r.tree.isRoute e.node = true) :
    ∃ s, r.refOf e = some ⟨e, s⟩ := by
  obtain ⟨n, s, hn, hb⟩ := Tree.isRoute_iff.1 h
  exact ⟨s, by simp [Router.refOf, hn, Node.spec?, hb]⟩

/-- The built routes are the table's entries, in table order. -/
theorem routes_entry (hc : r.Consistent) : r.routes.map (·.entry) = r.table.entries := by
  calc r.routes.map (·.entry)
      = r.table.entries.filterMap (fun e => (r.refOf e).map (·.entry)) := List.map_filterMap
    _ = r.table.entries.filterMap some := List.filterMap_congr fun e he => by
        obtain ⟨s, hs⟩ := refOf_of_isRoute (hc.routes e he)
        rw [hs]; rfl
    _ = r.table.entries := List.filterMap_some

/-- A name reads as a route exactly when the table contains it. -/
theorem get?_isSome (hc : r.Consistent) (n : String) : (r.get? n).isSome = r.table.contains n := by
  cases hn : r.table.contains n
  · rw [Router.get?, RouteTable.get?_of_not_contains hn]; rfl
  · obtain ⟨e, he, hget⟩ := hc.indexed.get?_of_contains hn
    obtain ⟨s, hs⟩ := refOf_of_isRoute (hc.routes e he)
    rw [Router.get?, hget, Option.bind_some, hs]; rfl

end Router.Consistent

theorem consistent_runOps {r : Router} (hc : r.Consistent) : ∀ ops : List Op, (r.runOps ops).Consistent
  | [] => hc
  | op :: ops => consistent_runOps (hc.apply op) ops

/-- Over every run of operations from a fresh router: the router is built exactly when the last
build succeeded and every later operation was quiet; a built router has no recorded error and its
table is the one a build of it gives; every table entry names a route of the tree, so the built
routes are the table's entries in order and a name reads as a route exactly when the table
contains it. -/
theorem phase_tracks_builds (o : Options) (ops : List Op) :
    let r := (Router.withOptions o).runOps ops
    (r.phase = .built ↔ ∃ pre post, ops = pre ++ .build :: post ∧
        (∃ tbl, ((Router.withOptions o).runOps pre).build.2 = .ok tbl) ∧
        ∀ op ∈ post, op.quiet = true) ∧
      (r.phase = .built → r.tree.error = none ∧ r.build = (r, .ok r.table)) ∧
      (∀ e ∈ r.table.entries, r.tree.isRoute e.node = true) ∧
      r.routes.map (·.entry) = r.table.entries ∧
      ∀ n, (r.get? n).isSome = r.table.contains n := by
  intro r
  have hc : r.Consistent := consistent_runOps (consistent_withOptions o) ops
  refine ⟨⟨fun h => ?_, ?_⟩, fun h => ⟨?_, hc.built h⟩, hc.routes, hc.routes_entry, hc.get?_isSome⟩
  · -- a fresh router is assembling, so some build made it built
    rcases built_history (consistent_withOptions o).wf ops h with hlast | ⟨h₀, -⟩
    · exact hlast
    · cases h₀
  · rintro ⟨pre, post, rfl, ⟨tbl, hok⟩, hq⟩
    show ((Router.withOptions o).runOps (pre ++ .build :: post)).phase = .built
    rw [Router.runOps_append, Router.runOps_cons, Router.runOps_quiet _ hq]
    exact Router.build_phase_built hok
  · -- a recorded error would make the build fail
    rcases r.build_cases with ⟨e, hb⟩ | ⟨t, he, -, -⟩
    · have hr := congrArg Prod.snd (hc.built h)
      rw [hb] at hr
      simp at hr
    · exact he

end ResourceRoutes
