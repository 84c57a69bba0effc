import ResourceRoutes.Proofs.Script.Run
import ResourceRoutes.Proofs.Router.Build

/-!
# Routers reached by operations

A router changes in two ways: builder statements run on its own handle (`Op.script`), and a
build (`Op.build`). Every step of the step protocol is a sequence of these (`runStep_ops`);
reads leave the router as it is.

* `runOps_wf`: the tree of every router reached from a fresh one is well formed.
* `walk_lists_attached_routes`: on such a tree the walk from the root lists every route reached
  from the root by a chain of links once, in depth-first order, with the name and path the chain
  gives, and nothing else.
-/

namespace ResourceRoutes

open Script

/-- What changes a router. -/
inductive Op where
  /-- Builder statements on the router's own handle. -/
  | script (body : List Statement)
  /-- A build of the table. -/
  | build

/-- The router after an operation. -/
def Op.apply (r : Router) : Op → Router
  | .script body => (runBuilder r body).1
  | .build => r.build.1

namespace Router

/-- The router after operations, in order. -/
def runOps (r : Router) (ops : List Op) : Router := ops.foldl Op.apply r

@[simp] theorem runOps_nil (r : Router) : r.runOps [] = r := rfl

@[simp] theorem runOps_cons (r : Router) (op : Op) (ops : List Op) :
    r.runOps (op :: ops) = (op.apply r).runOps ops := rfl

theorem runOps_append (r : Router) (ops ops' : List Op) :
    r.runOps (ops ++ ops') = (r.runOps ops).runOps ops' := List.foldl_append

end Router

/-- Every step of the protocol changes the router by operations: `add` runs its statements and
builds, `do` runs its statements, `build` builds, and every other step reads. -/
theorem runStep_ops (r : Router) (o : Json) : ∃ ops, (runStep r o).1 = r.runOps ops := by
  unfold runStep
  split
  · split
    · exact ⟨[], rfl⟩
    · rename_i body _
      refine ⟨[.script (Statement.listOfJson body), .build], ?_⟩
      simp only [Router.runOps_cons, Router.runOps_nil, Op.apply]
      rcases runBuilder r (Statement.listOfJson body) with ⟨r', trace, _ | m⟩ <;>
        rcases r'.build with ⟨r'', _⟩ <;> rfl
  · split
    · exact ⟨[], rfl⟩
    · rename_i body _
      refine ⟨[.script (Statement.listOfJson body)], ?_⟩
      simp only [Router.runOps_cons, Router.runOps_nil, Op.apply]
      rcases runBuilder r (Statement.listOfJson body) with ⟨r', trace, _ | m⟩ <;> rfl
  · refine ⟨[.build], ?_⟩
    simp only [Router.runOps_cons, Router.runOps_nil, Op.apply]
    rcases r.build with ⟨r', _ | _⟩ <;> rfl
  all_goals exact ⟨[], rfl⟩

/-- Operations keep the tree well formed. -/
theorem Op.apply_wf {r : Router} (hwf : r.tree.WF) : ∀ op : Op, (op.apply r).tree.WF
  | .script body => (runBuilder_follows hwf body).wf hwf
  | .build => by rw [Op.apply, Router.build_tree]; exact hwf

theorem Router.runOps_wf_of {r : Router} (hwf : r.tree.WF) (ops : List Op) :
    (r.runOps ops).tree.WF := by
  induction ops generalizing r with
  | nil => exact hwf
  | cons op ops ih => exact ih (Op.apply_wf hwf op)

/-- The tree of every router reached from a fresh one is well formed. -/
theorem runOps_wf (o : Options) (ops : List Op) : ((Router.withOptions o).runOps ops).tree.WF :=
  Router.runOps_wf_of (Tree.wf_new _) ops

/-- The walk of a reached tree from the root, with root path `b`, lists exactly the routes
reached from the root by a chain of links: each chain's route once (its node appears once), in
the lexicographic order of chains (named children in attach order, then the items node), with
the name and path the chain gives (`Tree.descend`). -/
theorem walk_lists_attached_routes (o : Options) (ops : List Op) (b : String) :
    let t := ((Router.withOptions o).runOps ops).tree
    ∃ es : List (List Link × Visited), es.map (·.2) = t.visit 0 "" b ∧
      (∀ e ∈ es, t.descend 0 "" b e.1 = some e.2 ∧ t.isRoute e.2.node = true) ∧
      (es.map (·.1)).Pairwise (List.Lex Link.Lt) ∧
      (∀ ls n, t.follow 0 ls = some n → t.isRoute n = true → ls ∈ es.map (·.1)) ∧
      ((t.visit 0 "" b).map (·.node)).Nodup :=
  Tree.visit_root_spec (runOps_wf o ops) b

end ResourceRoutes
