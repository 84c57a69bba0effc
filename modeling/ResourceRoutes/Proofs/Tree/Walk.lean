import ResourceRoutes.Proofs.Tree.Chain

/-!
# The walk, chain by chain

`Tree.visit` is a recursion over the arena with two accumulators. In a well-formed arena it is
described without the recursion, by the chains of links from the start node:

* `visit_listsRoutes`: the walk below a node lists exactly the routes that nonempty chains from
  it reach, each once, with the name and path its chain gives (`Tree.descend`), in increasing
  lexicographic order of chains (`Link.Lt`: named children in attach order, then the items
  node).
* `visit_root_spec`: from the root, every listed route is an attached route with the name and
  path of its chain, every attached route is listed, no node twice, in the order of chains.

The proof follows the recursion (`Tree.visit.induct`): a route child contributes its own
one-link chain, a resource child or the items node the chains below it with the link in front,
and the parts are joined in link order (`ListsRoutes.append`).
-/

namespace ResourceRoutes

namespace Tree

variable {t : Tree}

/-- `vs` lists, in increasing order of chains, the routes reached from `id` by the chains whose
first link satisfies `S`: each once, with the name and path its chain gives from `name` and
`path` at `id`. -/
def ListsRoutes (t : Tree) (id : Nat) (name path : String) (S : Link → Prop)
    (vs : List Visited) : Prop :=
  ∃ es : List (List Link × Visited), es.map (·.2) = vs ∧
    (∀ e ∈ es, (∃ l tl, S l ∧ e.1 = l :: tl) ∧ t.descend id name path e.1 = some e.2 ∧
      t.isRoute e.2.node = true) ∧
    (es.map (·.1)).Pairwise (List.Lex Link.Lt) ∧
    ∀ l tl n, S l → t.follow id (l :: tl) = some n → t.isRoute n = true → l :: tl ∈ es.map (·.1)

section ListsRoutes

variable {id : Nat} {name path : String} {S S' T : Link → Prop}

theorem ListsRoutes.congr {vs : List Visited} (h : t.ListsRoutes id name path S vs)
    (hS : ∀ l, S l ↔ S' l) : t.ListsRoutes id name path S' vs := by
  obtain ⟨es, hvs, hsound, hsort, hall⟩ := h
  refine ⟨es, hvs, fun e he => ?_, hsort, fun l tl n hl => hall l tl n ((hS l).2 hl)⟩
  obtain ⟨⟨l, tl, hl, he1⟩, hd⟩ := hsound e he
  exact ⟨⟨l, tl, (hS l).1 hl, he1⟩, hd⟩

/-- No route is reached through the links of `S`. -/
theorem listsRoutes_nil (h : ∀ l tl n, S l → t.follow id (l :: tl) = some n → t.isRoute n = true → False) :
    t.ListsRoutes id name path S [] :=
  ⟨[], rfl, by simp, List.Pairwise.nil, fun l tl n hl hn hr => (h l tl n hl hn hr).elim⟩

/-- Routes below links of `S`, then routes below links of `T`, where every link of `S` comes
before every link of `T`. -/
theorem ListsRoutes.append {vs vs' : List Visited} (h : t.ListsRoutes id name path S vs)
    (h' : t.ListsRoutes id name path T vs') (hlt : ∀ l l', S l → T l' → l.Lt l') :
    t.ListsRoutes id name path (fun l => S l ∨ T l) (vs ++ vs') := by
  obtain ⟨es, hvs, hsound, hsort, hall⟩ := h
  obtain ⟨es', hvs', hsound', hsort', hall'⟩ := h'
  refine ⟨es ++ es', by simp [hvs, hvs'], ?_, ?_, ?_⟩
  · intro e he
    rcases List.mem_append.1 he with he | he
    · obtain ⟨⟨l, tl, hl, h1⟩, h2⟩ := hsound e he
      exact ⟨⟨l, tl, .inl hl, h1⟩, h2⟩
    · obtain ⟨⟨l, tl, hl, h1⟩, h2⟩ := hsound' e he
      exact ⟨⟨l, tl, .inr hl, h1⟩, h2⟩
  · rw [List.map_append, List.pairwise_append]
    refine ⟨hsort, hsort', ?_⟩
    intro a ha b hb
    obtain ⟨e, he, rfl⟩ := List.mem_map.1 ha
    obtain ⟨e', he', rfl⟩ := List.mem_map.1 hb
    obtain ⟨⟨l, tl, hl, h1⟩, -⟩ := hsound e he
    obtain ⟨⟨l', tl', hl', h1'⟩, -⟩ := hsound' e' he'
    rw [h1, h1']
    exact List.Lex.rel (hlt l l' hl hl')
  · intro l tl n hl hn hr
    rw [List.map_append, List.mem_append]
    rcases hl with hl | hl
    · exact .inl (hall l tl n hl hn hr)
    · exact .inr (hall' l tl n hl hn hr)

/-- A route child is reached by its own link alone. -/
theorem listsRoutes_route {n child : Node} {l : Link} {c : Nat} {s : RouteSpec}
    (hn : t.node? id = some n) (hc : n.target? l = some c) (hchild : t.node? c = some child)
    (hb : child.body = .route s) :
    t.ListsRoutes id name path (· = l) [⟨l.name child name, l.path child path, c⟩] := by
  have hroute : t.isRoute c = true := isRoute_iff.2 ⟨child, s, hchild, hb⟩
  refine ⟨[([l], ⟨l.name child name, l.path child path, c⟩)], rfl, ?_, List.pairwise_singleton _ _, ?_⟩
  · intro e he
    rw [List.mem_singleton] at he; subst he
    exact ⟨⟨l, [], rfl, rfl⟩, by rw [descend_cons_of_target name path [] hn hc hchild]; rfl, hroute⟩
  · rintro l' tl m rfl hm hr
    rw [follow_cons_of_target tl hn hc] at hm
    cases tl with
    | nil => simp
    | cons l₀ tl =>
      have : child.target? l₀ = none := by
        cases l₀ <;> simp [Node.target?, Node.children_route hb, Node.items?_route hb]
      rw [follow_cons_of_target_none tl (by simp [hchild, this])] at hm
      cases hm

/-- The routes below a resource child, reached through its link. -/
theorem listsRoutes_below {n child : Node} {l : Link} {c : Nat} {k : ResourceKind}
    {vs : List Visited} (hn : t.node? id = some n) (hc : n.target? l = some c)
    (hchild : t.node? c = some child) (hk : child.kind? = some k)
    (h : t.ListsRoutes c (l.name child name) (l.path child path) (fun _ => True) vs) :
    t.ListsRoutes id name path (· = l) vs := by
  obtain ⟨es, hvs, hsound, hsort, hall⟩ := h
  refine ⟨es.map fun e => (l :: e.1, e.2), by simp [← hvs], ?_, ?_, ?_⟩
  · intro e he
    obtain ⟨e₀, he₀, rfl⟩ := List.mem_map.1 he
    obtain ⟨-, hd, hr⟩ := hsound e₀ he₀
    exact ⟨⟨l, e₀.1, rfl, rfl⟩, by rw [descend_cons_of_target name path _ hn hc hchild]; exact hd, hr⟩
  · have : (es.map fun e => (l :: e.1, e.2)).map (·.1) = (es.map (·.1)).map (l :: ·) := by
      simp [Function.comp_def]
    rw [this, List.pairwise_map]
    exact hsort.imp List.Lex.cons
  · rintro l' tl m rfl hm hr
    rw [follow_cons_of_target tl hn hc] at hm
    cases tl with
    | nil =>
      simp only [follow, Option.some.injEq] at hm; subst hm
      rw [not_isRoute_of_kind hchild hk] at hr; cases hr
    | cons l₀ tl =>
      have := hall l₀ tl m trivial hm hr
      simp only [List.map_map, Function.comp_def, List.mem_map]
      obtain ⟨e, he, he1⟩ := List.mem_map.1 this
      exact ⟨e, he, by rw [he1]⟩

/-- The named children of a node, each contributing the routes below its link, in attach
order. -/
theorem listsRoutes_children {n : Node} (hn : t.node? id = some n) {g : String × Nat → List Visited}
    (hg : ∀ k e, n.children[k]? = some e → t.ListsRoutes id name path (· = .named k) (g e)) :
    t.ListsRoutes id name path (fun l => ∃ k, l = .named k) (n.children.flatMap g) := by
  -- the children from position `j` on, by induction on how many there are
  have key : ∀ m j, n.children.length - j = m →
      t.ListsRoutes id name path (fun l => ∃ k, j ≤ k ∧ l = .named k) ((n.children.drop j).flatMap g) := by
    intro m
    induction m with
    | zero =>
      intro j hj
      rw [List.drop_eq_nil_of_le (by omega), List.flatMap_nil]
      refine listsRoutes_nil fun l tl m hl hm _ => ?_
      obtain ⟨k, hk, rfl⟩ := hl
      have hnone : n.children[k]? = none := List.getElem?_eq_none (by omega)
      rw [follow_cons_of_target_none tl (by simp [hn, Node.target?, hnone])] at hm
      cases hm
    | succ m ih =>
      intro j hj
      have hjl : j < n.children.length := by omega
      rw [List.drop_eq_getElem_cons hjl, List.flatMap_cons]
      refine ((hg j _ (List.getElem?_eq_getElem hjl)).append (ih (j + 1) (by omega)) ?_).congr ?_
      · rintro l l' rfl ⟨k, hk, rfl⟩
        exact hk
      · intro l
        constructor
        · rintro (rfl | ⟨k, hk, rfl⟩)
          · exact ⟨j, Nat.le_refl j, rfl⟩
          · exact ⟨k, by omega, rfl⟩
        · rintro ⟨k, hk, rfl⟩
          by_cases hkj : k = j
          · exact .inl (by rw [hkj])
          · exact .inr ⟨k, by omega, rfl⟩
  refine (key _ 0 rfl).congr fun l => ?_
  simp

end ListsRoutes

/-- The walk below a node lists, in increasing order of chains, exactly the routes reached from
it by nonempty chains, each once, with the name and path its chain gives. -/
theorem visit_listsRoutes (hwf : t.WF) (id : Nat) (name path : String) :
    t.ListsRoutes id name path (fun _ => True) (t.visit id name path) := by
  induction id, name, path using Tree.visit.induct t with
  | case1 id bn bp h s hb =>
    -- a route has no links
    rw [Tree.visit, dif_pos h]
    simp only [hb]
    refine listsRoutes_nil fun l tl m _ hm _ => ?_
    have hn : t.node? id = some t.nodes[id] := by simp [node?, h]
    rw [follow_cons_of_target_none tl (by
      cases l <;> simp [hn, Node.target?, Node.children_route hb, Node.items?_route hb])] at hm
    cases hm
  | case2 id bn bp h k cs items hb ihc ihi =>
    rw [Tree.visit, dif_pos h]
    simp only [hb]
    have hn : t.node? id = some t.nodes[id] := by simp [node?, h]
    have hcs : t.nodes[id].children = cs := by simp [Node.children, hb]
    have hitems : t.nodes[id].items? = items := by simp [Node.items?, hb]
    rw [← hcs]
    refine ((listsRoutes_children hn fun j e he => ?_).append (T := (· = .items)) ?_ ?_).congr ?_
    · -- one named child
      obtain ⟨child, hchild, hpar, -⟩ := hwf.child hn (List.mem_of_getElem? he)
      have hlt : id < e.2 := hwf.parent_lt hchild hpar
      have htarget : t.nodes[id].target? (.named j) = some e.2 := by simp [Node.target?, he]
      simp only [if_pos hlt, hchild]
      rcases hcb : child.body with ⟨k', cs', it'⟩ | s
      · simp only
        rw [← Link.name_named j, ← Link.path_named j]
        refine listsRoutes_below (k := k') hn htarget hchild (by simp [Node.kind?, hcb]) ?_
        rw [Link.name_named, Link.path_named]
        exact ihc e.2 hlt child
      · simp only
        rw [← Link.name_named j, ← Link.path_named j]
        exact listsRoutes_route hn htarget hchild hcb
    · -- the items node
      rcases items with _ | i
      · refine listsRoutes_nil fun l tl m hl hm _ => ?_
        subst hl
        rw [follow_cons_of_target_none tl (by simp [hn, Node.target?, hitems])] at hm
        cases hm
      · obtain ⟨item, hitem, hpar, hk⟩ := hwf.items hn hitems
        have hlt : id < i := hwf.parent_lt hitem hpar
        simp only [if_pos hlt, hitem]
        exact listsRoutes_below hn (l := .items) (by simp [Node.target?, hitems]) hitem hk
          (ihi i hlt item)
    · rintro l l' ⟨k, rfl⟩ rfl
      trivial
    · intro l
      cases l <;> simp
  | case3 id bn bp h =>
    rw [Tree.visit, dif_neg h]
    refine listsRoutes_nil fun l tl m _ hm _ => ?_
    have hn : t.node? id = none := by simp [node?, h]
    rw [follow_cons_of_target_none tl (by simp [hn])] at hm
    cases hm

/-- The walk from the root: every route it lists is reached by a chain of links from the root
and has the name and path of that chain, every route reached so is listed, the chains come in
increasing order, and no node is listed twice. -/
theorem visit_root_spec (hwf : t.WF) (b : String) :
    ∃ es : List (List Link × Visited), es.map (·.2) = t.visit 0 "" b ∧
      (∀ e ∈ es, t.descend 0 "" b e.1 = some e.2 ∧ t.isRoute e.2.node = true) ∧
      (es.map (·.1)).Pairwise (List.Lex Link.Lt) ∧
      (∀ ls n, t.follow 0 ls = some n → t.isRoute n = true → ls ∈ es.map (·.1)) ∧
      ((t.visit 0 "" b).map (·.node)).Nodup := by
  obtain ⟨es, hvs, hsound, hsort, hall⟩ := visit_listsRoutes hwf 0 "" b
  refine ⟨es, hvs, fun e he => (hsound e he).2, hsort, ?_, ?_⟩
  · intro ls n hn hr
    cases ls with
    | nil =>
      -- the root is a router, not a route
      obtain ⟨r, hr0, -, hk⟩ := hwf.root
      simp only [follow, Option.some.injEq] at hn; subst hn
      rw [not_isRoute_of_kind hr0 hk] at hr; cases hr
    | cons l tl => exact hall l tl n trivial hn hr
  · -- distinct chains reach distinct nodes
    have hfollow : ∀ e ∈ es, t.follow 0 e.1 = some e.2.node := by
      intro e he
      rw [← descend_node hwf, (hsound e he).2.1]; rfl
    rw [← hvs, List.map_map, List.Nodup, List.pairwise_map]
    rw [List.pairwise_map] at hsort
    refine hsort.imp_of_mem fun {e e'} he he' hlex heq => Link.lex_ne hlex ?_
    exact follow_injective hwf (hfollow e he) ((hfollow e' he').trans (congrArg some heq.symm))

/-- The walk from the root lists only routes. -/
theorem isRoute_of_mem_visit (hwf : t.WF) {b : String} {v : Visited} (hv : v ∈ t.visit 0 "" b) :
    t.isRoute v.node = true := by
  obtain ⟨es, hes, hsound, -⟩ := visit_root_spec hwf b
  rw [← hes] at hv
  obtain ⟨e, he, rfl⟩ := List.mem_map.1 hv
  exact (hsound e he).2

end Tree

end ResourceRoutes
