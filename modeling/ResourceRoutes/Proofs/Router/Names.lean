import Mathlib.Data.List.Induction
import ResourceRoutes.Proofs.Router.Reach

/-!
# Canonical names read back

A canonical name is written link by link: a named child adds `.name` (just `name` below the
empty name), the items node adds `[name]`, and a group adds nothing. Once groups are left out and
every name is nonempty and free of `.`, `[` and `]` (`Tree.Legible`), the last link of a name is
read off its end: `]` closes an items link and the `[` before it opens it, and otherwise the last
`.` starts the name of a named child. So:

* `Link.name_inj`: one link's name gives back the kind of link, the child's name and the name
  before it;
* `descend_name_injective`: the name a chain of links gives from the root gives back the chain,
  since a node's children have distinct names and it has one items node;
* `canonical_names_distinct`: on every tree the builder makes that is legible and has recorded no
  error, the routes of the walk have distinct names, so a build succeeds.
-/

namespace ResourceRoutes

/-- A name that reads back from a canonical name: nonempty, without `.`, `[` or `]`. -/
def plainName (n : String) : Bool :=
  !n.toList.isEmpty && n.toList.all fun c => c != '.' && c != '[' && c != ']'

/-- Two lists that end with a separator and then a part free of it are split alike there. -/
theorem eq_of_append_sep {sep : Char} {a b c d : List Char} (hb : sep ∉ b) (hd : sep ∉ d)
    (h : a ++ sep :: b = c ++ sep :: d) : a = c ∧ b = d := by
  induction a generalizing c with
  | nil =>
    cases c with
    | nil => exact ⟨rfl, (List.cons.inj h).2⟩
    | cons x c =>
      -- the separator of the right side would stand in `b`
      obtain ⟨-, rfl⟩ := List.cons.inj h
      exact absurd (by simp) hb
  | cons x a ih =>
    cases c with
    | nil =>
      obtain ⟨-, rfl⟩ := List.cons.inj h
      exact absurd (by simp) hd
    | cons y c =>
      obtain ⟨rfl, h'⟩ := List.cons.inj h
      obtain ⟨rfl, rfl⟩ := ih h'
      exact ⟨rfl, rfl⟩

namespace Link

/-- Whether a link leads to the items node. -/
def isItems : Link → Bool
  | .named _ => false
  | .items => true

variable {l l' : Link} {child child' : Node} {a b : String}

theorem toList_name_items : (Link.items.name child a).toList = a.toList ++ '[' :: (child.name.toList ++ [']']) := by
  simp [name]

/-- A named link below a node that is no group adds the child's name, after a `.` unless the
name before it is empty. -/
theorem toList_name_named (hc : child.isTransparent = false) (k : Nat) :
    ((Link.named k).name child a).toList =
      if a.toList = [] then child.name.toList else a.toList ++ '.' :: child.name.toList := by
  simp only [name, hc, Bool.false_eq_true, if_false, String.isEmpty_iff]
  by_cases ha : a = ""
  · simp [ha]
  · rw [if_neg ha, if_neg (by simpa using ha)]
    simp

theorem not_mem_of_plainName {n : String} (h : plainName n = true) :
    '.' ∉ n.toList ∧ '[' ∉ n.toList ∧ ']' ∉ n.toList ∧ n.toList ≠ [] := by
  simp only [plainName, Bool.and_eq_true, Bool.not_eq_true', List.isEmpty_eq_false_iff,
    List.all_eq_true, bne_iff_ne, ne_eq] at h
  exact ⟨fun hm => (h.2 _ hm).1.1 rfl, fun hm => (h.2 _ hm).1.2 rfl, fun hm => (h.2 _ hm).2 rfl, h.1⟩

/-- A named link ends with the child's name, so never with `]` when the name is plain. -/
theorem getLast?_name_named (hc : child.isTransparent = false) (hn : plainName child.name = true)
    (k : Nat) : ((Link.named k).name child a).toList.getLast? ≠ some ']' := by
  obtain ⟨-, -, hclose, hne⟩ := not_mem_of_plainName hn
  intro hlast
  rw [toList_name_named hc] at hlast
  have hlast' : child.name.toList.getLast? = some ']' := by
    split at hlast
    · exact hlast
    · rwa [← List.singleton_append, ← List.append_assoc,
        List.getLast?_append_of_ne_nil _ hne] at hlast
  exact hclose (List.mem_of_getLast? hlast')

/-- An items link ends with `]`. -/
theorem getLast?_name_items : (Link.items.name child a).toList.getLast? = some ']' := by
  have hsplit : a.toList ++ '[' :: (child.name.toList ++ [']']) =
      (a.toList ++ '[' :: child.name.toList) ++ [']'] := by simp
  rw [toList_name_items, hsplit, List.getLast?_concat]

/-- A link below a node that is no group, to a child with a plain name, adds something. -/
theorem name_ne_empty (hc : child.isTransparent = false) (hn : plainName child.name = true) :
    (l.name child a).toList ≠ [] := by
  have := (not_mem_of_plainName hn).2.2.2
  cases l with
  | named k =>
    rw [toList_name_named hc]
    split <;> simp [this]
  | items => simp [toList_name_items]

/-- One link's name gives back the kind of link, the child's name and the name before it. -/
theorem name_inj (hc : child.isTransparent = false) (hc' : child'.isTransparent = false)
    (hn : plainName child.name = true) (hn' : plainName child'.name = true)
    (h : l.name child a = l'.name child' b) :
    l.isItems = l'.isItems ∧ child.name = child'.name ∧ a = b := by
  obtain ⟨hdot, hopen, -, -⟩ := not_mem_of_plainName hn
  obtain ⟨hdot', hopen', -, -⟩ := not_mem_of_plainName hn'
  have hl := congrArg String.toList h
  -- an items link ends with `]` and a named one does not, so the kinds agree
  cases l with
  | named k =>
    cases l' with
    | named k' =>
      rw [toList_name_named hc, toList_name_named hc'] at hl
      refine ⟨rfl, ?_⟩
      by_cases ha : a.toList = [] <;> by_cases hb : b.toList = [] <;>
        simp only [ha, hb, if_true, if_false] at hl
      · exact ⟨String.toList_inj.1 hl, String.toList_inj.1 (ha.trans hb.symm)⟩
      · exact absurd (by rw [hl]; simp) hdot
      · exact absurd (by rw [← hl]; simp) hdot'
      · -- the last `.` splits both names
        obtain ⟨hab, hcc⟩ := eq_of_append_sep hdot hdot' hl
        exact ⟨String.toList_inj.1 hcc, String.toList_inj.1 hab⟩
    | items =>
      have := congrArg List.getLast? hl
      rw [getLast?_name_items] at this
      exact absurd this (getLast?_name_named hc hn k)
  | items =>
    cases l' with
    | named k' =>
      have := congrArg List.getLast? hl
      rw [getLast?_name_items] at this
      exact absurd this.symm (getLast?_name_named hc' hn' k')
    | items =>
      refine ⟨rfl, ?_⟩
      rw [toList_name_items, toList_name_items] at hl
      -- without the closing `]`, the last `[` splits both names
      have hl' : (a.toList ++ '[' :: child.name.toList) ++ [']'] =
          (b.toList ++ '[' :: child'.name.toList) ++ [']'] := by simpa using hl
      obtain ⟨hab, hcc⟩ := eq_of_append_sep hopen hopen' (List.append_cancel_right hl')
      exact ⟨String.toList_inj.1 hcc, String.toList_inj.1 hab⟩

end Link

namespace Tree

variable {t : Tree}

/-- A tree whose canonical names read back: no node is a group, and every name is plain. -/
structure Legible (t : Tree) : Prop where
  noGroups : ∀ {i n}, t.node? i = some n → n.isTransparent = false
  names : ∀ {i n}, t.node? i = some n → plainName n.name = true

/-- Legibility is a check of every node. -/
theorem legible_iff : t.Legible ↔
    ∀ n ∈ t.nodes.toList, n.isTransparent = false ∧ plainName n.name = true := by
  have hmem : ∀ {i n}, t.node? i = some n → n ∈ t.nodes.toList := fun h =>
    Array.mem_toList_iff.2 (Array.mem_of_getElem? h)
  constructor
  · intro hl n hn
    obtain ⟨i, hi⟩ := List.mem_iff_getElem?.1 hn
    have hnode : t.node? i = some n := by simpa [node?] using hi
    exact ⟨hl.noGroups hnode, hl.names hnode⟩
  · intro h
    exact ⟨fun hi => (h _ (hmem hi)).1, fun hi => (h _ (hmem hi)).2⟩

instance (t : Tree) : Decidable t.Legible := decidable_of_iff _ legible_iff.symm

/-- A chain with one more link at its end descends one link further. -/
theorem descend_concat_eq_some {id : Nat} {name path : String} {ls : List Link} {l : Link}
    {v : Visited} (h : t.descend id name path (ls ++ [l]) = some v) :
    ∃ u n c child, t.descend id name path ls = some u ∧ t.node? u.node = some n ∧
      n.target? l = some c ∧ t.node? c = some child ∧
      v = ⟨l.name child u.name, l.path child u.path, c⟩ := by
  induction ls generalizing id name path with
  | nil =>
    simp only [List.nil_append, descend] at h
    rcases hc : (t.node? id).bind (·.target? l) with _ | c <;> rw [hc] at h
    · cases h
    · obtain ⟨n, hn, hnc⟩ := Option.bind_eq_some_iff.1 hc
      dsimp only at h
      rcases hchild : t.node? c with _ | child <;> rw [hchild] at h
      · cases h
      · exact ⟨_, n, c, child, rfl, hn, hnc, hchild, by simpa [descend] using h.symm⟩
  | cons l' ls ih =>
    simp only [List.cons_append, descend] at h ⊢
    rcases hc : (t.node? id).bind (·.target? l') with _ | c <;> rw [hc] at h
    · cases h
    · dsimp only at h ⊢
      rcases hchild : t.node? c with _ | child <;> rw [hchild] at h
      · cases h
      · exact ih h

/-- The empty chain gives the name it starts from. -/
theorem descend_nil_name {id : Nat} {name path : String} {v : Visited}
    (h : t.descend id name path [] = some v) : v.name = name := by
  cases h; rfl

/-- Two named links from one node to children of one name are one link: the children of a
node have distinct names. -/
theorem WF.named_eq_of_name (hwf : t.WF) {id c c' k k' : Nat} {n child child' : Node}
    (hn : t.node? id = some n) (hk : n.target? (.named k) = some c)
    (hk' : n.target? (.named k') = some c') (hc : t.node? c = some child)
    (hc' : t.node? c' = some child') (hname : child.name = child'.name) : k = k' := by
  obtain ⟨e, he, rfl⟩ := Option.map_eq_some_iff.1 hk
  obtain ⟨e', he', rfl⟩ := Option.map_eq_some_iff.1 hk'
  obtain ⟨c₁, hc₁, -, hn₁, -⟩ := hwf.child hn (List.mem_of_getElem? he)
  obtain ⟨c₂, hc₂, -, hn₂, -⟩ := hwf.child hn (List.mem_of_getElem? he')
  rw [hc] at hc₁; cases hc₁
  rw [hc'] at hc₂; cases hc₂
  have hkn : (n.children.map (·.1))[k]? = some child.name := by simp [he, hn₁]
  have hkn' : (n.children.map (·.1))[k']? = some child.name := by simp [he', hn₂, hname]
  have hlen : k < (n.children.map (·.1)).length := (List.getElem?_eq_some_iff.1 hkn).1
  exact (List.getElem?_inj hlen (hwf.names hn)).1 (hkn.trans hkn'.symm)

/-- In a legible tree the name a chain gives, from a node and the empty name, gives back the
chain. The last link is read off the end of the name (`Link.name_inj`); the chains before it
give one name, so by induction they are one chain and end at one node, and from one node a kind
of link and a child's name single out the link. -/
theorem descend_name_injective (hwf : t.WF) (hl : t.Legible) {id : Nat} {path : String}
    {ls₁ ls₂ : List Link} {v₁ v₂ : Visited} (h₁ : t.descend id "" path ls₁ = some v₁)
    (h₂ : t.descend id "" path ls₂ = some v₂) (hname : v₁.name = v₂.name) : ls₁ = ls₂ := by
  -- a link adds to the name, so a nonempty chain never gives the empty name
  have hlink : ∀ {ls l v}, t.descend id "" path (ls ++ [l]) = some v → v.name.toList ≠ [] := by
    intro ls l v h
    obtain ⟨u, n, c, child, -, -, -, hchild, rfl⟩ := descend_concat_eq_some h
    exact Link.name_ne_empty (hl.noGroups hchild) (hl.names hchild)
  induction ls₁ using List.reverseRecOn generalizing ls₂ v₁ v₂ with
  | nil =>
    rcases List.eq_nil_or_concat' ls₂ with rfl | ⟨L₂, l₂, rfl⟩
    · rfl
    · have hempty := descend_nil_name h₁
      exact absurd (by rw [← hname, hempty]; rfl) (hlink h₂)
  | append_singleton L₁ l₁ ih =>
    rcases List.eq_nil_or_concat' ls₂ with rfl | ⟨L₂, l₂, rfl⟩
    · have hempty := descend_nil_name h₂
      exact absurd (by rw [hname, hempty]; rfl) (hlink h₁)
    · obtain ⟨u₁, n₁, c₁, child₁, hu₁, hn₁, hc₁, hchild₁, rfl⟩ := descend_concat_eq_some h₁
      obtain ⟨u₂, n₂, c₂, child₂, hu₂, hn₂, hc₂, hchild₂, rfl⟩ := descend_concat_eq_some h₂
      obtain ⟨hkind, hcn, hun⟩ := Link.name_inj (hl.noGroups hchild₁) (hl.noGroups hchild₂)
        (hl.names hchild₁) (hl.names hchild₂) hname
      -- the chains before the last link are one chain, so they end at one node
      obtain rfl := ih hu₁ hu₂ hun
      rw [hu₁] at hu₂; cases hu₂
      rw [hn₁] at hn₂; cases hn₂
      cases l₁ with
      | named k₁ =>
        cases l₂ with
        | named k₂ => rw [hwf.named_eq_of_name hn₁ hc₁ hc₂ hchild₁ hchild₂ hcn]
        | items => cases hkind
      | items =>
        cases l₂ with
        | named k₂ => cases hkind
        | items => rfl

/-- In a legible tree the routes of the walk from the root have distinct names. -/
theorem walk_names_nodup (hwf : t.WF) (hl : t.Legible) (b : String) :
    ((t.visit 0 "" b).map (·.name)).Nodup := by
  obtain ⟨es, hes, hsound, hlex, -, -⟩ := visit_root_spec hwf b
  -- the chains of the walk are distinct, and each gives its route's name
  have hchains : (es.map (·.1)).Nodup := hlex.imp Link.lex_ne
  rw [← hes, List.map_map]
  refine List.Nodup.map_on ?_ (List.Nodup.of_map _ hchains)
  intro e₁ he₁ e₂ he₂ hname
  have hls := descend_name_injective hwf hl (hsound e₁ he₁).1 (hsound e₂ he₂).1 hname
  have hv : e₁.2 = e₂.2 := by
    have h₁ := (hsound e₁ he₁).1
    rw [hls, (hsound e₂ he₂).1] at h₁
    exact (Option.some.inj h₁).symm
  exact Prod.ext hls hv

end Tree

/-- A tree without an error whose walk has distinct names builds. -/
theorem Router.build_ok_of_nodup {r : Router} (he : r.tree.error = none)
    (hnd : (r.walk.map (·.name)).Nodup) :
    ∃ tbl, r.build = ({ r with table := tbl, phase := .built }, .ok tbl) := by
  rcases hv : RouteTable.ofVisited r.walk with e | tbl
  · -- a failed insert is a repeated name
    obtain ⟨pre, v, post, hw, -, hvpre, -⟩ := RouteTable.ofVisited_eq_error hv
    exact absurd (hw ▸ hnd) (RouteTable.not_nodup_of_repeat hvpre)
  · exact ⟨tbl, by rw [build_of_error_none he, hv]⟩

/-- On every tree the builder makes, with no error recorded, no group, and every name nonempty
and without `.`, `[` or `]`: the name a chain of links gives from the root gives back the chain,
so the routes of the walk have distinct names and a build succeeds, storing them all. -/
theorem canonical_names_distinct (o : Options) (ops : List Op) :
    let r := (Router.withOptions o).runOps ops
    r.tree.error = none → r.tree.Legible →
      (∀ ls₁ ls₂ v₁ v₂, r.tree.descend 0 "" r.options.rootPath ls₁ = some v₁ →
        r.tree.descend 0 "" r.options.rootPath ls₂ = some v₂ → v₁.name = v₂.name → ls₁ = ls₂) ∧
      (r.walk.map (·.name)).Nodup ∧
      ∃ tbl, r.build = ({ r with table := tbl, phase := .built }, .ok tbl) := by
  intro r he hl
  have hwf : r.tree.WF := runOps_wf o ops
  have hnd := Tree.walk_names_nodup hwf hl r.options.rootPath
  exact ⟨fun _ _ _ _ h₁ h₂ hn => Tree.descend_name_injective hwf hl h₁ h₂ hn, hnd,
    Router.build_ok_of_nodup he hnd⟩

/-- A collection with an index route and an item route, built from a fresh router: the tree is
legible, so the routes `users.index` and `users[id].show` are stored. -/
theorem collection_routes_build :
    let r := (Router.withOptions ⟨none, none⟩).runOps
      [.script [.child .collection "users" none
        [.conventional .index [], .items "id" [.conventional .show []] []] []]]
    r.tree.error = none ∧ r.tree.Legible ∧ (r.walk.map (·.name)).Nodup ∧
      ∃ tbl, r.build = ({ r with table := tbl, phase := .built }, .ok tbl) := by
  intro r
  have he : r.tree.error = none := by decide +kernel
  have hl : r.tree.Legible := by decide +kernel
  exact ⟨he, hl, (canonical_names_distinct _ _ he hl).2⟩

end ResourceRoutes
