import Mathlib.Data.List.Infix
import ResourceRoutes.Proofs.Router.Reach

/-!
# Rooted paths

A route's path is the root path with the segments of its chain joined on, one `/` before each
(`joinPath`, which adds no second `/` after the root path `/`). The paths of a build stay well
formed when the root path is and every segment is plain:

* `RootedPath`: the path starts with `/`, has no `//`, and ends with `/` only when it is `/`;
  `PlainSegment`: the segment is not empty, has no `/` at either end and no `//` inside.
* `RootedPath.joinPath`: joining a plain segment onto a rooted path gives a rooted path; so does
  joining a list of them (`RootedPath.foldl_joinPath`). An items placeholder `{name}` is plain
  when the name has no `//` (`plainSegment_placeholder`).
* `Tree.segmentsAlong`: the segments a chain of links joins; the chain's path is the path above
  it with them joined (`descend_path_eq_foldl`). In a tree whose segments and items names are
  plain (`Tree.PlainPaths`, a check of each node by `plainPaths_iff`) all of them are plain.
* `Options.rootedPath_rootPath`: the root path of checked options whose base path has no `//`
  is rooted; `Router.runOps_options`: a router's options never change.

`build_paths_rooted` puts these together for every successful build.
-/

namespace ResourceRoutes

/-! ## Rooted paths and plain segments -/

/-- A path as the router writes it: it starts with `/`, has no `//`, and ends with `/` only
when it is the root path `/`. -/
structure RootedPath (p : String) : Prop where
  start : p.startsWith "/" = true
  noDoubleSlash : p.contains "//" = false
  trailing : p.endsWith "/" = true → p = "/"

/-- A segment that can be joined onto a path: not empty, no `/` at either end, no `//`. -/
structure PlainSegment (s : String) : Prop where
  nonempty : s ≠ ""
  start : s.startsWith "/" = false
  finish : s.endsWith "/" = false
  noDoubleSlash : s.contains "//" = false

section Chars

theorem startsWith_slash_iff {p : String} : p.startsWith "/" = true ↔ ['/'] <+: p.toList := by
  simp

theorem endsWith_slash_iff {p : String} : p.endsWith "/" = true ↔ ['/'] <:+ p.toList := by
  simp [← String.endsWith_toSlice]

theorem contains_slashes_iff {p : String} : p.contains "//" = true ↔ ['/', '/'] <:+: p.toList := by
  simp

theorem eq_slash_iff {p : String} : p = "/" ↔ p.toList = ['/'] := by
  rw [← String.toList_inj]
  rfl

theorem rootedPath_iff {p : String} :
    RootedPath p ↔ ['/'] <+: p.toList ∧ ¬ ['/', '/'] <:+: p.toList ∧
      (['/'] <:+ p.toList → p.toList = ['/']) := by
  rw [← startsWith_slash_iff, ← contains_slashes_iff, ← endsWith_slash_iff, ← eq_slash_iff,
    Bool.not_eq_true]
  exact ⟨fun ⟨h₁, h₂, h₃⟩ => ⟨h₁, h₂, h₃⟩, fun ⟨h₁, h₂, h₃⟩ => ⟨h₁, h₂, h₃⟩⟩

theorem plainSegment_iff {s : String} :
    PlainSegment s ↔ s.toList ≠ [] ∧ ¬ ['/'] <+: s.toList ∧ ¬ ['/'] <:+ s.toList ∧
      ¬ ['/', '/'] <:+: s.toList := by
  rw [← startsWith_slash_iff, ← endsWith_slash_iff, ← contains_slashes_iff, Ne,
    String.toList_eq_nil_iff, Bool.not_eq_true, Bool.not_eq_true, Bool.not_eq_true]
  exact ⟨fun ⟨h₁, h₂, h₃, h₄⟩ => ⟨h₁, h₂, h₃, h₄⟩, fun ⟨h₁, h₂, h₃, h₄⟩ => ⟨h₁, h₂, h₃, h₄⟩⟩

/-- Decided on the characters, which the kernel reads off a literal. -/
instance (s : String) : Decidable (PlainSegment s) := decidable_of_iff _ plainSegment_iff.symm

/-- Two slashes in a joined list stand inside one part, or one on each side of the cut. -/
theorem slashes_infix_append {a b : List Char} :
    ['/', '/'] <:+: a ++ b ↔ ['/', '/'] <:+: a ∨ ['/', '/'] <:+: b ∨ (['/'] <:+ a ∧ ['/'] <+: b) := by
  rw [List.infix_append_iff_ne_nil]
  constructor
  · rintro (h | h | ⟨l₁, l₂, h₁, h₂, h, hs, hp⟩)
    · exact .inl h
    · exact .inr (.inl h)
    · -- a pair cut in two nonempty parts is one slash on each side
      obtain ⟨rfl, rfl⟩ : l₁ = ['/'] ∧ l₂ = ['/'] := by
        rcases l₁ with _ | ⟨x, l₁⟩
        · exact absurd rfl h₁
        · simp only [List.cons_append, List.cons.injEq] at h
          obtain ⟨rfl, h⟩ := h
          rcases List.singleton_eq_append_iff.1 h with ⟨rfl, rfl⟩ | ⟨rfl, rfl⟩
          · exact ⟨rfl, rfl⟩
          · exact absurd rfl h₂
      exact .inr (.inr ⟨hs, hp⟩)
  · rintro (h | h | ⟨hs, hp⟩)
    · exact .inl h
    · exact .inr (.inl h)
    · exact .inr (.inr ⟨['/'], ['/'], by simp, by simp, rfl, hs, hp⟩)

/-- A list ends with `/` exactly when its nonempty last part does. -/
theorem slash_suffix_append {a b : List Char} (hb : b ≠ []) : ['/'] <:+ a ++ b ↔ ['/'] <:+ b := by
  rw [List.singleton_suffix_iff_getLast?_eq_some, List.singleton_suffix_iff_getLast?_eq_some,
    List.getLast?_append_of_ne_nil _ hb]

/-- No slash pair stands in a one-letter list. -/
theorem not_slashes_infix_singleton (c : Char) : ¬ ['/', '/'] <:+: [c] := fun h => by
  simpa using h.length_le

end Chars

/-- The root path `/` is rooted. -/
theorem rootedPath_slash : RootedPath "/" :=
  rootedPath_iff.2 ⟨by simp, not_slashes_infix_singleton '/', fun _ => by simp⟩

/-- Joining a plain segment onto a rooted path keeps it rooted: below `/` the segment follows
the one slash, and below any other path the new slash follows a last character that is no
slash. -/
theorem RootedPath.joinPath {base s : String} (hb : RootedPath base) (hs : PlainSegment s) :
    RootedPath (joinPath base s) := by
  obtain ⟨hb₁, hb₂, hb₃⟩ := rootedPath_iff.1 hb
  obtain ⟨hs₀, hs₁, hs₂, hs₃⟩ := plainSegment_iff.1 hs
  -- the slash followed by the segment has no pair and does not end with a slash
  have hpair : ¬ ['/', '/'] <:+: '/' :: s.toList := by
    rw [show '/' :: s.toList = ['/'] ++ s.toList from rfl, slashes_infix_append]
    rintro (h | h | ⟨-, h⟩)
    · exact not_slashes_infix_singleton '/' h
    · exact hs₃ h
    · exact hs₁ h
  have hend : ¬ ['/'] <:+ '/' :: s.toList := by
    rw [show '/' :: s.toList = ['/'] ++ s.toList from rfl, slash_suffix_append hs₀]
    exact hs₂
  unfold ResourceRoutes.joinPath
  split
  · rw [rootedPath_iff]
    simp only [String.toList_append]
    exact ⟨by simp, by simpa using hpair, fun h => absurd (by simpa using h) hend⟩
  · rename_i hne
    have hlast : ¬ ['/'] <:+ base.toList := fun h => hne (by simpa [eq_slash_iff] using hb₃ h)
    rw [rootedPath_iff]
    simp only [String.toList_append, List.append_assoc]
    refine ⟨hb₁.trans (List.prefix_append _ _), ?_, fun h => ?_⟩
    · rw [slashes_infix_append]
      rintro (h | h | ⟨h, -⟩)
      · exact hb₂ h
      · exact hpair (by simpa using h)
      · exact hlast h
    · rw [slash_suffix_append (by simp)] at h
      exact absurd (by simpa using h) hend

/-- Joining plain segments one after the other onto a rooted path keeps it rooted. -/
theorem RootedPath.foldl_joinPath {segs : List String} :
    ∀ {base : String}, RootedPath base → (∀ s ∈ segs, PlainSegment s) →
      RootedPath (segs.foldl ResourceRoutes.joinPath base) := by
  induction segs with
  | nil => exact fun hb _ => hb
  | cons s segs ih =>
    intro base hb hs
    exact ih (hb.joinPath (hs s List.mem_cons_self)) fun s' h => hs s' (List.mem_cons_of_mem s h)

/-- An items placeholder `{name}` is a plain segment when the name has no `//`. -/
theorem plainSegment_placeholder {n : String} (h : n.contains "//" = false) :
    PlainSegment ("\x7b" ++ n ++ "\x7d") := by
  have hn : ¬ ['/', '/'] <:+: n.toList := by simpa using h
  have hlist : ("\x7b" ++ n ++ "\x7d").toList = ['\x7b'] ++ (n.toList ++ ['\x7d']) := by simp
  rw [plainSegment_iff, hlist]
  refine ⟨by simp, by simp, ?_, ?_⟩
  · rw [List.singleton_append, List.singleton_suffix_cons_append_singleton_iff]
    decide
  · -- the braces are no slashes, so a pair would stand inside the name
    rw [slashes_infix_append, slashes_infix_append]
    rintro (h | (h | h | ⟨-, h⟩) | ⟨h, -⟩)
    · exact not_slashes_infix_singleton _ h
    · exact hn h
    · exact not_slashes_infix_singleton _ h
    · simp at h
    · simp [List.singleton_suffix_iff_getLast?_eq_some] at h

/-! ## The root path -/

namespace Options

/-- Checked options have a base path that is empty, or starts with `/` and is `/` or does not
end with one. -/
theorem validate_basePath {o : Options} (hv : o.validate = .ok ()) {p : String}
    (hp : o.basePath = some p) (hne : p.isEmpty = false) :
    p.startsWith "/" = true ∧ (p.length > 1 → p.endsWith "/" = false) := by
  unfold validate at hv
  rw [hp] at hv
  by_cases hs : p.startsWith "/" = true
  · refine ⟨hs, fun hl => ?_⟩
    cases he : p.endsWith "/"
    · rfl
    · simp only [hne, hs, hl, he, Bool.not_false, Bool.not_true, decide_true, Bool.and_self,
        if_true] at hv
      cases hv
  · simp only [hne, hs, Bool.not_false, if_true] at hv
    cases hv

/-- The root path of checked options whose base path has no `//` is rooted. -/
theorem rootedPath_rootPath {o : Options} (hv : o.validate = .ok ())
    (hb : ∀ p, o.basePath = some p → p.contains "//" = false) : RootedPath o.rootPath := by
  unfold rootPath
  rcases hp : o.basePath with _ | p
  · exact rootedPath_slash
  · dsimp only
    cases he : p.isEmpty <;> simp only [Bool.false_eq_true, if_false, if_true]
    · obtain ⟨hs, hend⟩ := validate_basePath hv hp he
      refine ⟨hs, hb p hp, fun h => ?_⟩
      -- a one-character path that starts with `/` is `/`
      have hl : p.length ≤ 1 := by
        by_contra hl
        rw [hend (by omega)] at h
        cases h
      obtain ⟨t, ht⟩ := startsWith_slash_iff.1 hs
      have htl : t = [] := by
        rw [← String.length_toList, ← ht] at hl
        simpa using hl
      rw [eq_slash_iff, ← ht, htl]
      rfl
    · exact rootedPath_slash

end Options

/-! ## Segments along a chain -/

namespace Link

/-- The segments a link joins onto the path above it: none for a named link to a group or to a
node without a segment, the node's segment for another named link, and the placeholder `{name}`
for the items link. -/
def segments (l : Link) (child : Node) : List String :=
  match l with
  | .named _ =>
    if child.isTransparent then []
    else match child.segment with
      | .root => []
      | .named s => [s]
  | .items => ["\x7b" ++ child.name ++ "\x7d"]

theorem path_eq_foldl (l : Link) (child : Node) (base : String) :
    l.path child base = (l.segments child).foldl joinPath base := by
  cases l with
  | named k =>
    simp only [path, segments]
    split
    · rfl
    · cases child.segment <;> rfl
  | items => rfl

end Link

/-- What plain paths ask of one node, as a check: a named segment is plain, and an items node's
name has no `//`. -/
def Node.plainPaths (n : Node) : Bool :=
  n.segment.all (fun s => decide (PlainSegment s)) &&
    (n.kind? != some .collectionItem || !decide (['/', '/'] <:+: n.name.toList))

namespace Tree

variable {t : Tree}

/-- The segments a chain of links from node `id` joins, from the start down. -/
def segmentsAlong (t : Tree) (id : Nat) : List Link → List String
  | [] => []
  | l :: ls =>
    match (t.node? id).bind (·.target? l) with
    | some c =>
      match t.node? c with
      | some child => l.segments child ++ t.segmentsAlong c ls
      | none => []
    | none => []

/-- The path a chain descends to is the path above it with the chain's segments joined. -/
theorem descend_path_eq_foldl {ls : List Link} :
    ∀ {id : Nat} {name path : String} {v : Visited}, t.descend id name path ls = some v →
      v.path = (t.segmentsAlong id ls).foldl joinPath path := by
  induction ls with
  | nil =>
    intro id name path v h
    cases h
    rfl
  | cons l ls ih =>
    intro id name path v h
    unfold descend at h
    unfold segmentsAlong
    rcases hc : (t.node? id).bind (·.target? l) with _ | c <;> rw [hc] at h
    · cases h
    · dsimp only at h ⊢
      rcases hchild : t.node? c with _ | child <;> rw [hchild] at h
      · cases h
      · dsimp only at h ⊢
        rw [ih h, List.foldl_append, Link.path_eq_foldl]

/-- A tree whose paths stay rooted: every named segment is plain and no items name has a
`//`. -/
structure PlainPaths (t : Tree) : Prop where
  segments : ∀ {i n s}, t.node? i = some n → n.segment = .named s → PlainSegment s
  items : ∀ {i n}, t.node? i = some n → n.kind? = some .collectionItem →
    n.name.contains "//" = false

/-- A tree has plain paths exactly when each of its nodes passes the check. -/
theorem plainPaths_iff : t.PlainPaths ↔ ∀ n ∈ t.nodes.toList, n.plainPaths = true := by
  simp only [Node.plainPaths, Bool.and_eq_true, Segment.all_eq_true, decide_eq_true_eq,
    Bool.or_eq_true, bne_iff_ne, ne_eq, Bool.not_eq_eq_eq_not, Bool.not_true, decide_eq_false_iff_not,
    ← contains_slashes_iff, Bool.not_eq_true]
  rw [← forall_segment_items_iff]
  exact ⟨fun hp => ⟨hp.segments, hp.items⟩, fun ⟨hs, hi⟩ => ⟨hs, hi⟩⟩

instance (t : Tree) : Decidable t.PlainPaths := decidable_of_iff _ plainPaths_iff.symm

/-- Every segment a link of such a tree joins is plain. -/
theorem PlainPaths.link_segments (hp : t.PlainPaths) (hwf : t.WF) {id c : Nat} {n child : Node}
    {l : Link} (hn : t.node? id = some n) (hc : n.target? l = some c)
    (hchild : t.node? c = some child) : ∀ s ∈ l.segments child, PlainSegment s := by
  intro s hs
  cases l with
  | named k =>
    simp only [Link.segments] at hs
    split at hs
    · cases hs
    · rcases hseg : child.segment with _ | s' <;> rw [hseg] at hs
      · cases hs
      · rw [List.mem_singleton.1 hs]
        exact hp.segments hchild hseg
  | items =>
    -- the items node is a collection item, whose name has no `//`
    obtain ⟨c', hc', -, hk⟩ := hwf.items hn hc
    rw [hchild] at hc'; cases hc'
    rw [List.mem_singleton.1 hs]
    exact plainSegment_placeholder (hp.items hchild hk)

/-- Every segment a chain of such a tree joins is plain. -/
theorem PlainPaths.segmentsAlong_plain (hp : t.PlainPaths) (hwf : t.WF) (ls : List Link) :
    ∀ {id : Nat}, ∀ s ∈ t.segmentsAlong id ls, PlainSegment s := by
  induction ls with
  | nil => intro id s hs; cases hs
  | cons l ls ih =>
    intro id s hs
    unfold segmentsAlong at hs
    rcases hc : (t.node? id).bind (·.target? l) with _ | c <;> rw [hc] at hs
    · cases hs
    · dsimp only at hs
      rcases hchild : t.node? c with _ | child <;> rw [hchild] at hs
      · cases hs
      · obtain ⟨n, hn, hnc⟩ := Option.bind_eq_some_iff.1 hc
        rcases List.mem_append.1 hs with hs | hs
        · exact hp.link_segments hwf hn hnc hchild s hs
        · exact ih s hs

end Tree

/-! ## Built paths -/

/-- A router's options never change. -/
theorem Router.runOps_options (r : Router) (ops : List Op) : (r.runOps ops).options = r.options := by
  induction ops generalizing r with
  | nil => rfl
  | cons op ops ih =>
    rw [Router.runOps_cons, ih]
    cases op with
    | script body => exact Script.runBuilder_options r body
    | build => exact Router.build_options r

/-- Take checked options whose base path has no `//`, and a router built from them by any
operations, whose tree has plain segments and items names without `//`. Every path in a
successful build starts with `/`, has no `//`, and ends with `/` only when it is `/`: it is the
root path with the segments of the route's chain joined on, so a route whose chain adds no
segment has exactly the root path. That root path is `/` when the base path is absent or
empty. -/
theorem build_paths_rooted (o : Options) (ops : List Op) (hv : o.validate = .ok ())
    (hb : ∀ p, o.basePath = some p → p.contains "//" = false)
    (ht : ((Router.withOptions o).runOps ops).tree.PlainPaths) :
    let r := (Router.withOptions o).runOps ops
    (o.basePath = none ∨ o.basePath = some "" → o.rootPath = "/") ∧
    ∀ tbl, r.build.2 = .ok tbl → ∀ e ∈ tbl.entries,
      RootedPath e.path ∧
      (∃ ls, r.tree.follow 0 ls = some e.node ∧
        e.path = (r.tree.segmentsAlong 0 ls).foldl joinPath o.rootPath) ∧
      ∀ ls, r.tree.follow 0 ls = some e.node → r.tree.segmentsAlong 0 ls = [] →
        e.path = o.rootPath := by
  intro r
  have hwf : r.tree.WF := runOps_wf o ops
  have hopt : r.options = o := Router.runOps_options _ ops
  refine ⟨fun h => by rcases h with h | h <;> simp [Options.rootPath, h], fun tbl hbuild e he => ?_⟩
  -- a successful build holds the walk's routes, each reached by a chain from the root
  obtain ⟨v, hvw, rfl⟩ : ∃ v ∈ r.walk, RouteTable.entryOf v = e := by
    rcases r.build_cases with ⟨err, hbe⟩ | ⟨t', -, hvis, hbe⟩ <;> rw [hbe] at hbuild
    · cases hbuild
    · cases hbuild
      rw [(RouteTable.ofVisited_eq_ok hvis).2.1] at he
      exact List.mem_map.1 he
  obtain ⟨es, hes, hsound, -⟩ := Tree.visit_root_spec hwf r.options.rootPath
  rw [Router.walk, ← hes] at hvw
  obtain ⟨⟨ls, v'⟩, hmem, rfl⟩ := List.mem_map.1 hvw
  have hd := (hsound _ hmem).1
  rw [hopt] at hd
  have hpath := Tree.descend_path_eq_foldl hd
  have hfollow : r.tree.follow 0 ls = some v'.node := by
    rw [← Tree.descend_node hwf, hd]; rfl
  have hchain : ∀ ls', r.tree.follow 0 ls' = some v'.node → ls' = ls :=
    fun ls' h => Tree.follow_injective hwf h hfollow
  refine ⟨?_, ⟨ls, hfollow, hpath⟩, fun ls' hls' hnil => ?_⟩
  · show RootedPath v'.path
    rw [hpath]
    exact (Options.rootedPath_rootPath hv hb).foldl_joinPath (ht.segmentsAlong_plain hwf ls)
  · rw [hchain ls' hls'] at hnil
    show v'.path = o.rootPath
    rw [hpath, hnil]
    rfl

/-- Checked options under `/api`, and a router whose collection of users has an item route and,
under its items node, a collection of posts with items of its own. The tree has plain paths, the
build holds the index, the user and the post, and every path it holds is rooted. -/
theorem api_build_paths_rooted :
    let o : Options := ⟨some "/api", none⟩
    let r := (Router.withOptions o).runOps
      [.script [.child .collection "users" none
        [.conventional .index [],
         .items "user" [.conventional .show [],
           .child .collection "posts" none [.items "post" [.conventional .show []] []] []] []] []]]
    o.validate = .ok () ∧ (∀ p, o.basePath = some p → p.contains "//" = false) ∧
      r.tree.PlainPaths ∧
      (r.build.2.toOption.map fun tbl => tbl.entries.map (·.path)) =
        some ["/api/users", "/api/users/\x7buser\x7d", "/api/users/\x7buser\x7d/posts/\x7bpost\x7d"] ∧
      ∀ tbl, r.build.2 = .ok tbl → ∀ e ∈ tbl.entries, RootedPath e.path := by
  intro o r
  have hstart : ("/api" : String).startsWith "/" = true := startsWith_slash_iff.2 (by simp)
  have hend : ("/api" : String).endsWith "/" = false := by
    rw [← Bool.not_eq_true, endsWith_slash_iff]
    simp [List.singleton_suffix_iff_getLast?_eq_some]
  have hv : o.validate = .ok () := by
    have hne : ("/api" : String).isEmpty = false := by decide
    simp only [o, Options.validate, hstart, hend, hne]
    rfl
  have hb : ∀ p, o.basePath = some p → p.contains "//" = false := by
    intro p hp
    cases hp
    simp
    decide
  have ht : r.tree.PlainPaths := by decide +kernel
  have hpaths : (r.build.2.toOption.map fun tbl => tbl.entries.map (·.path)) =
      some ["/api/users", "/api/users/\x7buser\x7d", "/api/users/\x7buser\x7d/posts/\x7bpost\x7d"] := by
    decide +kernel
  exact ⟨hv, hb, ht, hpaths, fun tbl h e he => ((build_paths_rooted o _ hv hb ht).2 tbl h e he).1⟩

end ResourceRoutes
