import Mathlib.Data.List.Lex
import Mathlib.Data.List.Nodup
import ResourceRoutes.Tree.Visit
import ResourceRoutes.Proofs.Tree.Arena

/-!
# Chains of links

A node is reached from another by a chain of links, each to a named child, by its position in
the children list, or to the items node. Chains describe the walk without its recursion:

* `Tree.follow`: the node a chain leads to; `Tree.descend` also folds the chain into a canonical
  name and a path, link by link (`Link.name`, `Link.path`).
* `follow_injective`: in a well-formed arena a node is reached from another by at most one
  chain, since the last link of a chain starts at the node's parent.
* `Link.Lt`: named children in attach order, then the items node; chains are ordered
  lexicographically by it.
-/

namespace ResourceRoutes

/-- A link from a node to one below it. -/
inductive Link where
  /-- To the named child at a position of the children list. -/
  | named (pos : Nat)
  /-- To the items node. -/
  | items
  deriving DecidableEq, Repr

namespace Link

/-- The order of the walk: named children in attach order, then the items node. -/
def Lt : Link → Link → Prop
  | .named i, .named j => i < j
  | .named _, .items => True
  | .items, _ => False

theorem Lt.ne {l l' : Link} (h : l.Lt l') : l ≠ l' := by
  rintro rfl
  cases l with
  | named i => exact Nat.lt_irrefl i h
  | items => exact h

/-- Chains in increasing order are distinct. -/
theorem lex_ne {ls ls' : List Link} (h : List.Lex Link.Lt ls ls') : ls ≠ ls' :=
  List.Lex.to_ne (List.Lex.imp (fun _ _ => Lt.ne) _ _ h)

/-- The name below a link to `child`, from the name `base` above it. A named link to a group
adds nothing; another named link adds `.name`, or just the name below the empty name; the items
link adds `[name]`. -/
def name (l : Link) (child : Node) (base : String) : String :=
  match l with
  | .named _ =>
    if child.isTransparent then base
    else if base.isEmpty then child.name else base ++ "." ++ child.name
  | .items => base ++ "[" ++ child.name ++ "]"

/-- The path below a link to `child`, from the path `base` above it. A named link to a group or
to a node without a segment adds nothing, and a segment `s` is joined as `/s` below `/`, else as
`base/s`; the items link joins the placeholder `{name}`. -/
def path (l : Link) (child : Node) (base : String) : String :=
  match l with
  | .named _ =>
    if child.isTransparent then base
    else match child.segment with
      | .root => base
      | .named s => joinPath base s
  | .items => joinPath base ("\x7b" ++ child.name ++ "\x7d")

theorem name_named (k : Nat) (child : Node) (base : String) :
    (Link.named k).name child base = child.joinName base := rfl

theorem path_named (k : Nat) (child : Node) (base : String) :
    (Link.named k).path child base = child.joinSegment base := by
  unfold path Node.joinSegment
  cases h : child.segment <;> simp [Segment.join]

end Link

/-- The node a link from this node leads to. -/
def Node.target? (n : Node) : Link → Option Nat
  | .named k => (n.children[k]?).map (·.2)
  | .items => n.items?

namespace Tree

variable {t : Tree}

/-- The node a chain of links leads to from node `id`. -/
def follow (t : Tree) (id : Nat) : List Link → Option Nat
  | [] => some id
  | l :: ls =>
    match (t.node? id).bind (·.target? l) with
    | some c => t.follow c ls
    | none => none

/-- The node a chain of links leads to from node `id`, with the name and path the chain gives
from `name` and `path` at `id`. -/
def descend (t : Tree) (id : Nat) (name path : String) : List Link → Option Visited
  | [] => some ⟨name, path, id⟩
  | l :: ls =>
    match (t.node? id).bind (·.target? l) with
    | some c =>
      match t.node? c with
      | some child => t.descend c (l.name child name) (l.path child path) ls
      | none => none
    | none => none

/-- Whether a node is a route. -/
def isRoute (t : Tree) (id : Nat) : Bool :=
  match t.node? id with
  | some n => n.spec?.isSome
  | none => false

theorem isRoute_iff {id : Nat} : t.isRoute id = true ↔ ∃ n s, t.node? id = some n ∧ n.body = .route s := by
  unfold isRoute
  rcases t.node? id with _ | n
  · simp
  · unfold Node.spec?
    rcases hb : n.body with _ | s <;> simp [hb]

/-- A route stays a route as the tree grows. -/
theorem Extends.isRoute {t' : Tree} {i : Nat} (h : t.Extends t') (hr : t.isRoute i = true) :
    t'.isRoute i = true := by
  obtain ⟨n, s, hn, hb⟩ := isRoute_iff.1 hr
  obtain ⟨n', hn', g⟩ := h i n hn
  obtain ⟨s', hb'⟩ := Node.kind?_eq_none_iff.1 (g.kind.trans (Node.kind?_eq_none_iff.2 ⟨s, hb⟩))
  exact isRoute_iff.2 ⟨n', s', hn', hb'⟩

theorem not_isRoute_of_kind {id : Nat} {n : Node} {k : ResourceKind} (h : t.node? id = some n)
    (hk : n.kind? = some k) : t.isRoute id = false := by
  unfold isRoute Node.spec?
  unfold Node.kind? at hk
  rw [h]; simp only
  split at hk <;> simp_all

theorem follow_cons_of_target {id c : Nat} {n : Node} {l : Link} (ls : List Link)
    (hn : t.node? id = some n) (hc : n.target? l = some c) : t.follow id (l :: ls) = t.follow c ls := by
  simp [follow, hn, hc]

theorem follow_cons_of_target_none {id : Nat} {l : Link} (ls : List Link)
    (h : (t.node? id).bind (·.target? l) = none) : t.follow id (l :: ls) = none := by
  simp [follow, h]

theorem descend_cons_of_target {id c : Nat} {n child : Node} {l : Link} (name path : String)
    (ls : List Link) (hn : t.node? id = some n) (hc : n.target? l = some c)
    (hchild : t.node? c = some child) :
    t.descend id name path (l :: ls) = t.descend c (l.name child name) (l.path child path) ls := by
  simp [descend, hn, hc, hchild]

/-- The chain with one more link at its end. -/
theorem follow_concat (id : Nat) (ls : List Link) (l : Link) :
    t.follow id (ls ++ [l]) = (t.follow id ls).bind fun p => (t.node? p).bind (·.target? l) := by
  induction ls generalizing id with
  | nil =>
    simp only [follow, List.nil_append, Option.bind_some]
    rcases (t.node? id).bind (·.target? l) with _ | c <;> rfl
  | cons l' ls ih =>
    simp only [List.cons_append, follow]
    split <;> simp [ih]

/-! ## Links in a well-formed arena -/

/-- A link leads to an existing node whose parent is the node linked from. -/
theorem WF.target (hwf : t.WF) {id c : Nat} {n : Node} {l : Link} (hn : t.node? id = some n)
    (hc : n.target? l = some c) : ∃ child, t.node? c = some child ∧ child.parent = some id := by
  cases l with
  | named k =>
    obtain ⟨e, he, rfl⟩ := Option.map_eq_some_iff.1 hc
    obtain ⟨child, hchild, hp, -⟩ := hwf.child hn (List.mem_of_getElem? he)
    exact ⟨child, hchild, hp⟩
  | items =>
    obtain ⟨child, hchild, hp, -⟩ := hwf.items hn hc
    exact ⟨child, hchild, hp⟩

theorem WF.lt_target (hwf : t.WF) {id c : Nat} {n : Node} {l : Link} (hn : t.node? id = some n)
    (hc : n.target? l = some c) : id < c := by
  obtain ⟨child, hchild, hp⟩ := hwf.target hn hc
  exact hwf.parent_lt hchild hp

/-- Two links from one node to the same node are the same link: child names are distinct, and
the items node is a collection item while no named child is. -/
theorem WF.link_unique (hwf : t.WF) {id c : Nat} {n : Node} {l l' : Link}
    (hn : t.node? id = some n) (hl : n.target? l = some c) (hl' : n.target? l' = some c) :
    l = l' := by
  -- a named child's position is fixed by its name
  have named_eq : ∀ {k k'}, n.target? (.named k) = some c → n.target? (.named k') = some c →
      k = k' := by
    intro k k' h h'
    obtain ⟨e, he, rfl⟩ := Option.map_eq_some_iff.1 h
    obtain ⟨e', he', he'c⟩ := Option.map_eq_some_iff.1 h'
    obtain ⟨c₁, hc₁, -, hn₁, -⟩ := hwf.child hn (List.mem_of_getElem? he)
    obtain ⟨c₂, hc₂, -, hn₂, -⟩ := hwf.child hn (List.mem_of_getElem? he')
    rw [he'c, hc₁] at hc₂; cases hc₂
    have hk : (n.children.map (·.1))[k]? = some e.1 := by simp [he]
    have hk' : (n.children.map (·.1))[k']? = some e.1 := by simp [he', ← hn₁, hn₂]
    have hlen : k < (n.children.map (·.1)).length := (List.getElem?_eq_some_iff.1 hk).1
    exact (List.getElem?_inj hlen (hwf.names hn)).1 (hk.trans hk'.symm)
  -- a named child is no items node
  have named_items : ∀ {k}, n.target? (.named k) = some c → n.target? .items = some c → False := by
    intro k h h'
    obtain ⟨e, he, rfl⟩ := Option.map_eq_some_iff.1 h
    obtain ⟨c₁, hc₁, -, -, hk₁⟩ := hwf.child hn (List.mem_of_getElem? he)
    obtain ⟨c₂, hc₂, -, hk₂⟩ := hwf.items hn h'
    rw [hc₁] at hc₂; cases hc₂
    exact hk₁ hk₂
  cases l with
  | named k =>
    cases l' with
    | named k' => rw [named_eq hl hl']
    | items => exact (named_items hl hl').elim
  | items =>
    cases l' with
    | named k' => exact (named_items hl' hl).elim
    | items => rfl

/-- A nonempty chain leads to a node of larger index. -/
theorem WF.lt_follow (hwf : t.WF) {id c : Nat} {l : Link} {ls : List Link}
    (h : t.follow id (l :: ls) = some c) : id < c := by
  induction ls generalizing id l with
  | nil =>
    simp only [follow] at h
    split at h
    · rename_i d hd; cases h
      obtain ⟨n, hn, hd⟩ := Option.bind_eq_some_iff.1 hd
      exact hwf.lt_target hn hd
    · cases h
  | cons l' ls ih =>
    simp only [follow] at h
    split at h
    · rename_i d hd
      obtain ⟨n, hn, hd⟩ := Option.bind_eq_some_iff.1 hd
      exact Nat.lt_trans (hwf.lt_target hn hd) (ih h)
    · cases h

/-- In a well-formed arena a node is reached from another by at most one chain. The last link
of a chain starts at the node's parent, so the two chains agree on their last link and, by
induction on the node, on what comes before it. -/
theorem follow_injective (hwf : t.WF) {id n : Nat} {ls₁ ls₂ : List Link}
    (h₁ : t.follow id ls₁ = some n) (h₂ : t.follow id ls₂ = some n) : ls₁ = ls₂ := by
  induction n using Nat.strong_induction_on generalizing ls₁ ls₂ with
  | _ n ih =>
  -- the chain less its last link leads to the parent, and the last link to `n`
  have last : ∀ {ls}, t.follow id ls = some n → ls = [] ∧ n = id ∨
      ∃ L l p pn, ls = L ++ [l] ∧ t.follow id L = some p ∧ t.node? p = some pn ∧
        pn.target? l = some n ∧ p < n := by
    intro ls h
    rcases List.eq_nil_or_concat ls with rfl | ⟨L, l, rfl⟩
    · simp only [follow, Option.some.injEq] at h
      exact .inl ⟨rfl, h.symm⟩
    · right
      rw [List.concat_eq_append, follow_concat] at h
      obtain ⟨p, hp, h⟩ := Option.bind_eq_some_iff.1 h
      obtain ⟨pn, hpn, h⟩ := Option.bind_eq_some_iff.1 h
      exact ⟨L, l, p, pn, by simp, hp, hpn, h, hwf.lt_target hpn h⟩
  -- a nonempty chain does not come back to where it starts
  have not_back : ∀ {L l p pn}, t.follow id L = some p → t.node? p = some pn →
      pn.target? l = some id → False := by
    intro L l p pn hL hpn hl
    have hp : id ≤ p := by
      rcases L with _ | ⟨l₀, L⟩
      · simp only [follow, Option.some.injEq] at hL; omega
      · exact Nat.le_of_lt (hwf.lt_follow hL)
    have := hwf.lt_target hpn hl
    omega
  rcases last h₁ with ⟨rfl, rfl⟩ | ⟨L₁, l₁, p₁, pn₁, rfl, hL₁, hp₁, hl₁, hlt₁⟩ <;>
    rcases last h₂ with ⟨rfl, hid⟩ | ⟨L₂, l₂, p₂, pn₂, rfl, hL₂, hp₂, hl₂, -⟩
  · rfl
  · exact (not_back hL₂ hp₂ hl₂).elim
  · subst hid; exact (not_back hL₁ hp₁ hl₁).elim
  · -- both last links start at the parent of `n`
    obtain ⟨c₁, hc₁, hpar₁⟩ := hwf.target hp₁ hl₁
    obtain ⟨c₂, hc₂, hpar₂⟩ := hwf.target hp₂ hl₂
    rw [hc₁] at hc₂; cases hc₂
    rw [hpar₁] at hpar₂; cases hpar₂
    rw [hp₁] at hp₂; cases hp₂
    rw [ih p₁ hlt₁ hL₁ hL₂, hwf.link_unique hp₁ hl₁ hl₂]

/-- In a well-formed arena the node a chain descends to is the node it follows to. -/
theorem descend_node (hwf : t.WF) (id : Nat) (name path : String) (ls : List Link) :
    (t.descend id name path ls).map (·.node) = t.follow id ls := by
  induction ls generalizing id name path with
  | nil => rfl
  | cons l ls ih =>
    rcases hd : (t.node? id).bind (·.target? l) with _ | c
    · simp [descend, follow, hd]
    · obtain ⟨n, hn, hc⟩ := Option.bind_eq_some_iff.1 hd
      obtain ⟨child, hchild, -⟩ := hwf.target hn hc
      rw [descend_cons_of_target name path ls hn hc hchild, follow_cons_of_target ls hn hc, ih]

end Tree

end ResourceRoutes
