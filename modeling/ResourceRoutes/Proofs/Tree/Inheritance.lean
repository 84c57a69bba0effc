import ResourceRoutes.Proofs.Script.Run
import ResourceRoutes.Proofs.Registration.Schemas

/-!
# Inherited options

Each node decides each inherited option (`Field`: authentication, the controller, the binding
document, and the schema of each validation slot) by leaving it to its parent, clearing it, or
setting it. A read walks the parent chain from the node up (`Tree.chainIds`), and reads are
live: they look at the tree as it is, whatever was created or written before.

* `lookup_eq_some_iff_decidesFirst`, `lookup_eq_none_iff_decidesFirst`: a read gives the
  setting of the nearest node of the chain that decides the option; a cleared option, like one
  that no node of the chain decides, reads as absent.
* A write of a node's option (`Tree.modifyOptions` with `Field.put`) is seen only from its
  subtree, and there only by the nodes that no node between them and the written one shields:
  `lookup_write_off_chain`, `lookup_write_shielded`, `lookup_write_exposed`. The other options
  are untouched (`lookup_write_other`).
* A node created under `p` reads what `p` reads, and the older nodes read as before
  (`lookup_create_new`, `lookup_create_old`).
* The builder's setters are exactly such writes, of settings that decide
  (`Statement.optionWrite?`, `run_optionWrite`).

`inherited_options_follow_chain` puts these together.
-/

namespace ResourceRoutes

/-- The options a node inherits from its ancestors. -/
inductive Field where
  | auth
  | controller
  | bind
  | schema (s : Slot)
  deriving DecidableEq

namespace Field

/-- The type of an option's value. -/
def Value : Field → Type
  | .auth => Auth
  | .controller => Designation
  | .bind | .schema _ => Json

/-- A node's own setting of an option. -/
def get : (f : Field) → NodeOptions → Setting f.Value
  | .auth, o => o.auth
  | .controller, o => o.controller
  | .bind, o => o.bind
  | .schema s, o => o.schema s

/-- Replace a node's own setting of an option. -/
def put : (f : Field) → NodeOptions → Setting f.Value → NodeOptions
  | .auth, o, v => { o with auth := v }
  | .controller, o, v => { o with controller := v }
  | .bind, o, v => { o with bind := v }
  | .schema s, o, v => o.withSchema s v

@[simp] theorem get_put_self (f : Field) (o : NodeOptions) (v : Setting f.Value) :
    f.get (f.put o v) = v := by
  cases f with
  | schema s => cases s <;> rfl
  | _ => rfl

/-- Writing one option leaves the others as they were. -/
theorem get_put_of_ne {f g : Field} (h : g ≠ f) (o : NodeOptions) (v : Setting f.Value) :
    g.get (f.put o v) = g.get o := by
  -- a schema's slot must be known before its field can be read
  cases f with
  | schema s =>
    cases g with
    | schema s' => cases s <;> cases s' <;> first | rfl | exact absurd rfl h
    | _ => cases s <;> rfl
  | _ =>
    cases g with
    | schema s' => cases s' <;> rfl
    | _ => first | rfl | exact absurd rfl h

/-- A fresh node leaves every option to its parent. -/
@[simp] theorem get_inheritAll (f : Field) : f.get NodeOptions.inheritAll = .inherit := by
  cases f with
  | schema s => cases s <;> rfl
  | _ => rfl

end Field

namespace Setting

variable {α : Type}

/-- What a setting reads as on its own: the value it sets, and nothing when it clears. -/
def value : Setting α → Option α
  | .set a => some a
  | .clear | .inherit => none

/-- A setting that decides is read as its value. -/
theorem decided_eq_some_value {s : Setting α} (h : s ≠ .inherit) : s.decided = some s.value := by
  cases s with
  | inherit => exact absurd rfl h
  | clear | set => rfl

end Setting

/-- The filter of a list, searched: the search of the list through the filter. -/
theorem findSome?_filterMap_eq {α β γ : Type} (g : α → Option β) (h : β → Option γ) (l : List α) :
    (l.filterMap g).findSome? h = l.findSome? fun a => (g a).bind h := by
  induction l with
  | nil => rfl
  | cons a l ih =>
    rcases hg : g a with _ | b
    · simp [hg, ih]
    · simp only [List.filterMap_cons, hg, List.findSome?_cons, Option.bind_some]
      split <;> simp [ih]

/-- Two searches agree on a list where their tests agree. -/
theorem findSome?_congr_of_mem {α β : Type} {p q : α → Option β} {l : List α}
    (h : ∀ a ∈ l, p a = q a) : l.findSome? p = l.findSome? q := by
  induction l with
  | nil => rfl
  | cons a l ih =>
    rw [List.findSome?_cons, List.findSome?_cons, h a List.mem_cons_self,
      ih fun b hb => h b (List.mem_cons_of_mem a hb)]

namespace Tree

/-- The node and its ancestors, nearest first, by index: the chain that `lookup` reads. -/
def chainIds (t : Tree) (id : Nat) : List Nat :=
  match t.node? id with
  | none => []
  | some n =>
    match n.parent with
    | some p => if p < id then id :: chainIds t p else [id]
    | none => [id]
termination_by id

/-- A node's own setting of an option; a missing node leaves every option to its parent. -/
def setting (t : Tree) (f : Field) (id : Nat) : Setting f.Value :=
  match t.node? id with
  | some n => f.get n.options
  | none => .inherit

/-- The node `d` is the nearest node of `y`'s chain that decides option `f`, and decides it as
`s`: every node before it on the chain leaves `f` to its parent. -/
def DecidesFirst (t : Tree) (f : Field) (y d : Nat) (s : Setting f.Value) : Prop :=
  ∃ pre post, t.chainIds y = pre ++ d :: post ∧ (∀ w ∈ pre, t.setting f w = .inherit) ∧
    t.setting f d = s

variable {t : Tree}

/-! ## The chain -/

/-- The chain of nodes `lookup` reads is the chain of indices, read node by node. -/
theorem chain_eq_filterMap (t : Tree) (id : Nat) : t.chain id = (t.chainIds id).filterMap t.node? := by
  induction id using Nat.strong_induction_on with
  | _ id ih =>
    rw [chain, chainIds]
    rcases hn : t.node? id with _ | n
    · rfl
    · rcases hp : n.parent with _ | p
      · simp [hn, hp]
      · by_cases hlt : p < id
        · simp [hlt, hn, hp, ih p hlt]
        · simp [hlt, hn, hp]

/-- Every index of the chain is a node, at most the index the chain starts from. -/
theorem le_of_mem_chainIds {id i : Nat} (h : i ∈ t.chainIds id) : i ≤ id ∧ (t.node? i).isSome := by
  induction id using Nat.strong_induction_on with
  | _ id ih =>
    rw [chainIds] at h
    rcases hn : t.node? id with _ | n <;> rw [hn] at h
    · cases h
    · dsimp only at h
      -- the node itself, or an index of its parent's chain
      have hself : i = id → i ≤ id ∧ (t.node? i).isSome := fun hi => by simp [hi, hn]
      rcases hp : n.parent with _ | p <;> rw [hp] at h
      · exact hself (List.mem_singleton.1 h)
      · dsimp only at h
        split at h
        · rename_i hlt
          rcases List.mem_cons.1 h with hi | hi
          · exact hself hi
          · obtain ⟨hle, hsome⟩ := ih p hlt hi
            exact ⟨by omega, hsome⟩
        · exact hself (List.mem_singleton.1 h)

/-- The chain goes up by strictly smaller indices, so no node is on it twice. -/
theorem chainIds_nodup (t : Tree) (id : Nat) : (t.chainIds id).Nodup := by
  induction id using Nat.strong_induction_on with
  | _ id ih =>
    rw [chainIds]
    rcases t.node? id with _ | n
    · exact List.nodup_nil
    · dsimp only
      rcases n.parent with _ | p
      · exact List.nodup_singleton _
      · dsimp only
        split
        · rename_i hlt
          exact List.nodup_cons.2 ⟨fun hm => by have := (le_of_mem_chainIds hm).1; omega, ih p hlt⟩
        · exact List.nodup_singleton _

/-- The chain of a node reads only the parents of the nodes up to it. -/
theorem chainIds_congr {t' : Tree} {id : Nat}
    (h : ∀ i ≤ id, (t'.node? i).map (·.parent) = (t.node? i).map (·.parent)) :
    t'.chainIds id = t.chainIds id := by
  induction id using Nat.strong_induction_on with
  | _ id ih =>
    rw [chainIds, chainIds]
    have hid := h id le_rfl
    rcases hn : t.node? id with _ | n <;> rcases hn' : t'.node? id with _ | n' <;>
      simp only [hn, hn', Option.map_none, Option.map_some, reduceCtorEq, Option.some.injEq] at hid
    · rfl
    · dsimp only
      rw [hid]
      rcases n.parent with _ | p
      · rfl
      · dsimp only
        split
        · rename_i hlt
          rw [ih p hlt fun i hi => h i (by omega)]
        · rfl

/-- A read, over the indices of the chain. -/
theorem lookup_eq_findSome (t : Tree) (id : Nat) (f : Field) :
    t.lookup id f.get = ((t.chainIds id).findSome? fun i => (t.setting f i).decided).join := by
  rw [lookup, chain_eq_filterMap, findSome?_filterMap_eq]
  congr 1
  refine findSome?_congr_of_mem fun i _ => ?_
  unfold setting
  rcases t.node? i with _ | n <;> rfl

/-! ## Reads -/

section Reads

variable (t : Tree) (f : Field) (y : Nat)

/-- The search of a lookup stops at the nearest node that decides: it finds `d` exactly when
`d` is that node's setting. -/
theorem findSome?_setting_eq_some_iff (d : Option f.Value) :
    ((t.chainIds y).findSome? fun i => (t.setting f i).decided) = some d ↔
      ∃ w s, t.DecidesFirst f y w s ∧ s.decided = some d := by
  rw [List.findSome?_eq_some_iff]
  constructor
  · rintro ⟨pre, w, post, hchain, hw, hpre⟩
    exact ⟨w, _, ⟨pre, post, hchain, fun m hm => by simpa using hpre m hm, rfl⟩, hw⟩
  · rintro ⟨w, s, ⟨pre, post, hchain, hpre, rfl⟩, hs⟩
    exact ⟨pre, w, post, hchain, hs, fun m hm => by simp [hpre m hm]⟩

/-- An option reads as `a` exactly when the nearest node of the chain that decides it sets
`a`. -/
theorem lookup_eq_some_iff_decidesFirst (a : f.Value) :
    t.lookup y f.get = some a ↔ ∃ d, t.DecidesFirst f y d (.set a) := by
  rw [lookup_eq_findSome, Option.join_eq_some_iff, findSome?_setting_eq_some_iff]
  constructor
  · rintro ⟨w, s, hw, hs⟩
    obtain rfl : s = .set a := by simpa using hs
    exact ⟨w, hw⟩
  · rintro ⟨w, hw⟩
    exact ⟨w, _, hw, rfl⟩

/-- An option reads as absent exactly when no node of the chain decides it, or the nearest one
clears it. -/
theorem lookup_eq_none_iff_decidesFirst :
    t.lookup y f.get = none ↔
      (∀ w ∈ t.chainIds y, t.setting f w = .inherit) ∨ ∃ d, t.DecidesFirst f y d .clear := by
  rw [lookup_eq_findSome, Option.join_eq_none_iff, List.findSome?_eq_none_iff,
    findSome?_setting_eq_some_iff]
  simp only [Setting.decided_eq_none_iff]
  constructor
  · rintro (h | ⟨w, s, hw, hs⟩)
    · exact .inl h
    · obtain rfl : s = .clear := by simpa using hs
      exact .inr ⟨w, hw⟩
  · rintro (h | ⟨w, hw⟩)
    · exact .inl h
    · exact .inr ⟨w, _, hw, rfl⟩

end Reads

/-! ## Writes -/

section Writes

variable {f : Field} {x : Nat} {v : Setting f.Value}

/-- A write of options keeps every parent, so every chain. -/
@[simp] theorem chainIds_modifyOptions (φ : NodeOptions → NodeOptions) (z : Nat) :
    (t.modifyOptions x φ).chainIds z = t.chainIds z := by
  refine chainIds_congr fun i _ => ?_
  rw [modifyOptions, node?_modifyNode]
  split
  · rw [Option.map_map]; rfl
  · rfl

theorem setting_modifyOptions_of_ne (φ : NodeOptions → NodeOptions) (g : Field) {i : Nat}
    (hi : i ≠ x) : (t.modifyOptions x φ).setting g i = t.setting g i := by
  rw [setting, setting, modifyOptions, node?_modifyNode, if_neg (Ne.symm hi)]

/-- The written node decides the written option as written. -/
theorem setting_write_self (hx : (t.node? x).isSome) :
    (t.modifyOptions x (f.put · v)).setting f x = v := by
  obtain ⟨n, hn⟩ := Option.isSome_iff_exists.1 hx
  rw [setting, modifyOptions, node?_modifyNode, if_pos rfl, hn]
  simp

/-- Every other option of every node is as it was. -/
theorem setting_write_other {g : Field} (hg : g ≠ f) (i : Nat) :
    (t.modifyOptions x (f.put · v)).setting g i = t.setting g i := by
  by_cases hi : i = x
  · subst hi
    rw [setting, setting, modifyOptions, node?_modifyNode, if_pos rfl]
    rcases t.node? i with _ | n
    · rfl
    · exact Field.get_put_of_ne hg _ _
  · exact setting_modifyOptions_of_ne _ g hi

/-- A node whose chain does not pass the written node reads every option as before. -/
theorem lookup_write_off_chain (φ : NodeOptions → NodeOptions) {z : Nat} (hz : x ∉ t.chainIds z)
    (g : Field) : (t.modifyOptions x φ).lookup z g.get = t.lookup z g.get := by
  rw [lookup_eq_findSome, lookup_eq_findSome, chainIds_modifyOptions]
  congr 1
  refine findSome?_congr_of_mem fun i hi => ?_
  rw [setting_modifyOptions_of_ne _ g (by rintro rfl; exact hz hi)]

/-- Below the written node, the part of the chain before it reads as before: the written node
is not on it. -/
theorem findSome?_write_before {z : Nat} {pre post : List Nat}
    (hz : t.chainIds z = pre ++ x :: post) (g : Field) :
    (pre.findSome? fun i => ((t.modifyOptions x (f.put · v)).setting g i).decided) =
      pre.findSome? fun i => (t.setting g i).decided := by
  have hx : x ∉ pre := by
    have hnd := t.chainIds_nodup z
    rw [hz] at hnd
    exact fun hm => List.disjoint_of_nodup_append hnd hm List.mem_cons_self
  refine findSome?_congr_of_mem fun i hi => ?_
  rw [setting_modifyOptions_of_ne _ g (by rintro rfl; exact hx hi)]

/-- A node with a node between it and the written one that decides the option (itself
included) is shielded from the write. -/
theorem lookup_write_shielded {z : Nat} {pre post : List Nat} (hz : t.chainIds z = pre ++ x :: post)
    (hw : ∃ w ∈ pre, t.setting f w ≠ .inherit) :
    (t.modifyOptions x (f.put · v)).lookup z f.get = t.lookup z f.get := by
  obtain ⟨w, hw, hdec⟩ := hw
  -- the search stops inside the part before the written node, on both sides
  have hstop : (pre.findSome? fun i => (t.setting f i).decided).isSome := by
    rw [List.findSome?_isSome_iff]
    exact ⟨w, hw, by rw [Setting.decided_eq_some_value hdec]; rfl⟩
  obtain ⟨d, hd⟩ := Option.isSome_iff_exists.1 hstop
  rw [lookup_eq_findSome, lookup_eq_findSome, chainIds_modifyOptions, hz, List.findSome?_append,
    List.findSome?_append, findSome?_write_before hz, hd]
  rfl

/-- A node of the written node's subtree that no node shields reads the written setting. -/
theorem lookup_write_exposed (hv : v ≠ .inherit) {z : Nat} {pre post : List Nat}
    (hz : t.chainIds z = pre ++ x :: post) (hpre : ∀ w ∈ pre, t.setting f w = .inherit) :
    (t.modifyOptions x (f.put · v)).lookup z f.get = v.value := by
  have hnone : (pre.findSome? fun i => (t.setting f i).decided) = none :=
    List.findSome?_eq_none_iff.2 fun w hw => by rw [hpre w hw]; rfl
  have hx : (t.node? x).isSome := (le_of_mem_chainIds (by rw [hz]; simp)).2
  rw [lookup_eq_findSome, chainIds_modifyOptions, hz, List.findSome?_append,
    findSome?_write_before hz, hnone, Option.none_or, List.findSome?_cons, setting_write_self hx,
    Setting.decided_eq_some_value hv]
  rfl

/-- A write of one option leaves every read of the others as it was. -/
theorem lookup_write_other {g : Field} (hg : g ≠ f) (z : Nat) :
    (t.modifyOptions x (f.put · v)).lookup z g.get = t.lookup z g.get := by
  rw [lookup_eq_findSome, lookup_eq_findSome, chainIds_modifyOptions]
  congr 1
  exact findSome?_congr_of_mem fun i _ => by rw [setting_write_other hg]

end Writes

/-! ## Nodes created later -/

section Create

variable (p : Nat) (name : String) (seg : Segment) (body : NodeBody)

/-- A node's chain is the node, then its parent's chain. -/
theorem chainIds_of_parent {y q : Nat} {n : Node} (hn : t.node? y = some n) (hq : n.parent = some q)
    (hlt : q < y) : t.chainIds y = y :: t.chainIds q := by
  rw [chainIds, hn]
  simp [hq, hlt]

/-- Creating a node leaves the chain of every older node as it was. -/
theorem chainIds_create_old {z : Nat} (hz : z < t.nodes.size) :
    (t.create p name seg body).1.chainIds z = t.chainIds z :=
  chainIds_congr fun i hi => by rw [node?_create, if_neg (by omega)]

theorem setting_create_old (g : Field) {i : Nat} (hi : i < t.nodes.size) :
    (t.create p name seg body).1.setting g i = t.setting g i := by
  rw [setting, setting, node?_create, if_neg (by omega)]

/-- A new node leaves every option to its parent. -/
theorem setting_create_new (g : Field) :
    (t.create p name seg body).1.setting g t.nodes.size = .inherit := by
  rw [setting, node?_create, if_pos rfl]
  exact Field.get_inheritAll g

/-- Along an older node's chain, the grown tree decides every option as before. -/
theorem findSome?_setting_create_old (g : Field) {z : Nat} (hz : z < t.nodes.size) :
    ((t.chainIds z).findSome? fun i => ((t.create p name seg body).1.setting g i).decided) =
      (t.chainIds z).findSome? fun i => (t.setting g i).decided := by
  refine findSome?_congr_of_mem fun i hi => ?_
  -- every node of the chain is at most `z`, so older than the new one
  have := (le_of_mem_chainIds hi).1
  rw [setting_create_old p name seg body g (by omega)]

/-- An older node reads every option as before. -/
theorem lookup_create_old (g : Field) {z : Nat} (hz : z < t.nodes.size) :
    (t.create p name seg body).1.lookup z g.get = t.lookup z g.get := by
  rw [lookup_eq_findSome, lookup_eq_findSome, chainIds_create_old p name seg body hz,
    findSome?_setting_create_old p name seg body g hz]

/-- A new node reads every option as its parent does. -/
theorem lookup_create_new (g : Field) :
    (t.create p name seg body).1.lookup t.nodes.size g.get = t.lookup p g.get := by
  by_cases hp : p < t.nodes.size
  · -- the new node leaves the option to its parent, whose chain is as it was
    have hnew : (t.create p name seg body).1.node? t.nodes.size =
        some ⟨some p, name, seg, NodeOptions.inheritAll, [], [], body⟩ := by
      rw [node?_create, if_pos rfl]
    rw [lookup_eq_findSome, chainIds_of_parent hnew rfl hp, List.findSome?_cons,
      setting_create_new, chainIds_create_old p name seg body hp, lookup_eq_findSome]
    rw [findSome?_setting_create_old p name seg body g hp]
    rfl
  · -- under a missing parent the new node is alone on its chain, and neither reads anything
    have hnone : t.node? p = none := by
      rw [node?]; exact Array.getElem?_eq_none (by omega)
    have hnew : (t.create p name seg body).1.chainIds t.nodes.size = [t.nodes.size] := by
      rw [chainIds, node?_create, if_pos rfl]
      simp [hp]
    rw [lookup_eq_findSome, hnew, List.findSome?_cons, setting_create_new, lookup_eq_findSome,
      chainIds, hnone]
    rfl

end Create

end Tree

/-! ## The builder's setters -/

namespace Script

/-- The option a setter statement writes on its handle's node, with the setting it writes. -/
def Statement.optionWrite? : Statement → Option ((f : Field) × Setting f.Value)
  | .setAuth a => some ⟨.auth, .set a⟩
  | .clearAuth => some ⟨.auth, .clear⟩
  | .setController d => some ⟨.controller, .set d⟩
  | .clearController => some ⟨.controller, .clear⟩
  | .setBind v => some ⟨.bind, .set v⟩
  | .setValidate s σ => some ⟨.schema s, .set σ⟩
  | .clearValidate s => some ⟨.schema s, .clear⟩
  | _ => none

/-- A setter, on any handle, writes its option of the handle's node with a setting that
decides. -/
theorem run_optionWrite (h : Handle) {st : Statement} {w : (f : Field) × Setting f.Value}
    (hw : st.optionWrite? = some w) (s : Session) :
    (run h st).run.run s = (.ok (), s.changed h fun t => t.modifyOptions h.node (w.1.put · w.2)) ∧
      w.2 ≠ .inherit := by
  -- every setter is a scope statement, offered on every handle
  have ho : ∀ verb ∈ scopeVerbs, offers h.kind verb = true := fun verb hv => by
    simp [offers, hv]
  cases st <;> simp only [Statement.optionWrite?, reduceCtorEq, Option.some.injEq] at hw <;> subst hw <;>
    exact ⟨by rw [run, if_pos (ho _ (by simp [Statement.verb, scopeVerbs]))]; rfl, by simp⟩

end Script

/-! ## Inherited options, read and written -/

/-- Reads of inherited options follow the parent chain, and writes are local. A read of option
`f` at `y` gives the setting of the nearest node of `y`'s chain (`y` first) that decides `f`:
set reads as its value, cleared reads as absent, and a chain where no node decides reads as
absent. After a write of a decided setting of `f` at `x`: a node whose chain does not pass `x`
reads every option as before; a node whose chain passes `x` reads `f` as before when a node
between it and `x` (itself included) decides `f`, and otherwise reads the written setting;
every other option reads as before everywhere. Reads are live: a node created under `p` reads
what `p` reads, and older nodes read as before. The builder's setters are such writes. -/
theorem inherited_options_follow_chain :
    (∀ (t : Tree) (f : Field) (y : Nat) (a : f.Value),
      t.lookup y f.get = some a ↔ ∃ d, t.DecidesFirst f y d (.set a)) ∧
    (∀ (t : Tree) (f : Field) (y : Nat),
      t.lookup y f.get = none ↔
        (∀ w ∈ t.chainIds y, t.setting f w = .inherit) ∨ ∃ d, t.DecidesFirst f y d .clear) ∧
    (∀ (t : Tree) (f : Field) (x : Nat) (v : Setting f.Value), v ≠ .inherit →
      let t' := t.modifyOptions x (f.put · v)
      (∀ z, x ∉ t.chainIds z → ∀ g : Field, t'.lookup z g.get = t.lookup z g.get) ∧
      (∀ z pre post, t.chainIds z = pre ++ x :: post →
        ((∃ w ∈ pre, t.setting f w ≠ .inherit) → t'.lookup z f.get = t.lookup z f.get) ∧
        ((∀ w ∈ pre, t.setting f w = .inherit) → t'.lookup z f.get = v.value)) ∧
      (∀ z (g : Field), g ≠ f → t'.lookup z g.get = t.lookup z g.get)) ∧
    (∀ (t : Tree) (p : Nat) (name : String) (seg : Segment) (body : NodeBody) (g : Field),
      let t' := (t.create p name seg body).1
      t'.lookup t.nodes.size g.get = t.lookup p g.get ∧
        ∀ z < t.nodes.size, t'.lookup z g.get = t.lookup z g.get) ∧
    (∀ (h : Script.Handle) (st : Script.Statement) (w : (f : Field) × Setting f.Value),
      st.optionWrite? = some w → ∀ s : Script.Session,
        (Script.run h st).run.run s =
          (.ok (), s.changed h fun t => t.modifyOptions h.node (w.1.put · w.2)) ∧ w.2 ≠ .inherit) := by
  refine ⟨Tree.lookup_eq_some_iff_decidesFirst, Tree.lookup_eq_none_iff_decidesFirst,
    fun t f x v hv => ⟨fun z hz g => Tree.lookup_write_off_chain _ hz g,
      fun z pre post hz => ⟨Tree.lookup_write_shielded hz, Tree.lookup_write_exposed hv hz⟩,
      fun z g hg => Tree.lookup_write_other hg z⟩,
    fun t p name seg body g => ⟨Tree.lookup_create_new p name seg body g,
      fun z hz => Tree.lookup_create_old p name seg body g hz⟩,
    fun h st w hw s => Script.run_optionWrite h hw s⟩

/-- The tree of a users collection with two groups under it, beside a posts collection. The root
asks for a session, `admin` for its own strategy and `public` clears it, so users reads the
root's session. Then users asks for a token: users reads it, `admin` and `public` stay shielded by
their own settings, and posts, off the chain, keeps the session. -/
theorem users_auth_override_reads :
    let t₀ := (((Tree.new "ROUTER").create 0 "users" (.named "users") (.resource .collection [] none)).1.create 1
      "admin" .root (.resource .group [] none)).1
    let t₁ := ((t₀.create 1 "public" .root (.resource .group [] none)).1.create 0 "posts"
      (.named "posts") (.resource .collection [] none)).1
    let t := ((t₁.modifyOptions 0 (Field.auth.put · (.set (Auth.strategy "session")))).modifyOptions 2
      (Field.auth.put · (.set (Auth.strategy "admin")))).modifyOptions 3 (Field.auth.put · .clear)
    let t' := t.modifyOptions 1 (Field.auth.put · (.set (Auth.strategy "token")))
    t.lookup 1 Field.auth.get = some (Auth.strategy "session") ∧
      t'.lookup 1 Field.auth.get = some (Auth.strategy "token") ∧
      t'.lookup 2 Field.auth.get = some (Auth.strategy "admin") ∧
      t'.lookup 3 Field.auth.get = none ∧
      t'.lookup 4 Field.auth.get = some (Auth.strategy "session") := by
  intro t₀ t₁ t t'
  obtain ⟨hset, hclear, hwrite, -, -⟩ := inherited_options_follow_chain
  have hv : (Setting.set (Auth.strategy "token") : Setting Field.auth.Value) ≠ .inherit := by simp
  obtain ⟨hoff, hchain, -⟩ := hwrite t .auth 1 _ hv
  -- what the three nodes below the root read before the write
  have hadmin : t.lookup 2 Field.auth.get = some (Auth.strategy "admin") :=
    (hset t .auth 2 _).2 ⟨2, [], [1, 0], by decide +kernel, by simp, rfl⟩
  have hpublic : t.lookup 3 Field.auth.get = none :=
    (hclear t .auth 3).2 (.inr ⟨3, [], [1, 0], by decide +kernel, by simp, rfl⟩)
  have hposts : t.lookup 4 Field.auth.get = some (Auth.strategy "session") :=
    (hset t .auth 4 _).2 ⟨0, [4], [], by decide +kernel, by simp; rfl, rfl⟩
  refine ⟨(hset t .auth 1 _).2 ⟨0, [1], [], by decide +kernel, by simp; rfl, rfl⟩,
    (hchain 1 [] [0] (by decide +kernel)).2 (by simp), ?_, ?_, ?_⟩
  · rw [(hchain 2 [2] [0] (by decide +kernel)).1 ⟨2, by simp, fun h => by cases h⟩, hadmin]
  · rw [(hchain 3 [3] [0] (by decide +kernel)).1 ⟨3, by simp, fun h => by cases h⟩, hpublic]
  · rw [hoff 4 (by decide +kernel) .auth, hposts]

end ResourceRoutes
