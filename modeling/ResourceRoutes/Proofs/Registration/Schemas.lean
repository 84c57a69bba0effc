import ResourceRoutes.Registration.Basic

/-!
# Which schema validates a slot

A route's schema for a validation slot is chosen by three rules, in order:

* the payload of a `GET` or `OPTIONS` route is never validated (a subscription's is);
* otherwise the nearest node up the route's chain that decides the slot wins when it sets a
  schema; a node that clears the slot, like a chain where no node decides it, leaves the choice
  to the controller;
* the controller's record is the instance's own when the instance has one, else its class's,
  whether or not that record has a validator for the slot; the validator gives the schema of the
  route's named action. A direct action, or a route without a controller, has none.

`Tree.lookup_eq_some_iff` and `Tree.lookup_eq_none_iff` read an inherited option off the chain
without the fold; `schemaFor_eq_some_iff` states the three rules and `slot_schema_rules` adds
that the four slots are chosen independently.
-/

namespace ResourceRoutes

namespace Setting

variable {α : Type}

@[simp] theorem decided_eq_none_iff (s : Setting α) : s.decided = none ↔ s = .inherit := by
  cases s <;> simp [decided]

@[simp] theorem decided_eq_some_some_iff (s : Setting α) (v : α) :
    s.decided = some (some v) ↔ s = .set v := by
  cases s <;> simp [decided]

@[simp] theorem decided_eq_some_none_iff (s : Setting α) : s.decided = some none ↔ s = .clear := by
  cases s <;> simp [decided]

/-- Two settings that decide alike are the same. -/
theorem eq_of_decided_eq_some {s s' : Setting α} {d : Option α} (h : s.decided = some d)
    (h' : s'.decided = some d) : s = s' := by
  cases s <;> cases s' <;> cases d <;> simp_all [decided]

end Setting

section Lookup

variable {α : Type}

/-- The nearest node of a chain that decides an option decides it as `v`: every node before it
leaves the option to its parent. -/
def NearestDecision (chain : List Node) (field : NodeOptions → Setting α) (v : Setting α) : Prop :=
  ∃ pre n post, chain = pre ++ n :: post ∧ (∀ m ∈ pre, field m.options = .inherit) ∧
    field n.options = v

/-- The decision the fold of a lookup finds is the nearest one. -/
theorem findSome?_decided_eq_some_iff (chain : List Node) (field : NodeOptions → Setting α)
    (d : Option α) (v : Setting α) (hv : v.decided = some d) :
    chain.findSome? (fun n => (field n.options).decided) = some d ↔ NearestDecision chain field v := by
  rw [List.findSome?_eq_some_iff]
  constructor
  · rintro ⟨pre, n, post, rfl, hn, hpre⟩
    exact ⟨pre, n, post, rfl, fun m hm => by simpa using hpre m hm,
      Setting.eq_of_decided_eq_some hn hv⟩
  · rintro ⟨pre, n, post, rfl, hpre, hn⟩
    exact ⟨pre, n, post, rfl, by rw [hn, hv], fun m hm => by simpa using hpre m hm⟩

namespace Tree

/-- An inherited option reads as `v` exactly when the nearest node deciding it sets `v`. -/
theorem lookup_eq_some_iff (t : Tree) (id : Nat) (field : NodeOptions → Setting α) (v : α) :
    t.lookup id field = some v ↔ NearestDecision (t.chain id) field (.set v) := by
  rw [lookup, Option.join_eq_some_iff]
  exact findSome?_decided_eq_some_iff _ field (some v) (.set v) rfl

/-- An inherited option reads as absent exactly when no node of the chain decides it, or the
nearest one clears it. -/
theorem lookup_eq_none_iff (t : Tree) (id : Nat) (field : NodeOptions → Setting α) :
    t.lookup id field = none ↔
      (∀ n ∈ t.chain id, field n.options = .inherit) ∨ NearestDecision (t.chain id) field .clear := by
  rw [lookup, Option.join_eq_none_iff, List.findSome?_eq_none_iff,
    findSome?_decided_eq_some_iff _ field none .clear rfl]
  simp only [Setting.decided_eq_none_iff]

end Tree

end Lookup

theorem Method.skipsPayload_iff (m : Method) :
    m.skipsPayload = true ↔ m = .http .get ∨ m = .http .options := by
  rcases m with m | _
  · cases m <;> simp [skipsPayload]
  · simp [skipsPayload]

/-- The record consulted is the instance's own when it has one, else its class's: the fallback
is per record, so an instance record without a validator for a slot hides the class's. -/
theorem Resolved.record_eq_some_iff (k : Resolved) (R : ValidatorRecord) :
    k.record = some R ↔
      k.inst.record = some R ∨ (k.inst.record = none ∧ ∃ cls, k.builtBy = some cls ∧ cls.record = some R) := by
  unfold record
  cases k.inst.record with
  | some x => simp
  | none => simp [Option.bind_eq_some_iff]

/-- The schema a controller offers for a named action and a slot. -/
theorem controller_schema_eq_some_iff (c : Option Resolved) (s : Slot) (a : String) (σ : Json) :
    ((c.bind (·.record)).bind fun r => (r.slot s).bind (·.schemaFor a)) = some σ ↔
      ∃ k R v, c = some k ∧ k.record = some R ∧ R.slot s = some v ∧ v.schemaFor a = some σ := by
  simp only [Option.bind_eq_some_iff]
  constructor
  · rintro ⟨R, ⟨k, rfl, hR⟩, v, hv, hσ⟩
    exact ⟨k, R, v, rfl, hR, hv, hσ⟩
  · rintro ⟨k, R, v, rfl, hR, hv, hσ⟩
    exact ⟨R, ⟨k, rfl, hR⟩, v, hv, hσ⟩

section Rules

variable (t : Tree) (ref : RouteRef) (c : Option Resolved) (s : Slot)

/-- The schema of a slot, read off the route's own lookup and the controller's record: none
for a skipped payload; else the route's inherited schema; else, when it has none, what the
controller's record gives the named action. -/
theorem schemaFor_eq_some_iff (σ : Json) :
    schemaFor t ref c s = some σ ↔
      ¬ (s = .payload ∧ ref.spec.method.skipsPayload = true) ∧
      (t.schema ref.entry.node s = some σ ∨
        (t.schema ref.entry.node s = none ∧
          ∃ a k R v, ref.spec.action = .named a ∧ c = some k ∧ k.record = some R ∧
            R.slot s = some v ∧ v.schemaFor a = some σ)) := by
  have hskip : (s == .payload && ref.spec.method.skipsPayload) = true ↔
      (s = .payload ∧ ref.spec.method.skipsPayload = true) := by
    cases s <;> cases ref.spec.method.skipsPayload <;> decide
  unfold schemaFor
  by_cases h : s = .payload ∧ ref.spec.method.skipsPayload = true
  · rw [if_pos (hskip.2 h)]
    simp [h]
  · rw [if_neg (mt hskip.1 h)]
    simp only [h, not_false_eq_true, true_and]
    cases hs : t.schema ref.entry.node s with
    | some σ' => simp
    | none =>
      cases ha : ref.spec.action with
      | direct l => simp
      | named a =>
        simp only [controller_schema_eq_some_iff]
        constructor
        · rintro ⟨k, R, v, rfl, hR, hv, hσ⟩
          exact .inr ⟨trivial, a, k, R, v, rfl, rfl, hR, hv, hσ⟩
        · rintro (h | ⟨-, a', k, R, v, ha', rfl, hR, hv, hσ⟩)
          · cases h
          · cases ha'
            exact ⟨k, R, v, rfl, hR, hv, hσ⟩

/-- The four slots of a route's validation are chosen independently, each by three rules: no
payload schema for `GET` and `OPTIONS`; else a schema set by the nearest node of the route's
chain that decides the slot; else, when that node clears the slot or no node decides it, the
schema that the consulted controller record (the instance's when it has one, else the class's)
gives the named action. -/
theorem slot_schema_rules :
    (validationFor t ref c).slot s = schemaFor t ref c s ∧
      ∀ σ, schemaFor t ref c s = some σ ↔
        ¬ (s = .payload ∧ (ref.spec.method = .http .get ∨ ref.spec.method = .http .options)) ∧
        (NearestDecision (t.chain ref.entry.node) (·.schema s) (.set σ) ∨
          (((∀ n ∈ t.chain ref.entry.node, n.options.schema s = .inherit) ∨
              NearestDecision (t.chain ref.entry.node) (·.schema s) .clear) ∧
            ∃ a k R v, ref.spec.action = .named a ∧ c = some k ∧
              (k.inst.record = some R ∨
                (k.inst.record = none ∧ ∃ cls, k.builtBy = some cls ∧ cls.record = some R)) ∧
              R.slot s = some v ∧ v.schemaFor a = some σ)) := by
  refine ⟨by cases s <;> rfl, fun σ => ?_⟩
  rw [schemaFor_eq_some_iff, ← Method.skipsPayload_iff, Tree.schema, Tree.lookup_eq_some_iff,
    Tree.lookup_eq_none_iff]
  simp only [Resolved.record_eq_some_iff]

end Rules

end ResourceRoutes
