import ResourceRoutes.Http.Serve
import ResourceRoutes.Proofs.Http.Calls

/-!
# Pre-steps before the handler

An endpoint runs its pre-steps in list order before its handler (`Endpoint.call`); a route's
steps come composed ancestors first (`Tree.pre`). Each step refuses the request with a status
and a text, or gives a value, which is stored for the handler under the step's key when the
step has one.

* `go_of_refused`: the first step that refuses answers, whatever steps follow it and whatever the
  handler is.
* `go_of_accepted`: when no step refuses, the handler answers once, with the route's identity
  and the values the steps stored, inserted in step order (`storeAll`).
* `get?_storeAll`: a key reads the value of the last step that stored one under it.

`pre_steps_then_handler` puts these together for the endpoint of a route.
-/

namespace ResourceRoutes

namespace Json.Fields

/-- A member under another key does not change what a key reads. -/
theorem get?_insert_of_ne {k k' : String} (h : k' ≠ k) (v : Json) (fs : Fields) :
    get? (insert k' v fs) k = get? fs k := by
  have hne : (k' == k) = false := by simpa using h
  induction fs with
  | nil => simp [insert, get?, hne]
  | cons m rest ih =>
    obtain ⟨k'', v''⟩ := m
    -- the new member goes before the first one, replaces it, or goes past it
    unfold insert
    split
    · simp [get?, hne]
    · split
      · rename_i heq
        subst heq
        simp [get?, hne]
      · simp only [get?, List.find?_cons] at ih ⊢
        split <;> simp_all

/-- Members inserted one after the other, each replacing an earlier one under its key. -/
def storeAll (pairs : List (String × Json)) (fs : Fields) : Fields :=
  pairs.foldl (fun acc kv => insert kv.1 kv.2 acc) fs

/-- After inserting members in order, a key reads the last member inserted under it, or what it
read before when none was. -/
theorem get?_storeAll (pairs : List (String × Json)) (fs : Fields) (k : String) :
    get? (storeAll pairs fs) k =
      match pairs.reverse.find? (·.1 == k) with
      | some kv => some kv.2
      | none => get? fs k := by
  induction pairs generalizing fs with
  | nil => rfl
  | cons kv rest ih =>
    obtain ⟨k', v⟩ := kv
    rw [storeAll, List.foldl_cons, ← storeAll, ih, List.reverse_cons, List.find?_append]
    -- a later member under the key wins; otherwise the inserted one is read, or the earlier ones
    split
    · next kv hf => rw [hf, Option.some_or]
    · next hf =>
      rw [hf, Option.none_or]
      by_cases hk : k' = k
      · subst hk
        simp [get?_insert_self]
      · have hne : (k' == k) = false := by simpa using hk
        simp [get?_insert_of_ne hk, hne]

end Json.Fields

/-- What a step stores for the handler when it accepts the request: its key and its value, when
it has a key and gave a value. -/
def PreStep.stored? (has : String → Bool) (p : PreStep) : Option (String × Json) :=
  match p.assign, p.run has with
  | some k, .ok (some v) => some (k, v)
  | _, _ => none

namespace Http

/-- The values the steps store for the handler: the left fold that inserts, in step order, the
value of every step with a key that gave one. -/
def preResults (has : String → Bool) (steps : List PreStep) : Json.Fields :=
  Json.Fields.storeAll (steps.filterMap (PreStep.stored? has)) []

namespace Endpoint

/-- The handler's answer: the handler's identity, the route's, the stored values and the
request's path. -/
def handlerAnswer (e : Endpoint) (r : Request) (stored : Json.Fields) : Response :=
  ⟨200, .json (Json.object [("handler", e.handler.ident), ("route", .str e.id),
    ("pre", .obj stored), ("path", .str r.path)])⟩

variable (e : Endpoint) (r : Request) (has : String → Bool)

theorem call_eq_go : e.call r = call.go e r (fun h => (r.header? h).isSome) e.pre [] := rfl

/-- A step that refuses answers with its status and text. -/
theorem go_cons_refused {p : PreStep} {status : Nat} {text : String}
    (hp : p.run has = .error (status, text)) (rest : List PreStep) (stored : Json.Fields) :
    call.go e r has (p :: rest) stored = Response.text status text := by
  rw [call.go, hp]

/-- A step that accepts stores its value under its key, when it has both, and the run goes on. -/
theorem go_cons_accepted {p : PreStep} {v : Option Json} (hp : p.run has = .ok v)
    (rest : List PreStep) (stored : Json.Fields) :
    call.go e r has (p :: rest) stored =
      call.go e r has rest (Json.Fields.storeAll ((p.stored? has).toList) stored) := by
  rw [call.go, hp]
  simp only [PreStep.stored?, hp]
  rcases p.assign with _ | k <;> rcases v with _ | x <;> rfl

/-- The first step that refuses answers: the steps before it accepted, and neither the steps
after it nor the handler change the answer. -/
theorem go_of_refused {pre post : List PreStep} {p : PreStep} {status : Nat} {text : String}
    (hpre : ∀ q ∈ pre, ∃ v, q.run has = .ok v) (hp : p.run has = .error (status, text)) :
    ∀ stored, call.go e r has (pre ++ p :: post) stored = Response.text status text := by
  induction pre with
  | nil => exact go_cons_refused e r has hp post
  | cons q pre ih =>
    intro stored
    obtain ⟨v, hq⟩ := hpre q List.mem_cons_self
    rw [List.cons_append, go_cons_accepted e r has hq]
    exact ih (fun q' h => hpre q' (List.mem_cons_of_mem q h)) _

/-- When every step accepts, the handler answers once, with the values of the steps stored in
order after those stored before. -/
theorem go_of_accepted {steps : List PreStep} (hall : ∀ q ∈ steps, ∃ v, q.run has = .ok v) :
    ∀ stored, call.go e r has steps stored =
      e.handlerAnswer r (Json.Fields.storeAll (steps.filterMap (PreStep.stored? has)) stored) := by
  induction steps with
  | nil => intro stored; rfl
  | cons q steps ih =>
    intro stored
    obtain ⟨v, hq⟩ := hall q List.mem_cons_self
    rw [go_cons_accepted e r has hq, ih (fun q' h => hall q' (List.mem_cons_of_mem q h)),
      List.filterMap_cons]
    -- the step's own value comes first, then those of the steps after it
    rcases q.stored? has with _ | kv <;> rfl

end Endpoint

/-- The endpoint of a route runs the route's pre-steps in list order. The first step that
refuses answers with its status and text, whatever the steps after it and the handler are. When
no step refuses, the handler answers once, with the route's name as its identity and the values
the steps stored: the left fold that inserts, in step order, the value of every step with a key
that gave one, so a key reads the value of the last such step. -/
theorem pre_steps_then_handler (reg : HttpRegistration) (handler : Handler) (req : Request) :
    let e := ServerHost.endpointOf reg handler
    let has := fun h => (req.header? h).isSome
    (∀ pre p post status text, reg.pre = pre ++ p :: post → (∀ q ∈ pre, ∃ v, q.run has = .ok v) →
      p.run has = .error (status, text) → e.call req = Response.text status text) ∧
    ((∀ p ∈ reg.pre, ∃ v, p.run has = .ok v) →
      e.call req = ⟨200, .json (Json.object [("handler", handler.ident), ("route", .str reg.id),
        ("pre", .obj (preResults has reg.pre)), ("path", .str req.path)])⟩) ∧
    (preResults has reg.pre =
      (reg.pre.filterMap (PreStep.stored? has)).foldl (fun m kv => Json.Fields.insert kv.1 kv.2 m) []) ∧
    ∀ k, Json.Fields.get? (preResults has reg.pre) k =
      ((reg.pre.filterMap (PreStep.stored? has)).reverse.find? (·.1 == k)).map (·.2) := by
  intro e has
  refine ⟨fun pre p post status text hsteps hpre hp => ?_, fun hall => ?_, rfl, fun k => ?_⟩
  · show Endpoint.call.go e req has reg.pre [] = _
    rw [hsteps]
    exact Endpoint.go_of_refused e req has hpre hp []
  · exact Endpoint.go_of_accepted e req has hall []
  · rw [preResults, Json.Fields.get?_storeAll]
    split
    · next kv hf => rw [hf]; rfl
    · next hf => rw [hf]; rfl

/-- A route whose steps store `1` and then `2` under one key and then refuse with `403` answers
with the refusal. Without the refusing step its handler answers, and the key reads the later
value. -/
theorem user_steps_refused_then_stored :
    let s₁ : PreStep := ⟨some "user", some (.num (.int 1)), none, none⟩
    let s₂ : PreStep := ⟨some "user", some (.num (.int 2)), none, none⟩
    let deny : PreStep := ⟨none, none, some 403, none⟩
    let reg : HttpRegistration := ⟨"users.index", "/users", .get, some (.direct .null), none, [],
      [s₁, s₂, deny], none, RouteMeta.empty, ⟨none, none, none, none⟩, none⟩
    let req : Request := ⟨"GET", "/users", [], ""⟩
    let has := fun h => (req.header? h).isSome
    (ServerHost.endpointOf reg (.direct .null)).call req = Response.text 403 "rejected" ∧
      (ServerHost.endpointOf { reg with pre := [s₁, s₂] } (.direct .null)).call req =
        ⟨200, .json (Json.object [("handler", Handler.ident (.direct .null)), ("route", .str "users.index"),
          ("pre", .obj (preResults has [s₁, s₂])), ("path", .str "/users")])⟩ ∧
      Json.Fields.get? (preResults has [s₁, s₂]) "user" = some (.num (.int 2)) := by
  intro s₁ s₂ deny reg req has
  have hacc : ∀ q ∈ [s₁, s₂], ∃ v, q.run has = .ok v := by
    intro q hq
    simp only [List.mem_cons, List.not_mem_nil, or_false] at hq
    rcases hq with rfl | rfl <;> exact ⟨_, rfl⟩
  obtain ⟨hrefused, -, -, -⟩ := pre_steps_then_handler reg (.direct .null) req
  obtain ⟨-, hanswer, -, hread⟩ := pre_steps_then_handler { reg with pre := [s₁, s₂] } (.direct .null) req
  refine ⟨hrefused [s₁, s₂] deny [] 403 "rejected" rfl hacc rfl, hanswer hacc, ?_⟩
  rw [hread "user"]
  rfl

end Http

end ResourceRoutes
