import ResourceRoutes.Registration.Basic

/-!
# The registration pass

`registerRoutes` walks the built routes in table order. For each it resolves the controller,
builds what the host is handed (`Delivery.of`: an HTTP registration or a subscription
registration), hands it over and counts the answer. It stops at the first route whose
controller cannot be resolved, or that the host refuses.

* `registerRoutes_cons`: one step of the pass, read through the route's delivery;
* `Accepts`: the host takes a list of deliveries in order, with its answers;
* `registerRoutes_cases`: a pass either hands every delivery to a host that accepts them all,
  or stops at one route, after the host accepted the deliveries of the routes before it;
* `register_pass`: the whole of `register`: a failed load, a router that is not built, and the
  pass with its counts.
-/

namespace ResourceRoutes

/-- What the host is handed for one route. -/
inductive Delivery where
  | http (reg : HttpRegistration)
  | subscription (reg : SubscriptionRegistration)

namespace Delivery

/-- What the host is handed for a route, once its controller is resolved. -/
def of (tree : Tree) (ref : RouteRef) (c : Option Resolved) : Delivery :=
  match ref.spec.method with
  | .http m => .http (httpRegistration tree ref m c)
  | .subscription => .subscription (subscriptionRegistration ref c)

/-- Whether the delivery is an HTTP route. -/
def isHttp : Delivery → Bool
  | .http _ => true
  | .subscription _ => false

/-- Hand a delivery to the host: an accepted HTTP route answers `none`, a subscription the
host's answer (`some true` when accepted, `some false` when declined). -/
def send {H : Type} [Host H] (h : H) : Delivery → H × Except RouterError (Option Bool)
  | .http reg => ((Host.route h reg).1, (Host.route h reg).2.map fun _ => none)
  | .subscription reg => ((Host.subscription h reg).1, (Host.subscription h reg).2.map some)

theorem isHttp_of (tree : Tree) (ref : RouteRef) (c : Option Resolved) :
    (of tree ref c).isHttp = decide (ref.spec.method ≠ .subscription) := by
  unfold of
  cases ref.spec.method <;> rfl

/-- The host answers `none` exactly for an HTTP route. -/
theorem isNone_of_send {H : Type} [Host H] {h h' : H} {d : Delivery} {a : Option Bool}
    (hs : d.send h = (h', .ok a)) : a.isNone = d.isHttp := by
  cases d with
  | http reg =>
    simp only [send, Prod.mk.injEq] at hs
    cases hr : (Host.route h reg).2 <;> rw [hr] at hs <;> cases hs.2
    rfl
  | subscription reg =>
    simp only [send, Prod.mk.injEq] at hs
    cases hr : (Host.subscription h reg).2 <;> rw [hr] at hs <;> cases hs.2
    rfl

end Delivery

/-- A route's delivery: its controller resolved against the map, or why it cannot be. -/
def deliveryOf (tree : Tree) (map : ControllerMap) (ref : RouteRef) : Except RouterError Delivery :=
  (map.resolveDesignation (tree.controller ref.entry.node)).map (Delivery.of tree ref)

/-- The host, from `h`, accepts the deliveries in order and ends as `h'`, with these answers. -/
inductive Accepts {H : Type} [Host H] : H → List Delivery → H → List (Option Bool) → Prop
  | nil (h : H) : Accepts h [] h []
  | cons {h h₁ h' : H} {d : Delivery} {ds : List Delivery} {a : Option Bool}
      {as : List (Option Bool)} :
      d.send h = (h₁, .ok a) → Accepts h₁ ds h' as → Accepts h (d :: ds) h' (a :: as)

/-- A summary with one more answer counted: an HTTP route, an accepted or a declined
subscription. -/
def Summary.add (s : Summary) : Option Bool → Summary
  | none => { s with routes := s.routes + 1 }
  | some true => { s with subscriptions := s.subscriptions + 1 }
  | some false => { s with skipped := s.skipped + 1 }

/-- The counts after a list of answers. -/
theorem Summary.foldl_add (as : List (Option Bool)) (s : Summary) :
    as.foldl Summary.add s =
      ⟨s.routes + as.count none, s.subscriptions + as.count (some true),
        s.skipped + as.count (some false)⟩ := by
  induction as generalizing s with
  | nil => rfl
  | cons a as ih =>
    rw [List.foldl_cons, ih]
    rcases a with _ | _ | _ <;> simp [Summary.add] <;> omega

/-- Resolution fails only for a designation by name, with a missing controller of that name or
a class that refused to build. -/
theorem ControllerMap.resolveDesignation_error {map : ControllerMap} {d : Option Designation}
    {e : RouterError} (h : map.resolveDesignation d = .error e) :
    ∃ n args, d = some (.named n args) ∧
      (e = .missingController n ∨ ∃ detail, e = .controllerConstruction n detail) := by
  rcases d with _ | c | ⟨n, args⟩
  · cases h
  · cases h
  · refine ⟨n, args, rfl, ?_⟩
    simp only [ControllerMap.resolveDesignation, ControllerMap.resolve] at h
    rcases hg : map.get? n with _ | c | k <;> simp only [hg, Except.map] at h
    · cases h; exact .inl rfl
    · cases h
    · rcases hk : k.construct args with detail | c <;> simp only [hk] at h <;> cases h
      exact .inr ⟨detail, rfl⟩

section Pass

variable {H : Type} [Host H] (tree : Tree) (map : ControllerMap)

/-- One step of the pass: resolve the route, hand its delivery to the host, count the answer
and go on; a failure of either ends the pass with the host as the failing call left it. -/
theorem registerRoutes_cons (ref : RouteRef) (rest : List RouteRef) (h : H) (s : Summary) :
    registerRoutes tree map (ref :: rest) h s =
      match deliveryOf tree map ref with
      | .error e => (h, .error e)
      | .ok d =>
        match d.send h with
        | (h', .error e) => (h', .error e)
        | (h', .ok a) => registerRoutes tree map rest h' (s.add a) := by
  conv => lhs; rw [registerRoutes]
  unfold deliveryOf
  cases map.resolveDesignation (tree.controller ref.entry.node) with
  | error e => rfl
  | ok c =>
    simp only [Except.map, Delivery.of]
    cases ref.spec.method with
    | http m =>
      simp only [Delivery.send]
      rcases Host.route h (httpRegistration tree ref m c) with ⟨h', _ | u⟩
      · rfl
      · cases u; rfl
    | subscription =>
      simp only [Delivery.send]
      rcases Host.subscription h (subscriptionRegistration ref c) with ⟨h', _ | _ | _⟩ <;> rfl

theorem mapM_deliveryOf_cons {ref : RouteRef} {rest : List RouteRef} {ds : List Delivery} :
    (ref :: rest).mapM (deliveryOf tree map) = .ok ds ↔
      ∃ d ds', deliveryOf tree map ref = .ok d ∧ rest.mapM (deliveryOf tree map) = .ok ds' ∧
        ds = d :: ds' := by
  rw [List.mapM_cons]
  cases deliveryOf tree map ref <;> cases rest.mapM (deliveryOf tree map) <;>
    simp [bind, Except.bind, pure, Except.pure, eq_comm]

/-- A route's delivery is an HTTP registration exactly when the route is not a
subscription. -/
theorem deliveryOf_isHttp {ref : RouteRef} {d : Delivery} (hd : deliveryOf tree map ref = .ok d) :
    d.isHttp = decide (ref.spec.method ≠ .subscription) := by
  unfold deliveryOf at hd
  cases hr : map.resolveDesignation (tree.controller ref.entry.node) <;> rw [hr] at hd <;> cases hd
  exact Delivery.isHttp_of tree ref _

/-- A pass either hands every route's delivery to a host that accepts them all, and counts the
answers; or it stops at one route, after the host accepted the deliveries of the routes before
it, because the route's controller cannot be resolved (the host untouched since) or because the
host refused its delivery. -/
theorem registerRoutes_cases (refs : List RouteRef) (h : H) (s : Summary) :
    (∃ ds as h', refs.mapM (deliveryOf tree map) = .ok ds ∧ Accepts h ds h' as ∧
        registerRoutes tree map refs h s = (h', .ok (as.foldl Summary.add s))) ∨
      (∃ pre ref post ds as h₁ e h', refs = pre ++ ref :: post ∧
        pre.mapM (deliveryOf tree map) = .ok ds ∧ Accepts h ds h₁ as ∧
        registerRoutes tree map refs h s = (h', .error e) ∧
        ((map.resolveDesignation (tree.controller ref.entry.node) = .error e ∧ h' = h₁) ∨
          ∃ c, map.resolveDesignation (tree.controller ref.entry.node) = .ok c ∧
            (Delivery.of tree ref c).send h₁ = (h', .error e))) := by
  induction refs generalizing h s with
  | nil => exact .inl ⟨[], [], h, rfl, .nil h, rfl⟩
  | cons ref rest ih =>
    rw [registerRoutes_cons]
    cases hr : map.resolveDesignation (tree.controller ref.entry.node) with
    | error e =>
      -- the route's controller cannot be resolved: nothing was handed over
      have hd : deliveryOf tree map ref = .error e := by rw [deliveryOf, hr]; rfl
      rw [hd]
      exact .inr ⟨[], ref, rest, [], [], h, e, h, rfl, rfl, .nil h, rfl, .inl ⟨hr, rfl⟩⟩
    | ok c =>
      have hd : deliveryOf tree map ref = .ok (Delivery.of tree ref c) := by rw [deliveryOf, hr]; rfl
      rw [hd]; dsimp only
      rcases hs : (Delivery.of tree ref c).send h with ⟨h₁, e | a⟩
      · -- the host refused the route
        exact .inr ⟨[], ref, rest, [], [], h, e, h₁, rfl, rfl, .nil h, rfl, .inr ⟨c, hr, hs⟩⟩
      · -- the host accepted it: the rest of the pass goes on from the host it left
        dsimp only
        rcases ih h₁ (s.add a) with ⟨ds, as, h', hm, hacc, heq⟩ |
            ⟨pre, ref', post, ds, as, h₂, e, h', rfl, hm, hacc, heq, hfail⟩
        · refine .inl ⟨Delivery.of tree ref c :: ds, a :: as, h', ?_, .cons hs hacc, heq⟩
          exact (mapM_deliveryOf_cons tree map).2 ⟨_, ds, hd, hm, rfl⟩
        · refine .inr ⟨ref :: pre, ref', post, Delivery.of tree ref c :: ds, a :: as, h₂, e, h',
            rfl, ?_, .cons hs hacc, heq, hfail⟩
          exact (mapM_deliveryOf_cons tree map).2 ⟨_, ds, hd, hm, rfl⟩

end Pass

/-- The counts of a pass over the routes: the `none` answers are the HTTP routes, and the
three counts add up to the number of routes. -/
theorem counts_of_accepts {H : Type} [Host H] {tree : Tree} {map : ControllerMap}
    {refs : List RouteRef} {ds : List Delivery} {h h' : H} {as : List (Option Bool)}
    (hm : refs.mapM (deliveryOf tree map) = .ok ds) (hacc : Accepts h ds h' as) :
    as.count none = (refs.filter fun ref => ref.spec.method ≠ .subscription).length ∧
      as.count none + as.count (some true) + as.count (some false) = refs.length := by
  induction refs generalizing ds as h with
  | nil =>
    cases hm; cases hacc
    simp
  | cons ref rest ih =>
    obtain ⟨d, ds', hd, hrest, rfl⟩ := (mapM_deliveryOf_cons tree map).1 hm
    cases hacc with
    | cons hs hacc' =>
      obtain ⟨ih₁, ih₂⟩ := ih hrest hacc'
      -- the first answer is `none` exactly when the first route is not a subscription
      have hkind := (Delivery.isNone_of_send hs).trans (deliveryOf_isHttp tree map hd)
      rename_i a _
      by_cases hsub : ref.spec.method = .subscription <;>
        rcases a with _ | _ | _ <;> simp_all <;> omega

/-- Registering a router with a host. A failed load is the answer, with the host untouched. A
router that is not built is refused, with the host untouched. Otherwise the routes go to the
host in table order, each after its nearest controller designation is resolved: either the host
accepts every route, and the counts are the HTTP routes, the accepted and the declined
subscriptions, which together are all the routes; or the pass stops at the first route whose
designation names no usable controller (a missing one, or a class that refused to build) or
whose registration the host refused, and the host holds what it accepted before (and what its
refusal left). -/
theorem register_pass {H : Type} [Host H] (r : Router) (source : ControllerSource) (h : H) :
    (∀ e, source.load = .error e → register r source h = (h, .error e)) ∧
    ∀ map, source.load = .ok map →
      (r.phase ≠ .built → register r source h = (h, .error .notBuilt)) ∧
      (r.phase = .built →
        (∃ ds as h', r.routes.mapM (deliveryOf r.tree map) = .ok ds ∧ Accepts h ds h' as ∧
          register r source h =
            (h', .ok ⟨as.count none, as.count (some true), as.count (some false)⟩) ∧
          as.count none = (r.routes.filter fun ref => ref.spec.method ≠ .subscription).length ∧
          as.count none + as.count (some true) + as.count (some false) = r.routes.length) ∨
        (∃ pre ref post ds as h₁ e h', r.routes = pre ++ ref :: post ∧
          pre.mapM (deliveryOf r.tree map) = .ok ds ∧ Accepts h ds h₁ as ∧
          register r source h = (h', .error e) ∧
          ((map.resolveDesignation (r.tree.controller ref.entry.node) = .error e ∧ h' = h₁ ∧
              ∃ n args, r.tree.controller ref.entry.node = some (.named n args) ∧
                (e = .missingController n ∨ ∃ detail, e = .controllerConstruction n detail)) ∨
            ∃ c, map.resolveDesignation (r.tree.controller ref.entry.node) = .ok c ∧
              (Delivery.of r.tree ref c).send h₁ = (h', .error e)))) := by
  refine ⟨fun e he => by rw [register, he], fun map hmap => ⟨fun hb => ?_, fun hb => ?_⟩⟩
  · rw [register, hmap]
    simp [registerWith, hb]
  · have hpass : register r source h = registerRoutes r.tree map r.routes h ⟨0, 0, 0⟩ := by
      simp [register, hmap, registerWith, hb]
    rw [hpass]
    rcases registerRoutes_cases r.tree map r.routes h ⟨0, 0, 0⟩ with
      ⟨ds, as, h', hm, hacc, heq⟩ | ⟨pre, ref, post, ds, as, h₁, e, h', hsplit, hm, hacc, heq, hfail⟩
    · obtain ⟨hhttp, hall⟩ := counts_of_accepts hm hacc
      refine .inl ⟨ds, as, h', hm, hacc, ?_, hhttp, hall⟩
      rw [heq, Summary.foldl_add]
      simp
    · refine .inr ⟨pre, ref, post, ds, as, h₁, e, h', hsplit, hm, hacc, heq, ?_⟩
      rcases hfail with ⟨hres, rfl⟩ | hhost
      · exact .inl ⟨hres, rfl, ControllerMap.resolveDesignation_error hres⟩
      · exact .inr hhost

end ResourceRoutes
