import ResourceRoutes.Proofs.Http.Mounting

/-!
# The server host over every history of calls

A route call on the server host skips a route without a handler, refuses a route that conflicts
with what is mounted, and otherwise mounts it. Over any sequence of calls from the empty host,
refused calls included (`ServerHost.calls`), the host keeps exactly what it mounted
(`ServerHost.Tracks`):

* its (method, mounted path) pairs, each once, and the mounted path of each shape;
* its mounted paths, each once, in the order they were first mounted (`List.eraseDups`);
* at each path the endpoints of the routes mounted there, in order, the fallback carrying the body
  limit of the last of them.

`route_calls_characterized` reads every next call off the routes mounted so far: a route without
a handler is skipped, a route whose shape has another mounted spelling or whose method is taken
on its mounted path is refused with the host unchanged, and any other route is mounted.
-/

namespace ResourceRoutes.Http.ServerHost

/-- A route conflicts with mounted routes when one of them has its shape and another mounted
spelling, or serves its method on its mounted path. -/
def Conflicts (mounted : List HttpRegistration) (r : HttpRegistration) : Prop :=
  (∃ r' ∈ mounted, shapeOf r'.path = shapeOf r.path ∧ mountedPath r'.path ≠ mountedPath r.path) ∨
    ∃ r' ∈ mounted, r'.method = r.method ∧ mountedPath r'.path = mountedPath r.path

/-- One call through the host interface, with the routes mounted so far: a refused call leaves
both as they were; an accepted call with a handler mounts its route. -/
def call (s : ServerHost × List HttpRegistration) (r : HttpRegistration) :
    ServerHost × List HttpRegistration :=
  match Host.route s.1 r with
  | (h, .ok ()) => (h, if r.handler.isSome then s.2 ++ [r] else s.2)
  | (h, .error _) => (h, s.2)

/-- The host after calls in order from the empty host, with the routes it mounted. -/
def calls (regs : List HttpRegistration) : ServerHost × List HttpRegistration :=
  regs.foldl call (empty, [])

/-- What the host keeps of the routes it mounted, in order: it is sound for them; every shape it
knows is the shape and mounted path of one of them; its paths are their mounted paths, each
once, in the order of first mounting; each path serves the endpoints of the routes mounted there,
in order, its fallback carrying the body limit of the last; and each of them has a handler. -/
structure Tracks (h : ServerHost) (mounted : List HttpRegistration) : Prop where
  sound : h.Sound mounted
  shapes_mem : ∀ p ∈ h.shapes, ∃ r ∈ mounted, p = (shapeOf r.path, mountedPath r.path)
  paths : h.paths.map (·.path) = (mounted.map (mountedPath ·.path)).eraseDups
  endpoints : ∀ pr ∈ h.paths, pr.endpoints =
    (mounted.filter (mountedPath ·.path == pr.path)).filterMap fun r => r.handler.map (endpointOf r)
  fallback : ∀ pr ∈ h.paths,
    some pr.fallbackLimit = ((mounted.filter (mountedPath ·.path == pr.path)).getLast?).map
      (·.metadata.payloadMaxBytes)
  handlers : ∀ r ∈ mounted, r.handler.isSome

theorem tracks_empty : Tracks empty [] :=
  ⟨sound_empty, by simp [empty], by simp [empty], by simp [empty], by simp [empty], by simp⟩

variable {h : ServerHost} {mounted : List HttpRegistration} {r : HttpRegistration}

/-! ## One call -/

/-- A route with a handler is refused on a shape clash or a taken pair, and otherwise mounted. -/
theorem route_of_handler {handler : Handler} (hr : r.handler = some handler) :
    ServerHost.route h r =
      if (h.shapes.find? (·.1 == shapeOf r.path)).any (·.2 != mountedPath r.path) then
        .error (.routeConflict r.method.name r.path)
      else if h.taken.contains (r.method, mountedPath r.path) then
        .error (.routeConflict r.method.name r.path)
      else .ok (h.mountRoute r handler) := by
  unfold ServerHost.route
  rw [hr]

/-- The host knows another spelling of the route's shape exactly when a mounted route has the
shape and another mounted path. -/
theorem shape_clash_iff (ht : Tracks h mounted) :
    (h.shapes.find? (·.1 == shapeOf r.path)).any (·.2 != mountedPath r.path) = true ↔
      ∃ r' ∈ mounted, shapeOf r'.path = shapeOf r.path ∧ mountedPath r'.path ≠ mountedPath r.path := by
  constructor
  · intro hc
    obtain ⟨p, hp, hne⟩ := (Option.any_eq_true _ _).1 hc
    obtain ⟨r', hr', rfl⟩ := ht.shapes_mem p (List.mem_of_find?_eq_some hp)
    have hshape : shapeOf r'.path = shapeOf r.path := by simpa using List.find?_some hp
    exact ⟨r', hr', hshape, by simpa using hne⟩
  · rintro ⟨r', hr', hshape, hne⟩
    have hfind := ht.sound.shapes r' hr'
    rw [hshape] at hfind
    rw [hfind]
    simpa using hne

/-- The host has taken the route's pair exactly when a mounted route serves its method on its
mounted path. -/
theorem taken_iff (ht : Tracks h mounted) :
    h.taken.contains (r.method, mountedPath r.path) = true ↔
      ∃ r' ∈ mounted, r'.method = r.method ∧ mountedPath r'.path = mountedPath r.path := by
  rw [List.contains_iff_mem, ht.sound.taken]
  simp [key]

/-- A route with a handler that conflicts with the mounted routes is refused. -/
theorem route_of_conflicts (ht : Tracks h mounted) {handler : Handler} (hr : r.handler = some handler)
    (hc : Conflicts mounted r) :
    ServerHost.route h r = .error (.routeConflict r.method.name r.path) := by
  rw [route_of_handler hr]
  rcases hc with hc | hc
  · rw [if_pos ((shape_clash_iff ht).2 hc)]
  · split
    · rfl
    · rw [if_pos ((taken_iff ht).2 hc)]

/-- A route with a handler that conflicts with no mounted route is mounted. -/
theorem route_of_not_conflicts (ht : Tracks h mounted) {handler : Handler}
    (hr : r.handler = some handler) (hno : ¬ Conflicts mounted r) :
    ServerHost.route h r = .ok (h.mountRoute r handler) := by
  rw [route_of_handler hr, if_neg fun hc => hno (.inl ((shape_clash_iff ht).1 hc)),
    if_neg fun hc => hno (.inr ((taken_iff ht).1 hc))]

/-- A route without a handler is skipped. -/
theorem route_of_no_handler (hr : r.handler = none) :
    ServerHost.route h r = .ok { h with skipped := h.skipped ++ [r.id] } := by
  unfold ServerHost.route
  rw [hr]

/-- A route without a handler is only listed as skipped. -/
theorem Tracks.skip (ht : Tracks h mounted) (ids : List String) :
    Tracks { h with skipped := ids } mounted :=
  ⟨ht.sound.skip ids, ht.shapes_mem, ht.paths, ht.endpoints, ht.fallback, ht.handlers⟩

/-- A mounted path is one of the mounted routes' paths. -/
theorem mem_paths_iff (ht : Tracks h mounted) (p : String) :
    h.paths.any (·.path == p) = true ↔ p ∈ mounted.map (mountedPath ·.path) := by
  rw [← List.mem_eraseDups, ← ht.paths, List.any_eq_true, List.mem_map]
  simp

/-- The first mounts of the paths, with one more mounted path. -/
theorem eraseDups_concat (ps : List String) (p : String) :
    (ps ++ [p]).eraseDups = if p ∈ ps then ps.eraseDups else ps.eraseDups ++ [p] := by
  rw [List.eraseDups_append]
  split
  · simp_all [List.removeAll]
  · rename_i hp
    have hrm : [p].removeAll ps = [p] := by simp [List.removeAll, hp]
    rw [hrm, List.eraseDups_cons]
    simp

/-- The routes mounted at a path, once one more route is mounted. -/
theorem filter_mountedPath_concat (p : String) :
    (mounted ++ [r]).filter (mountedPath ·.path == p) =
      if mountedPath r.path = p then mounted.filter (mountedPath ·.path == p) ++ [r]
      else mounted.filter (mountedPath ·.path == p) := by
  rw [List.filter_append]
  split <;> simp_all

/-- No mounted route has a path the host does not serve. -/
theorem Tracks.filter_eq_nil_of_new (ht : Tracks h mounted) {p : String}
    (hany : h.paths.any (·.path == p) = false) : mounted.filter (mountedPath ·.path == p) = [] := by
  rw [List.filter_eq_nil_iff]
  intro r' hr' heq
  have := (mem_paths_iff ht _).2 (List.mem_map.2 ⟨r', hr', by simpa using heq⟩)
  rw [hany] at this
  cases this

/-- A route mounted without a conflict keeps the host tracking its routes, now with it last. -/
theorem Tracks.accept (ht : Tracks h mounted) {handler : Handler} (hr : r.handler = some handler)
    (hno : ¬ Conflicts mounted r) : Tracks (h.mountRoute r handler) (mounted ++ [r]) := by
  have hshape : (h.shapes.find? (·.1 == shapeOf r.path)).any (·.2 != mountedPath r.path) = false :=
    Bool.eq_false_iff.2 fun hc => hno (.inl ((shape_clash_iff ht).1 hc))
  have hfree : (r.method, mountedPath r.path) ∉ h.taken := fun hm =>
    hno (.inr ((taken_iff ht).1 (List.contains_iff_mem.2 hm)))
  refine ⟨ht.sound.accept r handler hshape hfree, ?_, ?_, ?_, ?_, ?_⟩
  · intro p hp
    simp only [mountRoute] at hp
    split at hp
    · obtain ⟨r', hr', rfl⟩ := ht.shapes_mem p hp
      exact ⟨r', List.mem_append_left _ hr', rfl⟩
    · rcases List.mem_append.1 hp with hp | hp
      · obtain ⟨r', hr', rfl⟩ := ht.shapes_mem p hp
        exact ⟨r', List.mem_append_left _ hr', rfl⟩
      · exact ⟨r, by simp, List.mem_singleton.1 hp⟩
  · simp only [mountRoute]
    rw [map_path_mount, List.map_append, List.map_singleton, eraseDups_concat, ← ht.paths]
    by_cases hany : h.paths.any (·.path == mountedPath r.path) = true
    · rw [if_pos hany, if_pos ((mem_paths_iff ht _).1 hany)]
    · rw [if_neg hany, if_neg (fun hm => hany ((mem_paths_iff ht _).2 hm))]
  · intro pr hpr
    simp only [mountRoute] at hpr
    rw [filter_mountedPath_concat]
    rcases mem_mount hpr with ⟨hold, hne⟩ | ⟨pr₀, hpr₀, hpath, rfl⟩ | ⟨hany, rfl⟩
    · rw [if_neg (Ne.symm hne)]
      exact ht.endpoints pr hold
    · -- the path had routes; the new endpoint comes after theirs
      rw [if_pos hpath.symm, List.filterMap_append, ← ht.endpoints pr₀ hpr₀]
      simp [hr]
    · rw [if_pos rfl, ht.filter_eq_nil_of_new hany]
      simp [hr]
  · intro pr hpr
    simp only [mountRoute] at hpr
    rw [filter_mountedPath_concat]
    rcases mem_mount hpr with ⟨hold, hne⟩ | ⟨pr₀, hpr₀, hpath, rfl⟩ | ⟨hany, rfl⟩
    · rw [if_neg (Ne.symm hne)]
      exact ht.fallback pr hold
    · rw [if_pos hpath.symm]
      simp [endpointOf]
    · rw [if_pos rfl, ht.filter_eq_nil_of_new hany]
      simp [endpointOf]
  · intro r' hr'
    rcases List.mem_append.1 hr' with hr' | hr'
    · exact ht.handlers r' hr'
    · rw [List.mem_singleton.1 hr', hr]; rfl

/-- Every call keeps the host tracking the routes it mounted. -/
theorem Tracks.step (ht : Tracks h mounted) (r : HttpRegistration) :
    Tracks (call (h, mounted) r).1 (call (h, mounted) r).2 := by
  rcases hh : r.handler with _ | handler
  · simp only [call, Host.route, route_of_no_handler hh, hh, Option.isSome_none,
      Bool.false_eq_true, if_false]
    exact ht.skip _
  · by_cases hc : Conflicts mounted r
    · simp only [call, Host.route, route_of_conflicts ht hh hc]
      exact ht
    · simp only [call, Host.route, route_of_not_conflicts ht hh hc, hh, Option.isSome_some, if_true]
      exact ht.accept hh hc

/-! ## Every history of calls -/

theorem Tracks.foldl (ht : Tracks h mounted) (regs : List HttpRegistration) :
    Tracks (regs.foldl call (h, mounted)).1 (regs.foldl call (h, mounted)).2 := by
  induction regs generalizing h mounted with
  | nil => exact ht
  | cons r regs ih => exact ih (ht.step r)

/-- The host after calls is the host the interface hands back call after call. -/
theorem foldl_call_fst (s : ServerHost × List HttpRegistration) (regs : List HttpRegistration) :
    (regs.foldl call s).1 = regs.foldl (fun h r => (Host.route h r).1) s.1 := by
  induction regs generalizing s with
  | nil => rfl
  | cons r regs ih =>
    rw [List.foldl_cons, List.foldl_cons, ih]
    congr 1
    unfold call
    split <;> rename_i heq <;> rw [heq]

/-- Each call lists a route without a handler as skipped, and no other. -/
theorem skipped_foldl (h : ServerHost) (regs : List HttpRegistration) :
    (regs.foldl (fun h r => (Host.route h r).1) h).skipped =
      h.skipped ++ (regs.filter (·.handler.isNone)).map (·.id) := by
  induction regs generalizing h with
  | nil => simp
  | cons r regs ih =>
    rw [List.foldl_cons, ih]
    rcases hh : r.handler with _ | handler
    · simp [Host.route, route_of_no_handler hh, hh]
    · -- a route with a handler leaves the skipped names as they were, refused or mounted
      have hkeep : (Host.route h r).1.skipped = h.skipped := by
        simp only [Host.route]
        rcases hroute : ServerHost.route h r with e | h'
        · rfl
        · rw [route_of_handler hh] at hroute
          split at hroute
          · cases hroute
          · split at hroute
            · cases hroute
            · cases hroute; rfl
      simp [hkeep, hh]

/-- Over every history of route calls from the empty host, refused calls included, the host
tracks the routes it mounted (`Tracks`: each (method, mounted path) pair once, each shape with the
mounted path of every mounted route of that shape, the mounted paths once each in the order of
first mounting, each path's endpoints those of its routes in order) and lists as skipped exactly
the routes without a handler. The next call: a route without a handler is accepted and only
listed as skipped; a route with a handler that conflicts with a mounted route (one of its shape
with another mounted spelling, or one serving its method on its mounted path) is refused with a
conflict on its method and path, the host left as it was; any other route is accepted and
mounted, the host tracking it last and its skipped names kept. -/
theorem route_calls_characterized (regs : List HttpRegistration) (r : HttpRegistration) :
    let h := regs.foldl (fun h r => (Host.route h r).1) empty
    let mounted := (calls regs).2
    Tracks h mounted ∧ h.skipped = (regs.filter (·.handler.isNone)).map (·.id) ∧
      (r.handler = none → Host.route h r = ({ h with skipped := h.skipped ++ [r.id] }, .ok ())) ∧
      (r.handler.isSome → Conflicts mounted r →
        Host.route h r = (h, .error (.routeConflict r.method.name r.path))) ∧
      (r.handler.isSome → ¬ Conflicts mounted r →
        ∃ h', Host.route h r = (h', .ok ()) ∧ Tracks h' (mounted ++ [r]) ∧ h'.skipped = h.skipped) := by
  intro h mounted
  have ht : Tracks h mounted := by
    have := tracks_empty.foldl regs
    rwa [foldl_call_fst] at this
  refine ⟨ht, (skipped_foldl empty regs).trans (by simp [empty]), fun hr => ?_, fun hr hc => ?_,
    fun hr hno => ?_⟩
  · simp [Host.route, route_of_no_handler hr]
  · obtain ⟨handler, hh⟩ := Option.isSome_iff_exists.1 hr
    simp [Host.route, route_of_conflicts ht hh hc]
  · obtain ⟨handler, hh⟩ := Option.isSome_iff_exists.1 hr
    exact ⟨h.mountRoute r handler, by simp [Host.route, route_of_not_conflicts ht hh hno],
      ht.accept hh hno, rfl⟩

/-- After `GET /users/{user}` is mounted, `POST /users/{id}` has the shape of a mounted route
with another spelling, and is refused with the host unchanged. -/
theorem users_route_conflicts :
    let a : HttpRegistration := ⟨"a", "/users/\x7buser\x7d", .get, some (.direct .null), none, [], [],
      none, RouteMeta.empty, ⟨none, none, none, none⟩, none⟩
    let c : HttpRegistration := { a with id := "c", method := .post, path := "/users/\x7bid\x7d" }
    let h := [a].foldl (fun h r => (Host.route h r).1) empty
    c.handler.isSome ∧ Conflicts (calls [a]).2 c ∧
      Host.route h c = (h, .error (.routeConflict c.method.name c.path)) := by
  intro a c h
  have hmounted : (calls [a]).2 = [a] := rfl
  have hc : Conflicts (calls [a]).2 c := by
    rw [hmounted]
    exact .inl ⟨a, List.mem_singleton_self a, by decide +kernel, by decide +kernel⟩
  exact ⟨rfl, hc, (route_calls_characterized [a] c).2.2.2.1 rfl hc⟩

end ResourceRoutes.Http.ServerHost
