import Mathlib.Data.List.Nodup
import ResourceRoutes.Proofs.Router.Placeholders

/-!
# Mounting routes without repeats

The server host remembers, for each shape of path (its placeholders erased in the `{name}`
spelling), the mounted spelling it saw first, and the (method, mounted path) pairs it serves.
Over every run of accepted registrations from the empty host (`ServerHost.Sound`):

* the pairs taken are the mounted routes' methods and mounted paths, each once;
* two mounted routes of one shape have one mounted path;
* each mounted path appears once, and its endpoints serve distinct methods.

The server itself reads a mounted path with its parameters' names erased (`eraseParamNames`).
When every placeholder of a path fills the end of a segment and its text holds no `:`
(`wholeSegmentParams`), that reading gives the shape back, so two such routes the server reads
alike share their mounted path. `mounted_routes_distinct` states all of it for every run. A
segment `:x` written as text is a parameter to the server but no placeholder of the shape, and
two such routes can both be accepted (`literal_colon_escapes_shapes`).
-/

namespace ResourceRoutes

instance : LawfulBEq HttpMethod where
  eq_of_beq {a b} h := by cases a <;> cases b <;> first | rfl | cases h
  rfl {a} := by cases a <;> rfl

namespace Http

namespace ServerHost

/-- What a mounted route takes: its method on its mounted path. -/
def key (r : HttpRegistration) : HttpMethod × String := (r.method, mountedPath r.path)

/-- What a host keeps after accepting the routes `mounted` (those with a handler, in order):
their keys, each once; the mounted path of each one's shape; each mounted path once, with
endpoints of distinct methods, each of them a key taken. -/
structure Sound (h : ServerHost) (mounted : List HttpRegistration) : Prop where
  taken : h.taken = mounted.map key
  nodup : h.taken.Nodup
  shapes : ∀ r ∈ mounted,
    h.shapes.find? (·.1 == shapeOf r.path) = some (shapeOf r.path, mountedPath r.path)
  paths : (h.paths.map (·.path)).Nodup
  endpoints : ∀ pr ∈ h.paths, ∀ e ∈ pr.endpoints, (e.method, pr.path) ∈ h.taken
  methods : ∀ pr ∈ h.paths, (pr.endpoints.map (·.method)).Nodup

theorem sound_empty : empty.Sound [] :=
  ⟨rfl, List.nodup_nil, by simp, List.nodup_nil, by simp [empty], by simp [empty]⟩

/-! ## Mounting an endpoint -/

@[simp] theorem endpointOf_method (r : HttpRegistration) (handler : Handler) :
    (endpointOf r handler).method = r.method := rfl

/-- A mount keeps the known paths in place and adds a new one last. -/
theorem map_path_mount (paths : List PathRoutes) (path : String) (e : Endpoint) :
    (mount paths path e).map (·.path) =
      if paths.any (·.path == path) then paths.map (·.path) else paths.map (·.path) ++ [path] := by
  unfold mount
  split
  · rw [List.map_map]
    congr 1
    funext pr
    simp only [Function.comp]
    split <;> rfl
  · simp

/-- After a mount a path is an old one elsewhere, the mounted one with the endpoint added, or
the mounted one new with the endpoint alone. -/
theorem mem_mount {paths : List PathRoutes} {path : String} {e : Endpoint} {pr : PathRoutes}
    (h : pr ∈ mount paths path e) :
    (pr ∈ paths ∧ pr.path ≠ path) ∨
      (∃ pr₀ ∈ paths, pr₀.path = path ∧
        pr = { pr₀ with endpoints := pr₀.endpoints ++ [e], fallbackLimit := e.limit }) ∨
      (paths.any (·.path == path) = false ∧ pr = ⟨path, [e], e.limit⟩) := by
  unfold mount at h
  split at h
  · obtain ⟨pr₀, hpr₀, rfl⟩ := List.mem_map.1 h
    by_cases hp : pr₀.path = path
    · exact .inr (.inl ⟨pr₀, hpr₀, hp, by simp [hp]⟩)
    · exact .inl ⟨by simpa [hp] using hpr₀, by simp [hp]⟩
  · rename_i hany
    rcases List.mem_append.1 h with h | h
    · refine .inl ⟨h, fun hp => hany ?_⟩
      exact List.any_eq_true.2 ⟨pr, h, by simp [hp]⟩
    · exact .inr (.inr ⟨by simpa using hany, List.mem_singleton.1 h⟩)

/-! ## One registration -/

variable {h h' : ServerHost} {mounted : List HttpRegistration}

/-- A route without a handler is only listed as skipped. -/
theorem Sound.skip (hs : h.Sound mounted) (ids : List String) :
    ({ h with skipped := ids } : ServerHost).Sound mounted :=
  ⟨hs.taken, hs.nodup, hs.shapes, hs.paths, hs.endpoints, hs.methods⟩

/-- The shape table after an accepted route sends the route's shape to its mounted path and
every other shape where it went. -/
theorem find?_add_shape {shapes : List (String × String)} {shape path : String}
    (hshape : (shapes.find? (·.1 == shape)).any (·.2 != path) = false) (s : String) :
    (if shapes.any (·.1 == shape) then shapes else shapes ++ [(shape, path)]).find? (·.1 == s) =
      if s = shape then some (shape, path) else shapes.find? (·.1 == s) := by
  cases hf : shapes.find? (·.1 == shape) with
  | none =>
    have hany : shapes.any (·.1 == shape) = false := by
      simpa using List.find?_eq_none.1 hf
    rw [if_neg (by simp [hany]), List.find?_append]
    split
    · subst s
      simp [hf]
    · rename_i hs
      simp [Ne.symm hs]
  | some x =>
    have hx₁ : x.1 = shape := by simpa using List.find?_some hf
    have hx₂ : x.2 = path := by simpa [hf] using hshape
    have hany : shapes.any (·.1 == shape) = true :=
      List.any_eq_true.2 ⟨x, List.mem_of_find?_eq_some hf, by simp [hx₁]⟩
    rw [if_pos hany]
    split
    · subst s
      rw [hf, ← hx₁, ← hx₂]
    · rfl

/-- A route accepted with a handler keeps the host sound, mounted last. -/
theorem Sound.accept (hs : h.Sound mounted) (r : HttpRegistration) (handler : Handler)
    (hshape : (h.shapes.find? (·.1 == shapeOf r.path)).any (·.2 != mountedPath r.path) = false)
    (hfree : (r.method, mountedPath r.path) ∉ h.taken) :
    (h.mountRoute r handler).Sound (mounted ++ [r]) where
  taken := by simp [mountRoute, hs.taken, key]
  nodup := by
    show (h.taken ++ [(r.method, mountedPath r.path)]).Nodup
    rw [← List.concat_eq_append]
    exact hs.nodup.concat hfree
  shapes := by
    intro r' hr'
    dsimp only [mountRoute]
    rw [find?_add_shape hshape]
    split
    · rename_i hsame
      rcases List.mem_append.1 hr' with hr' | hr'
      · -- an older route of this shape fixed the mounted path the new one must agree with
        have hold := hs.shapes r' hr'
        rw [hsame] at hold ⊢
        have hpath : mountedPath r'.path = mountedPath r.path := by
          simpa [hold] using hshape
        rw [hpath]
      · rw [List.mem_singleton.1 hr']
    · rename_i hother
      rcases List.mem_append.1 hr' with hr' | hr'
      · exact hs.shapes r' hr'
      · exact absurd (by rw [List.mem_singleton.1 hr']) hother
  paths := by
    dsimp only [mountRoute]
    rw [map_path_mount]
    split
    · exact hs.paths
    · rename_i hany
      rw [← List.concat_eq_append]
      refine hs.paths.concat fun hmem => hany ?_
      obtain ⟨pr, hpr, hp⟩ := List.mem_map.1 hmem
      exact List.any_eq_true.2 ⟨pr, hpr, by simp [hp]⟩
  endpoints := by
    intro pr hpr e' he'
    dsimp only [mountRoute] at hpr ⊢
    rcases mem_mount hpr with ⟨hold, -⟩ | ⟨pr₀, hpr₀, hpath, rfl⟩ | ⟨-, rfl⟩
    · exact List.mem_append_left _ (hs.endpoints pr hold e' he')
    · rcases List.mem_append.1 he' with he' | he'
      · exact List.mem_append_left _ (hs.endpoints pr₀ hpr₀ e' he')
      · simp [List.mem_singleton.1 he', hpath]
    · simp [List.mem_singleton.1 he']
  methods := by
    intro pr hpr
    dsimp only [mountRoute] at hpr ⊢
    rcases mem_mount hpr with ⟨hold, -⟩ | ⟨pr₀, hpr₀, hpath, rfl⟩ | ⟨-, rfl⟩
    · exact hs.methods pr hold
    · -- an endpoint already serving the method on this path would have taken the pair
      rw [List.map_append, List.map_singleton, ← List.concat_eq_append]
      refine (hs.methods pr₀ hpr₀).concat fun hm => hfree ?_
      obtain ⟨e', he', heq⟩ := List.mem_map.1 hm
      simpa [heq, hpath] using hs.endpoints pr₀ hpr₀ e' he'
    · simp

/-- One call of the host keeps it sound; the route is mounted when it has a handler. -/
theorem Sound.step (hs : h.Sound mounted) {r : HttpRegistration} (hr : ServerHost.route h r = .ok h') :
    h'.Sound (mounted ++ [r].filter (·.handler.isSome)) := by
  unfold ServerHost.route at hr
  cases hh : r.handler with
  | none =>
    rw [hh] at hr
    cases hr
    simpa [hh] using hs.skip _
  | some handler =>
    rw [hh] at hr
    simp only at hr
    split at hr
    · cases hr
    · split at hr
      · cases hr
      · rename_i hshape hfree
        cases hr
        simpa [hh] using hs.accept r handler (Bool.eq_false_iff.2 hshape) (by simpa using hfree)

/-- A run of accepted calls keeps the host sound, the routes with a handler mounted in order. -/
theorem Sound.run (hs : h.Sound mounted) {regs : List HttpRegistration}
    (hrun : regs.foldlM ServerHost.route h = .ok h') :
    h'.Sound (mounted ++ regs.filter (·.handler.isSome)) := by
  induction regs generalizing h mounted with
  | nil =>
    cases hrun
    simpa using hs
  | cons r rs ih =>
    rw [List.foldlM_cons] at hrun
    cases hstep : ServerHost.route h r with
    | error e => rw [hstep] at hrun; cases hrun
    | ok h₁ =>
      rw [hstep] at hrun
      have := ih (hs.step hstep) hrun
      rwa [List.append_assoc, ← List.filter_append, List.singleton_append] at this

/-- Two mounted routes of one shape have one mounted path. -/
theorem Sound.mountedPath_eq (hs : h.Sound mounted) {r₁ r₂ : HttpRegistration} (h₁ : r₁ ∈ mounted)
    (h₂ : r₂ ∈ mounted) (hshape : shapeOf r₁.path = shapeOf r₂.path) :
    mountedPath r₁.path = mountedPath r₂.path := by
  have e₁ := hs.shapes r₁ h₁
  rw [hshape, hs.shapes r₂ h₂] at e₁
  simpa using e₁.symm

/-! ## How the server reads a mounted path -/

/-- The server's reading of a mounted path, as a machine over its characters: a `:` and the name
after it, up to the next `/`, read as `:` alone. The flag is set while a name is read. -/
def eraseNames (inName : Bool) : List Char → List Char
  | [] => []
  | c :: rest =>
    if c = '/' then '/' :: eraseNames false rest
    else if inName then eraseNames true rest
    else if c = ':' then ':' :: eraseNames true rest
    else c :: eraseNames false rest

/-- A mounted path with its parameters' names erased: paths that read alike here are one route to
the server. -/
def eraseParamNames (path : String) : String := String.ofList (eraseNames false path.toList)

/-- Pieces whose text holds no `:` and whose placeholders each end a segment: a `/` or the end
follows each. -/
def wholeSegmentPieces : List PathPiece → Bool
  | [] => true
  | .text s :: rest => !s.toList.contains ':' && wholeSegmentPieces rest
  | [.param _] => true
  | .param _ :: .text s :: rest => s.toList.head? == some '/' && wholeSegmentPieces (.text s :: rest)
  | .param _ :: .param _ :: _ => false

/-- A path whose text holds no `:` and whose placeholders each fill the end of a segment. -/
def wholeSegmentParams (path : String) : Bool := wholeSegmentPieces (pathPieces path)

/-- The shape an erased path stands for: each `:` is a placeholder. -/
def shapeOfErased (cs : List Char) : List Char :=
  cs.flatMap fun c => if c = ':' then [braceOpen, braceClose] else [c]

@[simp] theorem shapeOfErased_nil : shapeOfErased [] = [] := rfl

@[simp] theorem shapeOfErased_cons (c : Char) (s : List Char) :
    shapeOfErased (c :: s) = (if c = ':' then [braceOpen, braceClose] else [c]) ++ shapeOfErased s :=
  List.flatMap_cons

theorem shapeOfErased_append (s t : List Char) :
    shapeOfErased (s ++ t) = shapeOfErased s ++ shapeOfErased t :=
  List.flatMap_append

theorem shapeOfErased_colon_free {s : List Char} (hs : ':' ∉ s) : shapeOfErased s = s := by
  induction s with
  | nil => rfl
  | cons c s ih =>
    rw [List.mem_cons, not_or] at hs
    simp [Ne.symm hs.1, ih hs.2]

/-- Text without a `:` reads as itself. -/
theorem eraseNames_colon_free {s : List Char} (hs : ':' ∉ s) (rest : List Char) :
    eraseNames false (s ++ rest) = s ++ eraseNames false rest := by
  induction s with
  | nil => rfl
  | cons c s ih =>
    rw [List.mem_cons, not_or] at hs
    by_cases hslash : c = '/'
    · simp [eraseNames, hslash, ih hs.2]
    · simp [eraseNames, hslash, Ne.symm hs.1, ih hs.2]

/-- Inside a segment a name is skipped. -/
theorem eraseNames_name {cs : List Char} (hcs : '/' ∉ cs) (rest : List Char) :
    eraseNames true (cs ++ rest) = eraseNames true rest := by
  induction cs with
  | nil => rfl
  | cons c cs ih =>
    rw [List.mem_cons, not_or] at hcs
    simp [eraseNames, Ne.symm hcs.1, ih hcs.2]

/-- A parameter reads as `:`, its name skipped. -/
theorem eraseNames_param {n : String} (hn : '/' ∉ n.toList) (rest : List Char) :
    eraseNames false ((":" ++ n).toList ++ rest) = ':' :: eraseNames true rest := by
  simp [eraseNames, eraseNames_name hn]

/-- At the end of a segment the name being read is over. -/
theorem eraseNames_true_of_slash {rest : List Char} (h : rest.head? = none ∨ rest.head? = some '/') :
    eraseNames true rest = eraseNames false rest := by
  rcases rest with _ | ⟨c, rest⟩
  · rfl
  · simp only [List.head?_cons, reduceCtorEq, Option.some.injEq, false_or] at h
    simp [eraseNames, h]

/-- `fillPlaceholders` over the pieces of a path. -/
def fillPieces (ps : List PathPiece) (f : String → String) : String :=
  String.join (ps.map fun
    | .param n => f n
    | .text s => s)

theorem fillPlaceholders_eq_fillPieces (path : String) (f : String → String) :
    fillPlaceholders path f = fillPieces (pathPieces path) f := rfl

theorem fillPieces_cons_text (s : String) (ps : List PathPiece) (f : String → String) :
    (fillPieces (.text s :: ps) f).toList = s.toList ++ (fillPieces ps f).toList := by
  simp [fillPieces]

theorem fillPieces_cons_param (n : String) (ps : List PathPiece) (f : String → String) :
    (fillPieces (.param n :: ps) f).toList = (f n).toList ++ (fillPieces ps f).toList := by
  simp [fillPieces]

/-- Over pieces whose placeholders fill whole segments ends and whose text has no `:`, the
shape is read back from the server's reading of the mounted form. -/
theorem shape_of_wholeSegmentPieces (ps : List PathPiece) (hc : wholeSegmentPieces ps = true)
    (hn : ∀ m, .param m ∈ ps → '/' ∉ m.toList) :
    (fillPieces ps fun _ => "\x7b\x7d").toList =
      shapeOfErased (eraseNames false (fillPieces ps (":" ++ ·)).toList) := by
  fun_induction wholeSegmentPieces ps with
  | case1 => rfl
  | case2 s rest ih =>
    obtain ⟨hs, hrest⟩ : ':' ∉ s.toList ∧ wholeSegmentPieces rest = true := by simpa using hc
    rw [fillPieces_cons_text, fillPieces_cons_text, eraseNames_colon_free hs, shapeOfErased_append,
      shapeOfErased_colon_free hs, ih hrest fun m hm => hn m (List.mem_cons_of_mem _ hm)]
  | case3 n =>
    rw [fillPieces_cons_param, fillPieces_cons_param, eraseNames_param (hn n List.mem_cons_self)]
    rfl
  | case4 n s rest ih =>
    obtain ⟨hslash, hrest⟩ :
        s.toList.head? = some '/' ∧ wholeSegmentPieces (.text s :: rest) = true := by
      simpa using hc
    -- the text after the placeholder opens with the `/` that ends its name
    have hhead : ((fillPieces (.text s :: rest) (":" ++ ·)).toList).head? = some '/' := by
      rw [fillPieces_cons_text, List.head?_append, hslash]
      rfl
    rw [fillPieces_cons_param, fillPieces_cons_param, eraseNames_param (hn n List.mem_cons_self),
      eraseNames_true_of_slash (.inr hhead), shapeOfErased_cons, if_pos rfl,
      ih hrest fun m hm => hn m (List.mem_cons_of_mem _ hm)]
    rfl
  | case5 => simp at hc

/-- A placeholder's name holds no `/`. -/
theorem slash_not_mem_of_param {path m : String} (h : .param m ∈ pathPieces path) :
    '/' ∉ m.toList := by
  have hm : properName m = true :=
    properName_of_mem_placeholders (List.mem_filterMap.2 ⟨_, h, rfl⟩)
  simp only [properName, Bool.and_eq_true, List.all_eq_true] at hm
  exact fun hs => absurd (hm.2 '/' hs) (by decide)

/-- A path whose placeholders fill whole segments and whose text has no `:` reads back its
shape from the server's reading of its mounted form. -/
theorem shapeOf_eq_shapeOfErased {path : String} (hp : wholeSegmentParams path = true) :
    (shapeOf path).toList = shapeOfErased (eraseParamNames (mountedPath path)).toList := by
  rw [eraseParamNames, String.toList_ofList, shapeOf, mountedPath, fillPlaceholders_eq_fillPieces,
    fillPlaceholders_eq_fillPieces]
  exact shape_of_wholeSegmentPieces _ hp fun m hm => slash_not_mem_of_param hm

/-- Two such paths that the server reads alike have one shape. -/
theorem shapeOf_eq_of_eraseParamNames_eq {p₁ p₂ : String} (h₁ : wholeSegmentParams p₁ = true)
    (h₂ : wholeSegmentParams p₂ = true)
    (he : eraseParamNames (mountedPath p₁) = eraseParamNames (mountedPath p₂)) :
    shapeOf p₁ = shapeOf p₂ :=
  String.toList_inj.1 (by rw [shapeOf_eq_shapeOfErased h₁, shapeOf_eq_shapeOfErased h₂, he])

/-! ## Every run -/

/-- Over every run of accepted calls from the empty host, with the routes that have a handler
mounted: the host is sound for them (their method and mounted path pairs taken once each, every
mounted path listed once with endpoints of distinct methods); two of one shape share their
mounted path; and two whose placeholders fill whole segments and whose text has no `:` are one
route to the server only when their mounted paths are equal. -/
theorem mounted_routes_distinct (regs : List HttpRegistration) (h : ServerHost)
    (hrun : regs.foldlM route empty = .ok h) :
    h.Sound (regs.filter (·.handler.isSome)) ∧
      ∀ r₁ ∈ regs.filter (·.handler.isSome), ∀ r₂ ∈ regs.filter (·.handler.isSome),
        (shapeOf r₁.path = shapeOf r₂.path → mountedPath r₁.path = mountedPath r₂.path) ∧
        (wholeSegmentParams r₁.path = true → wholeSegmentParams r₂.path = true →
          eraseParamNames (mountedPath r₁.path) = eraseParamNames (mountedPath r₂.path) →
          mountedPath r₁.path = mountedPath r₂.path) := by
  have hs := sound_empty.run hrun
  rw [List.nil_append] at hs
  refine ⟨hs, fun r₁ h₁ r₂ h₂ => ⟨hs.mountedPath_eq h₁ h₂, fun hp₁ hp₂ he => ?_⟩⟩
  exact hs.mountedPath_eq h₁ h₂ (shapeOf_eq_of_eraseParamNames_eq hp₁ hp₂ he)

/-- Two methods on an item path and a route without a handler. -/
theorem item_routes_mounted_distinct :
    let show_ : HttpRegistration := ⟨"u[id].show", "/u/\x7bid\x7d", .get, some (.direct .null),
      none, [], [], none, RouteMeta.empty, ⟨none, none, none, none⟩, none⟩
    let regs := [show_, { show_ with id := "u[id].update", method := .put },
      { show_ with id := "u.index", path := "/u", handler := none }]
    ∃ h, regs.foldlM route empty = .ok h ∧
      h.Sound (regs.filter (·.handler.isSome)) ∧
      ∀ r₁ ∈ regs.filter (·.handler.isSome), ∀ r₂ ∈ regs.filter (·.handler.isSome),
        (shapeOf r₁.path = shapeOf r₂.path → mountedPath r₁.path = mountedPath r₂.path) ∧
        (wholeSegmentParams r₁.path = true → wholeSegmentParams r₂.path = true →
          eraseParamNames (mountedPath r₁.path) = eraseParamNames (mountedPath r₂.path) →
          mountedPath r₁.path = mountedPath r₂.path) := by
  intro show_ regs
  have hok : (regs.foldlM route empty).toBool = true := by decide +kernel
  cases hrun : regs.foldlM route empty with
  | error e => rw [hrun] at hok; cases hok
  | ok h => exact ⟨h, rfl, mounted_routes_distinct regs h hrun⟩

/-- A route named `:x` under a collection is mounted at `/u/:x` beside the collection's item
route `/u/{id}`, mounted at `/u/:id`: their shapes differ, so both are accepted, yet the server
reads the two as one route. -/
theorem literal_colon_escapes_shapes :
    let byName : HttpRegistration := ⟨"u.:x", "/u/:x", .get, some (.direct .null), none, [], [],
      none, RouteMeta.empty, ⟨none, none, none, none⟩, none⟩
    let byItem : HttpRegistration := { byName with id := "u[id].show", path := "/u/\x7bid\x7d" }
    ([byName, byItem].foldlM route empty).toBool = true ∧
      wholeSegmentParams byName.path = false ∧
      eraseParamNames (mountedPath byName.path) = eraseParamNames (mountedPath byItem.path) ∧
      mountedPath byName.path ≠ mountedPath byItem.path := by
  decide +kernel

end ServerHost

end Http

end ResourceRoutes
