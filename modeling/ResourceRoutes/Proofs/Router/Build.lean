import Mathlib.Data.List.Nodup
import ResourceRoutes.Router.Basic

/-!
# Building the route table

`RouteTable.ofVisited` inserts the walk's routes one by one and stops at the first name already
in the table. On a table whose name index lists its names with their positions
(`RouteTable.Indexed`), the index gives a name the position of its entry
(`Indexed.position?_eq_some_iff`), one insert is read off the names alone (`Indexed.insert_eq`),
and the fold is:

* `ofVisited_eq_ok`: a success means the names were distinct; the entries are the routes in
  order and the result is indexed again;
* `ofVisited_eq_error`: a failure names the first route whose name repeats an earlier one.

`build_outcome` puts these together for `Router.build`.
-/

namespace ResourceRoutes

namespace RouteTable

/-- The entry of a visited route. -/
def entryOf (v : Visited) : RouteEntry := ⟨v.name, v.path, v.node⟩

/-- The name index of the table lists its names with their positions, and the names are
distinct. -/
structure Indexed (t : RouteTable) : Prop where
  byName : t.byName = t.names.zipIdx
  nodup : t.names.Nodup

variable {t : RouteTable}

theorem indexed_empty : empty.Indexed := ⟨rfl, List.nodup_nil⟩

/-- Among distinct names paired with their positions, the search for a name finds exactly its
pair. -/
theorem find?_zipIdx_eq_some_iff {names : List String} (hn : names.Nodup) {n : String}
    {x : String × Nat} :
    names.zipIdx.find? (·.1 == n) = some x ↔ x ∈ names.zipIdx ∧ x.1 = n := by
  constructor
  · intro h
    exact ⟨List.mem_of_find?_eq_some h, by simpa using List.find?_some h⟩
  · rintro ⟨hx, rfl⟩
    obtain ⟨y, hy⟩ : ∃ y, names.zipIdx.find? (·.1 == x.1) = some y :=
      Option.isSome_iff_exists.1 (List.find?_isSome.2 ⟨x, hx, beq_self_eq_true _⟩)
    have hk : y.1 = x.1 := by simpa using List.find?_some hy
    -- two pairs of one name are one pair, since the names are distinct
    have hkeys : (names.zipIdx.map Prod.fst).Nodup := by rwa [List.zipIdx_map_fst]
    rw [hy, List.inj_on_of_nodup_map hkeys (List.mem_of_find?_eq_some hy) hx hk]

/-- The index sends a name to a position exactly when the entry there has that name. -/
theorem Indexed.position?_eq_some_iff (ht : t.Indexed) {n : String} {i : Nat} :
    t.position? n = some i ↔ t.names[i]? = some n := by
  unfold position?
  rw [ht.byName, Option.map_eq_some_iff]
  constructor
  · rintro ⟨x, hx, rfl⟩
    obtain ⟨hmem, rfl⟩ := (find?_zipIdx_eq_some_iff ht.nodup).1 hx
    exact List.mem_zipIdx_iff_getElem?.1 hmem
  · intro h
    exact ⟨(n, i), (find?_zipIdx_eq_some_iff ht.nodup).2 ⟨List.mk_mem_zipIdx_iff_getElem?.2 h, rfl⟩,
      rfl⟩

theorem Indexed.contains_iff (ht : t.Indexed) (n : String) : t.contains n = true ↔ n ∈ t.names := by
  rw [contains, Option.isSome_iff_exists, List.mem_iff_getElem?]
  exact exists_congr fun _ => ht.position?_eq_some_iff

/-- A name the table contains has an entry, found through the index. -/
theorem Indexed.get?_of_contains (ht : t.Indexed) {n : String} (h : t.contains n = true) :
    ∃ e ∈ t.entries, t.get? n = some e := by
  obtain ⟨i, hi⟩ := Option.isSome_iff_exists.1 h
  have hname := ht.position?_eq_some_iff.1 hi
  rw [names, List.getElem?_map] at hname
  obtain ⟨e, he, -⟩ := Option.map_eq_some_iff.1 hname
  exact ⟨e, List.mem_of_getElem? he, by rw [get?, hi, Option.bind_some, he]⟩

theorem get?_of_not_contains {n : String} (h : t.contains n = false) : t.get? n = none := by
  unfold contains at h
  cases hp : t.position? n with
  | none => rw [get?, hp, Option.bind_none]
  | some i => rw [hp] at h; cases h

/-- An insert into an indexed table refuses a name it has and appends any other. -/
theorem Indexed.insert_eq (ht : t.Indexed) (v : Visited) :
    t.insert v = if v.name ∈ t.names then .error (.duplicateRoute v.name)
      else .ok ⟨t.entries ++ [entryOf v], t.byName ++ [(v.name, t.entries.length)]⟩ := by
  unfold insert
  by_cases hv : v.name ∈ t.names
  · rw [if_pos ((ht.contains_iff _).2 hv), if_pos hv]
  · rw [if_neg (fun h => hv ((ht.contains_iff _).1 h)), if_neg hv]; rfl

theorem Indexed.append (ht : t.Indexed) {v : Visited} (hv : v.name ∉ t.names) :
    (⟨t.entries ++ [entryOf v], t.byName ++ [(v.name, t.entries.length)]⟩ : RouteTable).Indexed := by
  have hnames : (⟨t.entries ++ [entryOf v], t.byName ++ [(v.name, t.entries.length)]⟩ :
      RouteTable).names = t.names ++ [v.name] := by
    simp [names, entryOf]
  refine ⟨?_, ?_⟩
  · rw [hnames, List.zipIdx_append, ← ht.byName, List.zipIdx_singleton]
    simp [names]
  · rw [hnames]
    exact List.nodup_append.2 ⟨ht.nodup, List.nodup_singleton _, fun a ha b hb => by
      rw [List.mem_singleton.1 hb]; rintro rfl; exact hv ha⟩

/-- Inserting routes into an indexed table succeeds only when all names are distinct, and then
appends them in order. -/
theorem foldlM_insert_eq_ok {t' : RouteTable} (ht : t.Indexed) {vs : List Visited}
    (h : vs.foldlM insert t = .ok t') :
    (t.names ++ vs.map (·.name)).Nodup ∧ t'.entries = t.entries ++ vs.map entryOf ∧ t'.Indexed := by
  induction vs generalizing t with
  | nil =>
    cases h
    exact ⟨by simpa using ht.nodup, by simp, ht⟩
  | cons v vs ih =>
    rw [List.foldlM_cons, ht.insert_eq] at h
    by_cases hv : v.name ∈ t.names
    · rw [if_pos hv] at h; cases h
    · rw [if_neg hv] at h
      obtain ⟨hnd, hent, hidx⟩ := ih (ht.append hv) h
      refine ⟨?_, ?_, hidx⟩
      · simpa [names, entryOf] using hnd
      · simpa using hent

/-- Inserting routes into an indexed table fails at the first route whose name is in the table
or earlier in the list. -/
theorem foldlM_insert_eq_error {e : RouterError} (ht : t.Indexed) {vs : List Visited}
    (h : vs.foldlM insert t = .error e) :
    ∃ pre v post, vs = pre ++ v :: post ∧ (t.names ++ pre.map (·.name)).Nodup ∧
      v.name ∈ t.names ++ pre.map (·.name) ∧ e = .duplicateRoute v.name := by
  induction vs generalizing t with
  | nil => cases h
  | cons v vs ih =>
    rw [List.foldlM_cons, ht.insert_eq] at h
    by_cases hv : v.name ∈ t.names
    · rw [if_pos hv] at h; cases h
      exact ⟨[], v, vs, rfl, by simpa using ht.nodup, by simpa using hv, rfl⟩
    · rw [if_neg hv] at h
      obtain ⟨pre, w, post, rfl, hnd, hw, rfl⟩ := ih (ht.append hv) h
      refine ⟨v :: pre, w, post, rfl, ?_, ?_, rfl⟩
      · simpa [names, entryOf] using hnd
      · simpa [names, entryOf] using hw

theorem ofVisited_eq_ok {vs : List Visited} {t' : RouteTable} (h : ofVisited vs = .ok t') :
    (vs.map (·.name)).Nodup ∧ t'.entries = vs.map entryOf ∧ t'.Indexed := by
  simpa [empty, names] using foldlM_insert_eq_ok indexed_empty h

theorem ofVisited_eq_error {vs : List Visited} {e : RouterError} (h : ofVisited vs = .error e) :
    ∃ pre v post, vs = pre ++ v :: post ∧ (pre.map (·.name)).Nodup ∧
      v.name ∈ pre.map (·.name) ∧ e = .duplicateRoute v.name := by
  simpa [empty, names] using foldlM_insert_eq_error indexed_empty h

/-- A route whose name is earlier in the list makes the names not distinct. -/
theorem not_nodup_of_repeat {pre post : List Visited} {v : Visited} (hv : v.name ∈ pre.map (·.name)) :
    ¬ ((pre ++ v :: post).map (·.name)).Nodup := by
  intro hnd
  rw [List.map_append, List.map_cons, List.nodup_append] at hnd
  exact hnd.2.2 _ hv _ List.mem_cons_self rfl

end RouteTable

namespace Router

/-- A build reads only the tree and the options. -/
theorem build_eq_of {r r' : Router} (ht : r'.tree = r.tree) (ho : r'.options = r.options) :
    r'.build = r.build := by
  obtain ⟨tree, options, table, phase⟩ := r
  obtain ⟨tree', options', table', phase'⟩ := r'
  cases ht; cases ho; rfl

@[simp] theorem build_tree (r : Router) : r.build.1.tree = r.tree := by
  unfold build; dsimp only
  split
  · rfl
  · split <;> rfl

@[simp] theorem build_options (r : Router) : r.build.1.options = r.options := by
  unfold build; dsimp only
  split
  · rfl
  · split <;> rfl

/-- Without a recorded error, a build is decided by inserting the walk's routes. -/
theorem build_of_error_none {r : Router} (he : r.tree.error = none) :
    r.build = match RouteTable.ofVisited r.walk with
      | .error e => ({ r with table := .empty, phase := .assembling }, .error e)
      | .ok t => ({ r with table := t, phase := .built }, .ok t) := by
  unfold build; dsimp only
  rw [he]; rfl

/-- A build fails, leaving the table empty and the router assembling, or stores the table of
the walk's routes and the router is built. -/
theorem build_cases (r : Router) :
    (∃ e, r.build = ({ r with table := .empty, phase := .assembling }, .error e)) ∨
      ∃ t, r.tree.error = none ∧ RouteTable.ofVisited r.walk = .ok t ∧
        r.build = ({ r with table := t, phase := .built }, .ok t) := by
  unfold build; dsimp only
  split
  · exact .inl ⟨_, rfl⟩
  · rename_i he
    split
    · exact .inl ⟨_, rfl⟩
    · rename_i t hv
      exact .inr ⟨t, he, hv, rfl⟩

/-- A build: a recorded error is returned; otherwise the walk's first repeated name is refused;
otherwise the table of the walk's routes in order is stored and the router is built. A failed
build leaves the table empty and the router assembling. The outcome depends only on the tree and
the options, so a second build gives the same outcome. -/
theorem build_outcome (r : Router) :
    (∀ e, r.tree.error = some e →
      r.build = ({ r with table := .empty, phase := .assembling }, .error e)) ∧
    (r.tree.error = none → ¬ (r.walk.map (·.name)).Nodup →
      ∃ pre v post, r.walk = pre ++ v :: post ∧ (pre.map (·.name)).Nodup ∧
        v.name ∈ pre.map (·.name) ∧
        r.build = ({ r with table := .empty, phase := .assembling }, .error (.duplicateRoute v.name))) ∧
    (r.tree.error = none → (r.walk.map (·.name)).Nodup →
      ∃ tbl : RouteTable, tbl.entries = r.walk.map (fun v => ⟨v.name, v.path, v.node⟩) ∧
        r.build = ({ r with table := tbl, phase := .built }, .ok tbl)) ∧
    (∀ r' : Router, r'.tree = r.tree → r'.options = r.options → r'.build = r.build) ∧
    r.build.1.build = r.build := by
  -- the build of `r` once its error is known to be absent
  have hnone : r.tree.error = none → r.build = match RouteTable.ofVisited r.walk with
      | .error e => ({ r with table := .empty, phase := .assembling }, .error e)
      | .ok t => ({ r with table := t, phase := .built }, .ok t) := by
    intro he
    unfold build; dsimp only
    rw [he]; rfl
  refine ⟨fun e he => ?_, fun he hnd => ?_, fun he hnd => ?_, fun r' ht ho => build_eq_of ht ho,
    build_eq_of (build_tree r) (build_options r)⟩
  · unfold build; dsimp only
    rw [he]
  · rw [hnone he]
    rcases hv : RouteTable.ofVisited r.walk with e | t
    · obtain ⟨pre, v, post, hw, hpre, hvpre, rfl⟩ := RouteTable.ofVisited_eq_error hv
      exact ⟨pre, v, post, hw, hpre, hvpre, rfl⟩
    · exact absurd (RouteTable.ofVisited_eq_ok hv).1 hnd
  · rw [hnone he]
    rcases hv : RouteTable.ofVisited r.walk with e | t
    · obtain ⟨pre, v, post, hw, -, hvpre, -⟩ := RouteTable.ofVisited_eq_error hv
      exact absurd (hw ▸ hnd) (RouteTable.not_nodup_of_repeat hvpre)
    · exact ⟨t, (RouteTable.ofVisited_eq_ok hv).2.1, rfl⟩

end Router

end ResourceRoutes
