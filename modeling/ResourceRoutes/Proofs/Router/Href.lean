import ResourceRoutes.Proofs.Text.Segment
import ResourceRoutes.Proofs.Router.Placeholders

/-!
# Links to routes

`Router.href` makes the link to a route of the table from a list of `(key, value)` pairs. The
pairs are read as a map in which a later pair for a key replaces an earlier one (`paramMap`). Then:

* `href_eq_error_iff`: the link is refused, as a missing parameter of the route, exactly at the first
  placeholder of the path, left to right, that has no value, and for no other reason;
* `fillFrom`: the path's pieces with each placeholder replaced by its value encoded as a segment and
  all text kept; it has a result exactly when every placeholder has a value (`fillFrom_isSome_iff`),
  so the fill never looks up a key that is not there;
* `href_eq_ok_iff`: the link is the base URL without its trailing slashes (`LinkBase`), then the
  filled path;
* `join_source_pathPieces`: the pieces put back together are the path, so the text between
  placeholders is kept as it stands.
-/

namespace ResourceRoutes

/-! ## The pieces are the path -/

namespace PathPiece

/-- The text a piece stands for in its path. -/
def source : PathPiece → String
  | .text s => s
  | .param n => braceOpen.toString ++ n ++ braceClose.toString

@[simp] theorem toList_source_param (n : String) :
    (PathPiece.param n).source.toList = braceOpen :: n.toList ++ [braceClose] := by
  simp [source]

end PathPiece

/-- The scanner takes one piece off a nonempty path: the piece's source text, then a shorter
rest that it goes on with. -/
theorem splitPlaceholders_cons_source (c : Char) (rest : List Char) :
    ∃ p r', splitPlaceholders (c :: rest) = p :: splitPlaceholders r' ∧ r'.length ≤ rest.length ∧
      c :: rest = p.source.toList ++ r' := by
  rw [splitPlaceholders]
  split_ifs with hc
  · split
    · rename_i hd tl d more hle htake hdrop _
      split_ifs with hclose
      · refine ⟨_, more, rfl, by simp at hle; omega, ?_⟩
        -- the scan took the name and its closing brace off the rest
        have hsplit := (List.takeWhile_append_dropWhile (p := isNameChar) (l := rest)).symm
        rw [htake, hdrop, hclose] at hsplit
        rw [hc, PathPiece.toList_source_param, String.toList_ofList, hsplit]
        simp
      · exact ⟨_, rest, rfl, le_rfl, by simp [PathPiece.source, hc]⟩
    · exact ⟨_, rest, rfl, le_rfl, by simp [PathPiece.source, hc]⟩
  · exact ⟨_, rest, rfl, le_rfl, by simp [PathPiece.source]⟩

theorem join_source_splitPlaceholders (cs : List Char) :
    String.join ((splitPlaceholders cs).map PathPiece.source) = String.ofList cs := by
  -- induction on the length of what is left to scan
  induction hn : cs.length using Nat.strong_induction_on generalizing cs with
  | _ n ih =>
    rcases cs with _ | ⟨c, rest⟩
    · simp [splitPlaceholders]
    · obtain ⟨p, r', hsplit, hlen, hcs⟩ := splitPlaceholders_cons_source c rest
      have hlt : r'.length < n := by simp at hn; omega
      rw [hsplit, List.map_cons, String.join_cons, ih r'.length hlt r' rfl, hcs, String.ofList_append,
        String.ofList_toList]

/-- A path is its pieces put back together: each placeholder in its braces, the text as it is. -/
theorem join_source_pathPieces (path : String) :
    String.join ((pathPieces path).map PathPiece.source) = path := by
  rw [pathPieces, join_source_splitPlaceholders, String.ofList_toList]

theorem mem_placeholders_iff {path k : String} : k ∈ placeholders path ↔ .param k ∈ pathPieces path := by
  simp only [placeholders, List.mem_filterMap]
  constructor
  · rintro ⟨p, hp, hk⟩
    cases p with
    | text s => cases hk
    | param n => cases hk; exact hp
  · exact fun h => ⟨_, h, rfl⟩

/-! ## Parameters -/

/-- The map of the pairs, folded in order: a later pair for a key replaces an earlier one. -/
def paramMap (params : List (String × String)) : String → Option String :=
  params.foldl (fun m p k => if k = p.1 then some p.2 else m k) fun _ => none

private theorem foldl_param_eq (params : List (String × String)) (m : String → Option String)
    (k : String) :
    params.foldl (fun m p k => if k = p.1 then some p.2 else m k) m k =
      ((params.reverse.find? (·.1 == k)).map (·.2)).or (m k) := by
  induction params generalizing m with
  | nil => simp
  | cons p ps ih =>
    rw [List.foldl_cons, ih, List.reverse_cons, List.find?_append, Option.map_or, Option.or_assoc]
    by_cases hk : k = p.1
    · subst hk
      simp
    · have : (p.1 == k) = false := by simpa using Ne.symm hk
      simp [hk, this]

/-- The value of a key is that of its last pair. -/
theorem paramMap_eq (params : List (String × String)) (k : String) :
    paramMap params k = (params.reverse.find? (·.1 == k)).map (·.2) := by
  rw [paramMap, foldl_param_eq, Option.or_none]

/-! ## Filling the path -/

/-- The pieces with each placeholder replaced by its value encoded as one segment and the text
kept as it is; nothing when a placeholder has no value. -/
def fillFrom (M : String → Option String) : List PathPiece → Option String
  | [] => some ""
  | .text s :: ps => (fillFrom M ps).map (s ++ ·)
  | .param k :: ps => (M k).bind fun v => (fillFrom M ps).map (Text.encodeSegment v ++ ·)

section Fill

variable {M : String → Option String}

theorem fillFrom_isSome_iff {ps : List PathPiece} :
    (fillFrom M ps).isSome ↔ ∀ k, .param k ∈ ps → (M k).isSome := by
  induction ps with
  | nil => simp [fillFrom]
  | cons p ps ih =>
    cases p with
    | text s => simp [fillFrom, ih]
    | param k => cases hk : M k <;> simp [fillFrom, hk, ih]

/-- With every value present, the fill is the path with each placeholder's value substituted. -/
theorem fillFrom_eq_join {ps : List PathPiece} (h : ∀ k, .param k ∈ ps → (M k).isSome) :
    fillFrom M ps = some (String.join (ps.map fun
      | .param n => Text.encodeSegment ((M n).getD "")
      | .text s => s)) := by
  induction ps with
  | nil => rfl
  | cons p ps ih =>
    have hrest := ih fun k hk => h k (List.mem_cons_of_mem _ hk)
    cases p with
    | text s => simp [fillFrom, hrest]
    | param k =>
      obtain ⟨v, hv⟩ := Option.isSome_iff_exists.1 (h k List.mem_cons_self)
      simp [fillFrom, hrest, hv]

end Fill

/-! ## The base URL -/

/-- What a link starts with: nothing without a base URL, else the base URL with every trailing
`/` removed. -/
def LinkBase : Option String → String → Prop
  | none, pre => pre = ""
  | some b, pre => ∃ n, b.toList = pre.toList ++ List.replicate n '/' ∧ pre.toList.getLast? ≠ some '/'

/-- The base text `href` computes is the base URL without its trailing slashes. -/
theorem linkBase_some_iff (b pre : String) :
    LinkBase (some b) pre ↔ pre = String.ofList (b.toList.reverse.dropWhile (· == '/')).reverse := by
  constructor
  · rintro ⟨n, hb, hlast⟩
    -- read backwards, the base is the slashes and then the text, which starts with no slash
    have hrev : b.toList.reverse = List.replicate n '/' ++ pre.toList.reverse := by
      rw [hb, List.reverse_append, List.reverse_replicate]
    have hdrop : pre.toList.reverse.dropWhile (· == '/') = pre.toList.reverse := by
      rcases hpre : pre.toList.reverse with _ | ⟨x, xs⟩
      · rfl
      · have hx : x ≠ '/' := fun hx => hlast (by rw [← List.head?_reverse, hpre, hx]; rfl)
        exact List.dropWhile_cons_of_neg (by simpa using hx)
    rw [hrev, List.dropWhile_append_of_pos (by simp [List.mem_replicate]), hdrop, List.reverse_reverse,
      String.ofList_toList]
  · rintro rfl
    set l := b.toList.reverse with hl
    -- what the trim dropped is a run of slashes
    obtain ⟨n, hslashes⟩ : ∃ n, l.takeWhile (· == '/') = List.replicate n '/' :=
      ⟨_, List.eq_replicate_iff.2 ⟨rfl, fun c hc => by simpa using List.mem_takeWhile_imp hc⟩⟩
    refine ⟨n, ?_, ?_⟩
    · calc b.toList = (l.takeWhile (· == '/') ++ l.dropWhile (· == '/')).reverse := by
            rw [List.takeWhile_append_dropWhile, hl, List.reverse_reverse]
        _ = _ := by rw [List.reverse_append, hslashes, List.reverse_replicate, String.toList_ofList]
    · rw [String.toList_ofList, List.getLast?_reverse]
      intro hhead
      have := List.head?_dropWhile_not (· == '/') l
      rw [hhead] at this
      simp at this

/-- The base text of a link is determined by the base URL. -/
theorem LinkBase.unique {o : Option String} {pre pre' : String} (h : LinkBase o pre)
    (h' : LinkBase o pre') : pre = pre' := by
  cases o with
  | none => exact h.trans h'.symm
  | some b => exact ((linkBase_some_iff b pre).1 h).trans ((linkBase_some_iff b pre').1 h').symm

/-! ## The link -/

/-- The first name of a list without a value, as the list split around it. -/
theorem find?_isNone_eq_some_iff {M : String → Option String} {ks : List String} {k : String} :
    ks.find? (fun p => (M p).isNone) = some k ↔
      ∃ pre post, ks = pre ++ k :: post ∧ (∀ p ∈ pre, (M p).isSome) ∧ M k = none := by
  rw [List.find?_eq_some_iff_append]
  constructor
  · rintro ⟨hk, pre, post, rfl, hpre⟩
    exact ⟨pre, post, rfl, fun p hp => by simpa using hpre p hp, by simpa using hk⟩
  · rintro ⟨pre, post, rfl, hpre, hk⟩
    exact ⟨by simpa using hk, pre, post, rfl, fun p hp => by simpa using hpre p hp⟩

section Href

variable {r : Router} {name : String} {e : RouteEntry}

/-- The two outcomes of a link to a route of the table: refused at the first placeholder without
a value, or the base text followed by the filled path. -/
theorem href_cases (he : r.table.get? name = some e) (params : List (String × String)) :
    (∃ k, (placeholders e.path).find? (fun p => (paramMap params p).isNone) = some k ∧
        r.href name params = .error (.missingParam name k)) ∨
    ((placeholders e.path).find? (fun p => (paramMap params p).isNone) = none ∧
      ∃ pre, LinkBase r.options.baseUrl pre ∧
        r.href name params =
          .ok (pre ++ fillPlaceholders e.path fun k => Text.encodeSegment ((paramMap params k).getD ""))) := by
  unfold Router.href
  rw [he]
  simp only [← paramMap_eq]
  split
  · rename_i k hk
    exact .inl ⟨k, hk, rfl⟩
  · rename_i hk
    refine .inr ⟨hk, ?_⟩
    cases hb : r.options.baseUrl with
    | none => exact ⟨"", rfl, by simp⟩
    | some b => exact ⟨_, (linkBase_some_iff b _).2 rfl, rfl⟩

/-- A link is refused only as a missing parameter, and exactly at the first placeholder of the
path without a value. -/
theorem href_eq_error_iff (he : r.table.get? name = some e) (params : List (String × String))
    (err : RouterError) :
    r.href name params = .error err ↔
      ∃ k pre post, err = .missingParam name k ∧ placeholders e.path = pre ++ k :: post ∧
        (∀ p ∈ pre, (paramMap params p).isSome) ∧ paramMap params k = none := by
  rcases href_cases he params with ⟨k, hk, hlink⟩ | ⟨hnone, pre, -, hlink⟩
  · obtain ⟨pre, post, hsplit, hpre, hmiss⟩ := find?_isNone_eq_some_iff.1 hk
    rw [hlink]
    constructor
    · rintro ⟨⟩
      exact ⟨k, pre, post, rfl, hsplit, hpre, hmiss⟩
    · rintro ⟨k', pre', post', rfl, hsplit', hpre', hmiss'⟩
      -- the scan stops at one placeholder only
      have hk' := find?_isNone_eq_some_iff.2 ⟨pre', post', hsplit', hpre', hmiss'⟩
      rw [hk] at hk'
      cases hk'
      rfl
  · rw [hlink]
    refine ⟨fun h => (by cases h), ?_⟩
    rintro ⟨k, pre, post, -, hsplit, hpre, hmiss⟩
    have hk := find?_isNone_eq_some_iff.2 ⟨pre, post, hsplit, hpre, hmiss⟩
    rw [hnone] at hk
    cases hk

/-- With every placeholder's value present, the fill is the path `href` writes. -/
theorem fillFrom_pathPieces {M : String → Option String} {path : String}
    (h : ∀ k, .param k ∈ pathPieces path → (M k).isSome) :
    fillFrom M (pathPieces path) = some (fillPlaceholders path fun k => Text.encodeSegment ((M k).getD "")) :=
  fillFrom_eq_join h

/-- A link is made exactly when the fill has a result, and it is the base text, then the fill. -/
theorem href_eq_ok_iff (he : r.table.get? name = some e) (params : List (String × String)) (link : String) :
    r.href name params = .ok link ↔
      ∃ pre filled, LinkBase r.options.baseUrl pre ∧
        fillFrom (paramMap params) (pathPieces e.path) = some filled ∧ link = pre ++ filled := by
  rcases href_cases he params with ⟨k, hk, hlink⟩ | ⟨hnone, pre, hpre, hlink⟩
  · rw [hlink]
    refine ⟨fun h => (by cases h), ?_⟩
    rintro ⟨-, filled, -, hfill, -⟩
    -- a fill with a result has a value for the placeholder the scan found without one
    obtain ⟨-, -, -, -, hmiss⟩ := find?_isNone_eq_some_iff.1 hk
    have hsome := fillFrom_isSome_iff.1 (Option.isSome_iff_exists.2 ⟨filled, hfill⟩) k
      (mem_placeholders_iff.1 (List.mem_of_find?_eq_some hk))
    rw [hmiss] at hsome
    cases hsome
  · have hall : ∀ k, .param k ∈ pathPieces e.path → (paramMap params k).isSome := fun k hk =>
      Option.isSome_iff_ne_none.2 (by simpa using List.find?_eq_none.1 hnone k (mem_placeholders_iff.2 hk))
    rw [hlink]
    constructor
    · rintro ⟨⟩
      exact ⟨pre, _, hpre, fillFrom_pathPieces hall, rfl⟩
    · rintro ⟨pre', filled, hpre', hfill, rfl⟩
      rw [fillFrom_pathPieces hall] at hfill
      cases hfill
      rw [hpre.unique hpre']

end Href

/-- A link to a route of the table, for every list of pairs read as the map in which a later pair
for a key replaces an earlier one. The link is refused, as a missing parameter of the route,
exactly at the first placeholder of the path, left to right, without a value, and for no other
reason; with every placeholder's value present the fill finds each key; a link is the base URL
without its trailing slashes followed by the path with each placeholder replaced by its value
encoded as one segment, the text between placeholders kept, since the pieces put back together
are the path. The encoding writes each escaped byte as `%` and its two hex digits in upper case
and every other byte as its character; the encoded text holds nothing that ends or splits a
segment, and decoding it gives the value back. -/
theorem href_fills_placeholders (r : Router) (name : String) (e : RouteEntry)
    (he : r.table.get? name = some e) (params : List (String × String)) :
    (∀ err, r.href name params = .error err ↔
      ∃ k pre post, err = .missingParam name k ∧ placeholders e.path = pre ++ k :: post ∧
        (∀ p ∈ pre, (paramMap params p).isSome) ∧ paramMap params k = none) ∧
    ((∀ p ∈ placeholders e.path, (paramMap params p).isSome) →
      (fillFrom (paramMap params) (pathPieces e.path)).isSome) ∧
    (∀ link, r.href name params = .ok link ↔
      ∃ pre filled, LinkBase r.options.baseUrl pre ∧
        fillFrom (paramMap params) (pathPieces e.path) = some filled ∧ link = pre ++ filled) ∧
    String.join ((pathPieces e.path).map PathPiece.source) = e.path ∧
    (∀ v, (Text.encodeSegment v).toList = v.toUTF8.toList.flatMap (fun b =>
        if Text.SegmentEscaped b then
          ['%', (Nat.digitChar (b.toNat / 16)).toUpper, (Nat.digitChar (b.toNat % 16)).toUpper]
        else [Char.ofNat b.toNat]) ∧
      Text.decodeSegment (Text.encodeSegment v) = some v ∧
      ∀ c ∈ (Text.encodeSegment v).toList, Text.SegmentChar c) := by
  refine ⟨href_eq_error_iff he params, fun hall => ?_, href_eq_ok_iff he params, join_source_pathPieces e.path,
    fun v => ⟨Text.encodeSegment_toList v, Text.decodeSegment_encodeSegment v,
      fun c hc => Text.segmentChar_of_mem_encodeSegment hc⟩⟩
  exact fillFrom_isSome_iff.2 fun k hk => hall k (mem_placeholders_iff.2 hk)

/-- On a built router with a base URL ending in two slashes, the item route of a collection links
with the later of two values for its key, encoded: the slash and the two bytes of `é` escaped. -/
theorem user_link_encodes_value :
    let r := (Router.withOptions ⟨none, some "https://api.test//"⟩).runOps
      [.script [.child .collection "users" none
        [.conventional .index [], .items "id" [.conventional .show []] []] []], .build]
    r.table.get? "users[id].show" = some ⟨"users[id].show", "/users/\x7bid\x7d", 4⟩ ∧
      r.href "users[id].show" [("id", "a b"), ("id", "x/é")] = .ok "https://api.test/users/x%2F%C3%A9" := by
  intro r
  have he : r.table.get? "users[id].show" = some ⟨"users[id].show", "/users/\x7bid\x7d", 4⟩ := by
    decide +kernel
  have hbase : LinkBase r.options.baseUrl "https://api.test" := by
    have hurl : r.options.baseUrl = some "https://api.test//" := by decide +kernel
    rw [hurl]
    exact ⟨2, by decide, by decide⟩
  have hfill : fillFrom (paramMap [("id", "a b"), ("id", "x/é")]) (pathPieces "/users/\x7bid\x7d") =
      some "/users/x%2F%C3%A9" := by
    decide +kernel
  exact ⟨he, ((href_fills_placeholders r _ _ he _).2.2.1 _).2 ⟨_, _, hbase, hfill, by decide⟩⟩

end ResourceRoutes
