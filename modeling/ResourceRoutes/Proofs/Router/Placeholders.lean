import Mathlib.Data.List.TakeWhile
import ResourceRoutes.Proofs.Router.Phase
import ResourceRoutes.Proofs.Router.Index
import ResourceRoutes.Http.Host

/-!
# Placeholders of built paths

The walk writes the items node of a chain into the path as the segment `{name}`; `href` and the
server host read the path back with the placeholder scanner (`splitPlaceholders`). The two agree
when the root path and every named segment hold no brace and every items name is a proper
placeholder name (nonempty, without braces or slashes):

* `hygienic_iff`: the hygiene is a check of each node (`Node.hygienic`), so it is decided on a
  tree at hand;
* `Written`: a path read by the scanner, as text characters and placeholders, with the names
  found and the path the server mounts (each `{n}` written `:n`); it is closed under joining
  paths (`Written.joinPath`);
* `written_along`: the path a chain of links gives is written with the chain's items names,
  and mounts as the path the chain gives with `:name` for each items segment;
* `placeholders_are_items_names`: on every tree built by the builder, the placeholders of a
  route's path are its items names from the root down, the server mounts each as `:name`, and a
  link to a built route can be made exactly when every one of them has a value. Without the
  hygiene the agreement breaks: an items name that is not proper is never read back as itself,
  and a segment `{n}` is read as a placeholder that no items node stands for.
-/

namespace ResourceRoutes

/-! ## The scanner, one leading shape at a time -/

/-- A character other than an opening brace is text. -/
theorem splitPlaceholders_text {c : Char} (hc : c ≠ braceOpen) (rest : List Char) :
    splitPlaceholders (c :: rest) = .text c.toString :: splitPlaceholders rest := by
  rw [splitPlaceholders, if_neg hc]

/-- A proper name between braces is a placeholder. -/
theorem splitPlaceholders_param {n : List Char} (hn : n ≠ []) (hname : ∀ c ∈ n, isNameChar c = true)
    (rest : List Char) :
    splitPlaceholders (braceOpen :: (n ++ braceClose :: rest)) =
      .param (String.ofList n) :: splitPlaceholders rest := by
  have hclose : isNameChar braceClose = false := by decide
  have ht : (n ++ braceClose :: rest).takeWhile isNameChar = n := by
    rw [List.takeWhile_append_of_pos hname, List.takeWhile_cons_of_neg (by simp [hclose]),
      List.append_nil]
  have hd : (n ++ braceClose :: rest).dropWhile isNameChar = braceClose :: rest := by
    rw [List.dropWhile_append_of_pos hname, List.dropWhile_cons_of_neg (by simp [hclose])]
  rw [splitPlaceholders, if_pos rfl]
  split
  · rename_i name d more _ h1 h2 _
    rw [ht] at h1; rw [hd] at h2
    cases h2; subst h1
    rw [if_pos rfl]
  · -- the scan finds the name and the closing brace, so the fallback case cannot happen
    rename_i h
    obtain ⟨head, tail, rfl⟩ := List.exists_cons_of_ne_nil hn
    exact (h head tail braceClose rest (by simp; omega) ht hd (proof_irrel_heq _ _)).elim

/-! ## Paths the scanner reads back -/

/-- Text that holds no brace. -/
def braceFree (s : String) : Bool := s.toList.all fun c => c != braceOpen && c != braceClose

/-- A name that reads back whole from between braces: nonempty, without braces or slashes. -/
def properName (n : String) : Bool := !n.toList.isEmpty && n.toList.all isNameChar

/-- A path, as characters, that the scanner reads as text characters and placeholders of proper
names: the names it finds, and the path the server mounts, with each `{n}` written `:n`. -/
inductive Written : List Char → List String → List Char → Prop
  | nil : Written [] [] []
  | text {c : Char} {cs : List Char} {P : List String} {ms : List Char} :
      c ≠ braceOpen → c ≠ braceClose → Written cs P ms → Written (c :: cs) P (c :: ms)
  | param {n : String} {cs : List Char} {P : List String} {ms : List Char} :
      properName n = true → Written cs P ms →
      Written (braceOpen :: (n.toList ++ braceClose :: cs)) (n :: P) (':' :: (n.toList ++ ms))

namespace Written

variable {cs cs' ms ms' : List Char} {P Q : List String}

theorem append (h : Written cs P ms) (h' : Written cs' Q ms') : Written (cs ++ cs') (P ++ Q) (ms ++ ms') := by
  induction h with
  | nil => exact h'
  | text ho hc _ ih => exact .text ho hc ih
  | param hn _ ih => simpa using Written.param hn ih

/-- Text without braces is read as text, and mounted as it is. -/
theorem of_braceFree {s : String} (h : braceFree s = true) : Written s.toList [] s.toList := by
  unfold braceFree at h
  generalize s.toList = cs at h ⊢
  induction cs with
  | nil => exact .nil
  | cons c cs ih =>
    simp only [List.all_cons, Bool.and_eq_true, bne_iff_ne, ne_eq] at h
    exact .text h.1.1 h.1.2 (ih h.2)

/-- A placeholder of a proper name is found, and mounted as `:name`. -/
theorem placeholder {n : String} (h : properName n = true) :
    Written ("\x7b" ++ n ++ "\x7d").toList [n] (":" ++ n).toList := by
  have := Written.param h .nil
  simpa [braceOpen, braceClose] using this

/-- A written path is `/` exactly when it mounts as `/`. -/
theorem eq_slash_iff (h : Written cs P ms) : cs = ['/'] ↔ ms = ['/'] := by
  cases h with
  | nil => simp
  | @text c cs₀ P₀ ms₀ _ _ h' =>
    -- one character of text: the rest is empty on both sides or on neither
    have hnil : cs₀ = [] ↔ ms₀ = [] := by cases h' <;> simp
    simp [hnil]
  | param => simp [braceOpen]

/-- The path `/`, read as text. -/
theorem slash : Written ("/" : String).toList [] ("/" : String).toList :=
  .text (by decide) (by decide) .nil

/-- Joining written paths gives a written path, with the names of both and the join of the
mounted paths. -/
theorem joinPath {base seg bm sm : String} (hb : Written base.toList P bm.toList)
    (hs : Written seg.toList Q sm.toList) :
    Written (ResourceRoutes.joinPath base seg).toList (P ++ Q) (ResourceRoutes.joinPath bm sm).toList := by
  have hslash : base = "/" ↔ bm = "/" := by
    rw [← String.toList_inj, ← @String.toList_inj bm]
    exact hb.eq_slash_iff
  unfold ResourceRoutes.joinPath
  by_cases h : base = "/"
  · -- below the root the segment follows the slash directly, on both sides
    have hm : bm = "/" := hslash.1 h
    subst h; subst hm
    have hP : P = [] := by cases hb with | text _ _ h' => cases h'; rfl
    subst hP
    simpa [String.toList_append] using slash.append hs
  · have hm : ¬ bm = "/" := mt hslash.2 h
    simp only [beq_iff_eq, h, hm, if_false, String.toList_append, List.append_assoc]
    simpa only [List.nil_append] using hb.append (slash.append hs)

/-- The scanner finds the names of a written path. -/
theorem placeholders_eq {s : String} {m : List Char} (h : Written s.toList P m) : placeholders s = P := by
  unfold placeholders pathPieces
  generalize s.toList = cs at h ⊢
  induction h with
  | nil => rw [splitPlaceholders]; rfl
  | text ho _ _ ih => rw [splitPlaceholders_text ho]; exact ih
  | param hn _ ih =>
    rename_i n _ _ _
    simp only [properName, Bool.and_eq_true, Bool.not_eq_true', List.isEmpty_eq_false_iff,
      List.all_eq_true] at hn
    rw [splitPlaceholders_param hn.1 hn.2, String.ofList_toList]
    simp [ih]

/-- The server mounts a written path as its mounted form. -/
theorem mountedPath_eq {s : String} {m : List Char} (h : Written s.toList P m) :
    Http.ServerHost.mountedPath s = String.ofList m := by
  unfold Http.ServerHost.mountedPath fillPlaceholders pathPieces
  generalize s.toList = cs at h ⊢
  induction h with
  | nil => rw [splitPlaceholders]; rfl
  | text ho _ _ ih =>
    rw [splitPlaceholders_text ho, List.map_cons, String.join_cons, ih, String.ofList_cons]
    rfl
  | param hn _ ih =>
    rename_i n _ _ _
    simp only [properName, Bool.and_eq_true, Bool.not_eq_true', List.isEmpty_eq_false_iff,
      List.all_eq_true] at hn
    rw [splitPlaceholders_param hn.1 hn.2, List.map_cons, String.join_cons, ih, String.ofList_toList,
      String.ofList_cons, String.ofList_append, String.ofList_toList]
    simp [String.append_assoc]

end Written

/-- The scanner takes one piece off a nonempty path and goes on with a shorter rest; a
placeholder it takes has a proper name. -/
theorem splitPlaceholders_cons_cases (c : Char) (rest : List Char) :
    ∃ p r', splitPlaceholders (c :: rest) = p :: splitPlaceholders r' ∧ r'.length ≤ rest.length ∧
      ∀ m, p = .param m → properName m = true := by
  rw [splitPlaceholders]
  split_ifs with hc
  · split
    · rename_i hd tl d more hle htake hdrop _
      split_ifs with hclose
      · refine ⟨_, more, rfl, by simp at hle; omega, ?_⟩
        rintro m ⟨⟩
        -- the name is the nonempty run of name characters after the brace
        have hall : ∀ x ∈ hd :: tl, isNameChar x = true := fun x hx =>
          List.mem_takeWhile_imp (l := rest) (by rw [htake]; exact hx)
        simp only [properName, String.toList_ofList, Bool.and_eq_true, Bool.not_eq_true',
          List.isEmpty_eq_false_iff, List.all_eq_true]
        exact ⟨by simp, hall⟩
      · exact ⟨_, rest, rfl, le_rfl, by rintro m ⟨⟩⟩
    · exact ⟨_, rest, rfl, le_rfl, by rintro m ⟨⟩⟩
  · exact ⟨_, rest, rfl, le_rfl, by rintro m ⟨⟩⟩

/-- Every name the scanner finds is proper: nonempty, without braces or slashes. -/
theorem properName_of_mem_placeholders {s m : String} (h : m ∈ placeholders s) : properName m = true := by
  unfold placeholders pathPieces at h
  generalize s.toList = cs at h
  -- induction on the length of what is left to scan
  induction hn : cs.length using Nat.strong_induction_on generalizing cs with
  | _ n ih =>
    rcases cs with _ | ⟨c, rest⟩
    · simp [splitPlaceholders] at h
    · obtain ⟨p, r', hsplit, hlen, hp⟩ := splitPlaceholders_cons_cases c rest
      rw [hsplit, List.filterMap_cons] at h
      have hlt : r'.length < n := by simp at hn; omega
      rcases p with t | k <;> dsimp only at h
      · exact ih r'.length hlt r' h rfl
      · rcases List.mem_cons.1 h with rfl | h'
        · exact hp _ rfl
        · exact ih r'.length hlt r' h' rfl

/-! ## Chains of links, read by the scanner -/

namespace Link

/-- The path below a link to `child` when an items segment is written `seg name` rather than
`{name}`; a named link adds what it always adds. -/
def pathAs (seg : String → String) (l : Link) (child : Node) (base : String) : String :=
  match l with
  | .named _ => l.path child base
  | .items => joinPath base (seg child.name)

/-- The items name a link adds: the items node's own name. -/
def itemsNames (l : Link) (child : Node) : List String :=
  match l with
  | .named _ => []
  | .items => [child.name]

theorem pathAs_braces (l : Link) (child : Node) (base : String) :
    l.pathAs (fun n => "\x7b" ++ n ++ "\x7d") child base = l.path child base := by
  cases l <;> rfl

end Link

/-- The hygiene of one node, as a check: a named segment holds no brace, and an items node has a
proper name. -/
def Node.hygienic (n : Node) : Bool :=
  n.segment.all braceFree && (n.kind? != some .collectionItem || properName n.name)

namespace Tree

/-- The items names a chain of links from node `id` passes, from the start down. -/
def itemsAlong (t : Tree) (id : Nat) : List Link → List String
  | [] => []
  | l :: ls =>
    match (t.node? id).bind (·.target? l) with
    | some c =>
      match t.node? c with
      | some child => l.itemsNames child ++ t.itemsAlong c ls
      | none => []
    | none => []

/-- The path a chain of links gives from `path` at node `id`, each items segment written
`seg name`. -/
def pathAlong (t : Tree) (seg : String → String) (id : Nat) (path : String) : List Link → Option String
  | [] => some path
  | l :: ls =>
    match (t.node? id).bind (·.target? l) with
    | some c =>
      match t.node? c with
      | some child => t.pathAlong seg c (l.pathAs seg child path) ls
      | none => none
    | none => none

variable {t : Tree}

/-- The path of a chain's descent is the path along it with items segments in braces. -/
theorem descend_path (id : Nat) (name path : String) (ls : List Link) :
    (t.descend id name path ls).map (·.path) = t.pathAlong (fun n => "\x7b" ++ n ++ "\x7d") id path ls := by
  induction ls generalizing id name path with
  | nil => rfl
  | cons l ls ih =>
    unfold descend pathAlong
    rcases (t.node? id).bind (·.target? l) with _ | c
    · rfl
    · dsimp only
      rcases t.node? c with _ | child
      · rfl
      · dsimp only
        rw [ih, Link.pathAs_braces]

/-- The hygiene the agreement needs: no named segment holds a brace, and every items node has a
proper name. -/
structure Hygienic (t : Tree) : Prop where
  segments : ∀ {i n s}, t.node? i = some n → n.segment = .named s → braceFree s = true
  items : ∀ {i n}, t.node? i = some n → n.kind? = some .collectionItem → properName n.name = true

/-- A tree is hygienic exactly when each of its nodes passes the check. -/
theorem hygienic_iff : t.Hygienic ↔ ∀ n ∈ t.nodes.toList, n.hygienic = true := by
  simp only [Node.hygienic, Bool.and_eq_true, Segment.all_eq_true, Bool.or_eq_true, bne_iff_ne,
    ne_eq]
  rw [← forall_segment_items_iff]
  exact ⟨fun hh => ⟨hh.segments, hh.items⟩, fun ⟨hs, hi⟩ => ⟨hs, hi⟩⟩

instance (t : Tree) : Decidable t.Hygienic := decidable_of_iff _ hygienic_iff.symm

/-- One link of a hygienic tree keeps a path written: a named link adds brace-free text, the
items link a placeholder of the items node's proper name. -/
theorem Hygienic.written_link (hh : t.Hygienic) (hwf : t.WF) {id c : Nat} {n child : Node}
    {l : Link} (hn : t.node? id = some n) (hc : n.target? l = some c) (hchild : t.node? c = some child)
    {path pm : String} {P : List String} (hw : Written path.toList P pm.toList) :
    Written (l.path child path).toList (P ++ l.itemsNames child) (l.pathAs (":" ++ ·) child pm).toList := by
  cases l with
  | named k =>
    simp only [Link.pathAs, Link.itemsNames, List.append_nil, Link.path]
    split
    · exact hw
    · split
      · exact hw
      · rename_i s hs
        simpa using hw.joinPath (Written.of_braceFree (hh.segments hchild hs))
  | items =>
    obtain ⟨c', hc', -, hk⟩ := hwf.items hn hc
    rw [hchild] at hc'; cases hc'
    exact hw.joinPath (Written.placeholder (hh.items hchild hk))

/-- Along a chain of a hygienic tree a written path stays written: its names gain the chain's
items names, and it mounts as the path along the chain with `:name` for each items segment. -/
theorem Hygienic.written_along (hh : t.Hygienic) (hwf : t.WF) (ls : List Link) :
    ∀ {id : Nat} {path pm p : String} {P : List String}, Written path.toList P pm.toList →
      t.pathAlong (fun n => "\x7b" ++ n ++ "\x7d") id path ls = some p →
      ∃ q, t.pathAlong (":" ++ ·) id pm ls = some q ∧ Written p.toList (P ++ t.itemsAlong id ls) q.toList := by
  induction ls with
  | nil =>
    intro id path pm p P hw hp
    cases hp
    exact ⟨pm, rfl, by simpa [itemsAlong] using hw⟩
  | cons l ls ih =>
    intro id path pm p P hw hp
    unfold pathAlong at hp ⊢
    unfold itemsAlong
    rcases ht : (t.node? id).bind (·.target? l) with _ | c <;> rw [ht] at hp
    · cases hp
    · dsimp only at hp ⊢
      rcases hchild : t.node? c with _ | child <;> rw [hchild] at hp
      · cases hp
      · dsimp only at hp ⊢
        obtain ⟨n, hn, hc⟩ := Option.bind_eq_some_iff.1 ht
        rw [Link.pathAs_braces] at hp
        obtain ⟨q, hq, hwq⟩ := ih (hh.written_link hwf hn hc hchild hw) hp
        exact ⟨q, hq, by simpa using hwq⟩

end Tree

/-! ## Links to built routes -/

/-- A link to a route in the table can be made exactly when every placeholder of its path has
a value among the parameters. -/
theorem Router.href_ok_iff {r : Router} {name : String} {e : RouteEntry} (h : r.table.get? name = some e)
    (params : List (String × String)) :
    (∃ link, r.href name params = .ok link) ↔ ∀ p ∈ placeholders e.path, ∃ x, (p, x) ∈ params := by
  -- a key has a value exactly when some pair names it
  have hval : ∀ k, ((params.reverse.find? (·.1 == k)).map (·.2)).isNone = false ↔ ∃ x, (k, x) ∈ params := by
    intro k
    rw [Option.isNone_map, Option.isNone_eq_false_iff, List.find?_isSome]
    simp
  unfold href
  rw [h]; dsimp only
  split
  · -- a placeholder without a value: the link is refused
    rename_i missing hf
    have hmiss := List.find?_some hf
    constructor
    · rintro ⟨_, hl⟩
      cases hl
    · intro hall
      rw [← Bool.not_eq_false, hval] at hmiss
      exact (hmiss (hall missing (List.mem_of_find?_eq_some hf))).elim
  · rename_i hf
    have hall := List.find?_eq_none.1 hf
    constructor
    · intro _ p hp
      exact (hval p).1 (by simpa using hall p hp)
    · intro _
      split <;> exact ⟨_, rfl⟩

/-- A route reached by a chain from the root is listed by the walk. -/
theorem Tree.mem_visit_of_descend {t : Tree} (hwf : t.WF) {b : String} {ls : List Link} {v : Visited}
    (hd : t.descend 0 "" b ls = some v) (hr : t.isRoute v.node = true) : v ∈ t.visit 0 "" b := by
  obtain ⟨es, hes, hsound, -, hall, -⟩ := Tree.visit_root_spec hwf b
  have hfollow : t.follow 0 ls = some v.node := by
    rw [← Tree.descend_node hwf, hd]; rfl
  obtain ⟨e, he, rfl⟩ := List.mem_map.1 (hall ls v.node hfollow hr)
  have hv : e.2 = v := by
    have := (hsound e he).1
    rw [hd] at this
    exact (Option.some.inj this).symm
  rw [← hes, ← hv]
  exact List.mem_map_of_mem he

/-- A built router's table holds the entries of its walk. -/
theorem Router.Consistent.entries_of_built {r : Router} (hc : r.Consistent) (hb : r.phase = .built) :
    r.table.entries = r.walk.map RouteTable.entryOf := by
  rcases r.build_cases with ⟨e, hbe⟩ | ⟨t, -, hv, hbt⟩
  · have := congrArg Prod.snd (hc.built hb)
    rw [hbe] at this; cases this
  · have := congrArg Prod.snd (hc.built hb)
    rw [hbt] at this
    cases this
    exact (RouteTable.ofVisited_eq_ok hv).2.1

/-! ## Writer and readers agree -/

/-- On every tree the builder makes, with a brace-free root path, brace-free named segments and
proper items names: the placeholders of a route's path are the items names of its chain from the
root down, the server mounts the path with `:name` for each items segment, and once the router is
built a link to the route can be made exactly when every one of those names has a value. Without
the hygiene the agreement fails: a name that is not proper is never read back from any path, and
a named segment `{n}` reads as a placeholder that no items node stands for. -/
theorem placeholders_are_items_names :
    (∀ (o : Options) (ops : List Op),
      let r := (Router.withOptions o).runOps ops
      braceFree r.options.rootPath = true → r.tree.Hygienic →
      ∀ ls v, r.tree.descend 0 "" r.options.rootPath ls = some v → r.tree.isRoute v.node = true →
        placeholders v.path = r.tree.itemsAlong 0 ls ∧
        some (Http.ServerHost.mountedPath v.path) = r.tree.pathAlong (":" ++ ·) 0 r.options.rootPath ls ∧
        (r.phase = .built → ∀ params : List (String × String),
          (∃ link, r.href v.name params = .ok link) ↔
            ∀ n ∈ r.tree.itemsAlong 0 ls, ∃ x, (n, x) ∈ params)) ∧
    (∀ (child : Node) (base : String), properName child.name = false →
      child.name ∉ placeholders (Link.items.path child base)) ∧
    (∀ (k : Nat) (child : Node) (base n : String), braceFree base = true → properName n = true →
      child.isTransparent = false → child.segment = .named ("\x7b" ++ n ++ "\x7d") →
      placeholders ((Link.named k).path child base) = [n] ∧ (Link.named k).itemsNames child = []) := by
  refine ⟨fun o ops => ?_, fun child base hn hmem => ?_, fun k child base n hb hn ht hs => ?_⟩
  · intro r hroot hh ls v hd hr
    have hwf : r.tree.WF := runOps_wf o ops
    have hpath : r.tree.pathAlong (fun n => "\x7b" ++ n ++ "\x7d") 0 r.options.rootPath ls = some v.path := by
      rw [← Tree.descend_path, hd]; rfl
    obtain ⟨q, hq, hw⟩ := hh.written_along hwf ls (Written.of_braceFree hroot) hpath
    have hplace : placeholders v.path = r.tree.itemsAlong 0 ls := by
      simpa using hw.placeholders_eq
    refine ⟨hplace, by rw [hq, hw.mountedPath_eq, String.ofList_toList], fun hb params => ?_⟩
    -- a built router's table holds the walk, and the walk lists the route
    have hc : r.Consistent := consistent_runOps (consistent_withOptions o) ops
    have hentry : RouteTable.entryOf v ∈ r.table.entries := by
      rw [hc.entries_of_built hb]
      exact List.mem_map_of_mem (Tree.mem_visit_of_descend hwf hd hr)
    have hget : r.table.get? v.name = some (RouteTable.entryOf v) := hc.indexed.get?_of_mem hentry
    rw [Router.href_ok_iff hget, ← hplace]
    rfl
  · exact absurd (properName_of_mem_placeholders hmem) (by simp [hn])
  · refine ⟨?_, rfl⟩
    have hw := (Written.of_braceFree hb).joinPath (Written.placeholder hn)
    simp only [Link.path, ht, hs, Bool.false_eq_true, if_false]
    simpa using hw.placeholders_eq

/-- A router under `/api` whose collection of users has an item route and, under its items node,
a collection of posts with items of its own. It meets the hygiene, and its post route, reached
through both items nodes, reads both items names back as its placeholders; the server mounts
each as `:name`. -/
theorem api_router_placeholders :
    let r := (Router.withOptions ⟨some "/api", none⟩).runOps
      [.script [.child .collection "users" none
        [.conventional .index [],
         .items "user" [.conventional .show [],
           .child .collection "posts" none [.items "post" [.conventional .show []] []] []] []] []]]
    let ls : List Link := [.named 0, .items, .named 1, .items, .named 0]
    let v : Visited :=
      ⟨"users[user].posts[post].show", "/api/users/\x7buser\x7d/posts/\x7bpost\x7d", 7⟩
    braceFree r.options.rootPath = true ∧ r.tree.Hygienic ∧
      r.tree.descend 0 "" r.options.rootPath ls = some v ∧ r.tree.isRoute v.node = true ∧
      r.tree.itemsAlong 0 ls = ["user", "post"] ∧ placeholders v.path = r.tree.itemsAlong 0 ls ∧
      some (Http.ServerHost.mountedPath v.path) = r.tree.pathAlong (":" ++ ·) 0 r.options.rootPath ls ∧
      r.tree.pathAlong (":" ++ ·) 0 r.options.rootPath ls = some "/api/users/:user/posts/:post" := by
  intro r ls v
  have hroot : braceFree r.options.rootPath = true := by decide
  have hh : r.tree.Hygienic := by decide +kernel
  have hd : r.tree.descend 0 "" r.options.rootPath ls = some v := by decide +kernel
  have hr : r.tree.isRoute v.node = true := by decide +kernel
  obtain ⟨hplace, hmount, -⟩ := placeholders_are_items_names.1 _ _ hroot hh ls v hd hr
  exact ⟨hroot, hh, hd, hr, by decide +kernel, hplace, hmount, by decide +kernel⟩

end ResourceRoutes
