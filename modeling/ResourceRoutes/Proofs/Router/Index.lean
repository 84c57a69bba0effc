import Mathlib.Data.Finset.Card
import ResourceRoutes.Proofs.Router.Build

/-!
# The name index of a route table

A route table keeps its routes twice: as entries in walk order, and as an index from each name
to the position of its entry. Every table that a run of inserts builds from the empty one
(`RouteTable.Reachable`) keeps the two in lockstep (`Reachable.indexed`), and the reads follow
from that:

* `Indexed.position?_eq_some_iff` (beside the insert equation): the index sends a name to a
  position exactly when the entry there has that name;
* `Indexed.keys_eq`: the index has one key per entry, in entry order;
* `Indexed.get?_eq_some_iff`: a lookup finds the one entry of its name, so the position it reads
  is never out of range;
* `Indexed.size_eq_card`: the table holds as many routes as distinct names.

`inserted_table_index_lockstep` puts these together with the insert equation.
-/

namespace ResourceRoutes

namespace RouteTable

/-- The tables a run of inserts builds from the empty table. A refused insert leaves its table
as it was, so only accepted inserts make new tables. -/
inductive Reachable : RouteTable → Prop
  | empty : Reachable empty
  | insert {t t' : RouteTable} {v : Visited} : Reachable t → t.insert v = .ok t' → Reachable t'

variable {t : RouteTable}

/-- An accepted insert keeps a table indexed. -/
theorem Indexed.of_insert (ht : t.Indexed) {v : Visited} {t' : RouteTable}
    (h : t.insert v = .ok t') : t'.Indexed := by
  rw [ht.insert_eq] at h
  split_ifs at h with hv
  cases h
  exact ht.append hv

theorem Reachable.indexed (ht : t.Reachable) : t.Indexed := by
  induction ht with
  | empty => exact indexed_empty
  | insert _ h ih => exact ih.of_insert h

/-- The keys of the index are the names of the entries, in entry order. -/
theorem Indexed.keys_eq (ht : t.Indexed) : t.byName.map Prod.fst = t.names := by
  rw [ht.byName, List.zipIdx_map_fst]

theorem mem_of_get? {n : String} {e : RouteEntry} (h : t.get? n = some e) : e ∈ t.entries := by
  obtain ⟨i, -, he⟩ := Option.bind_eq_some_iff.1 h
  exact List.mem_of_getElem? he

/-- The entry an indexed table gives for a name has that name. -/
theorem Indexed.name_of_get? (ht : t.Indexed) {n : String} {e : RouteEntry} (h : t.get? n = some e) :
    e.name = n := by
  obtain ⟨i, hi, he⟩ := Option.bind_eq_some_iff.1 h
  have hname := ht.position?_eq_some_iff.1 hi
  rw [names, List.getElem?_map, he] at hname
  exact Option.some.inj hname

/-- An indexed table gives each of its entries for the entry's name. -/
theorem Indexed.get?_of_mem (ht : t.Indexed) {e : RouteEntry} (he : e ∈ t.entries) :
    t.get? e.name = some e := by
  obtain ⟨i, hi⟩ := List.mem_iff_getElem?.1 he
  have hp : t.position? e.name = some i := by
    rw [ht.position?_eq_some_iff, names, List.getElem?_map, hi, Option.map_some]
  rw [get?, hp, Option.bind_some, hi]

/-- A lookup in an indexed table finds the one entry of its name. -/
theorem Indexed.get?_eq_some_iff (ht : t.Indexed) {n : String} {e : RouteEntry} :
    t.get? n = some e ↔ e ∈ t.entries ∧ e.name = n := by
  constructor
  · intro h
    exact ⟨mem_of_get? h, ht.name_of_get? h⟩
  · rintro ⟨he, rfl⟩
    exact ht.get?_of_mem he

/-- An indexed table holds as many routes as distinct names. -/
theorem Indexed.size_eq_card (ht : t.Indexed) : t.size = t.names.toFinset.card := by
  rw [List.toFinset_card_of_nodup ht.nodup, names, List.length_map, size]

/-- Every table that inserts build from the empty table keeps its index in lockstep with its
entries: the index gives a name the position of the entry of that name, the names are distinct,
and the index has one key per entry. An insert refuses a name the table has, and otherwise
appends the route and indexes it at the end. A lookup finds the one entry of its name, a name is
contained exactly when it is among the names, and the table holds as many routes as distinct
names. -/
theorem inserted_table_index_lockstep {t : RouteTable} (ht : t.Reachable) :
    (∀ n i, t.position? n = some i ↔ t.names[i]? = some n) ∧
    t.names.Nodup ∧ (t.byName.map Prod.fst).Nodup ∧ t.byName.length = t.size ∧
    (∀ v : Visited, t.insert v = if v.name ∈ t.names then .error (.duplicateRoute v.name)
      else .ok ⟨t.entries ++ [entryOf v], t.byName ++ [(v.name, t.size)]⟩) ∧
    (∀ n e, t.get? n = some e ↔ e ∈ t.entries ∧ e.name = n) ∧
    (∀ n, t.contains n = true ↔ n ∈ t.names) ∧
    t.size = t.names.toFinset.card := by
  have hi := ht.indexed
  have hkeys : t.byName.length = t.size := by
    rw [← List.length_map Prod.fst, hi.keys_eq, names, List.length_map, size]
  exact ⟨fun _ _ => hi.position?_eq_some_iff, hi.nodup, hi.keys_eq ▸ hi.nodup, hkeys,
    hi.insert_eq, fun _ _ => hi.get?_eq_some_iff, hi.contains_iff, hi.size_eq_card⟩

/-- The table of a collection's index route and item route, inserted one after the other. -/
theorem users_table_index_lockstep :
    let t : RouteTable := ⟨[⟨"users.index", "/users", 1⟩, ⟨"users[id].show", "/users/\x7bid\x7d", 2⟩],
      [("users.index", 0), ("users[id].show", 1)]⟩
    t.Reachable ∧
      ((∀ n i, t.position? n = some i ↔ t.names[i]? = some n) ∧
      t.names.Nodup ∧ (t.byName.map Prod.fst).Nodup ∧ t.byName.length = t.size ∧
      (∀ v : Visited, t.insert v = if v.name ∈ t.names then .error (.duplicateRoute v.name)
        else .ok ⟨t.entries ++ [entryOf v], t.byName ++ [(v.name, t.size)]⟩) ∧
      (∀ n e, t.get? n = some e ↔ e ∈ t.entries ∧ e.name = n) ∧
      (∀ n, t.contains n = true ↔ n ∈ t.names) ∧
      t.size = t.names.toFinset.card) := by
  intro t
  have h₁ : empty.insert ⟨"users.index", "/users", 1⟩ =
      .ok ⟨[⟨"users.index", "/users", 1⟩], [("users.index", 0)]⟩ := by decide +kernel
  have h₂ : RouteTable.insert ⟨[⟨"users.index", "/users", 1⟩], [("users.index", 0)]⟩
      ⟨"users[id].show", "/users/\x7bid\x7d", 2⟩ = .ok t := by decide +kernel
  have hreach : t.Reachable := .insert (.insert .empty h₁) h₂
  exact ⟨hreach, inserted_table_index_lockstep hreach⟩

end RouteTable

end ResourceRoutes
