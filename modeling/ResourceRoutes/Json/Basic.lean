/-!
# JSON documents

The opaque values a router carries (bindings, schemas, metadata, controller arguments) are JSON
documents. A number keeps the kind it was read as: an integer in the 64-bit range, or a finite
double. An object keeps its members sorted by key with each key once, so that two documents with
the same members are one value and every printer lists the members in key order.

* `Json.Fields.insert`: the member list after adding a member; a later value for a key replaces
  the earlier one.
* `Json.get?`: the member of an object under a key.
-/

namespace ResourceRoutes

/-- A JSON number: an integer (in `[-2^63, 2^64)` when read from text) or a finite double. -/
inductive Number where
  | int (i : Int)
  | float (x : Float)

/-- A JSON document. Object members are sorted by key and keys are distinct. -/
inductive Json where
  | null
  | bool (b : Bool)
  | num (n : Number)
  | str (s : String)
  | arr (items : List Json)
  | obj (fields : List (String × Json))

instance : Inhabited Json := ⟨.null⟩

namespace Json

/-- The members of an object, sorted by key. -/
abbrev Fields := List (String × Json)

namespace Fields

/-- Add a member, keeping the keys sorted; a member under the same key is replaced. -/
def insert (k : String) (v : Json) : Fields → Fields
  | [] => [(k, v)]
  | (k', v') :: rest =>
    if k < k' then (k, v) :: (k', v') :: rest
    else if k = k' then (k, v) :: rest
    else (k', v') :: insert k v rest

/-- Build an object's members from pairs in any order; for a repeated key the last pair wins. -/
def ofList (pairs : List (String × Json)) : Fields :=
  pairs.foldl (fun acc (k, v) => insert k v acc) []

/-- The member under a key. -/
def get? (fs : Fields) (k : String) : Option Json :=
  (fs.find? (·.1 == k)).map (·.2)

end Fields

/-- An object with the given members. -/
def object (pairs : List (String × Json)) : Json := .obj (Fields.ofList pairs)

/-- The member of an object under a key; `none` for a missing key or a value that is no object. -/
def get? : Json → String → Option Json
  | .obj fs, k => Fields.get? fs k
  | _, _ => none

/-- A natural number as a JSON integer. -/
def nat (n : Nat) : Json := .num (.int n)

/-- A text or JSON null. -/
def optStr : Option String → Json
  | some s => .str s
  | none => .null

/-- The text of a JSON string. -/
def getStr? : Json → Option String
  | .str s => some s
  | _ => none

/-- The items of a JSON array. -/
def getArr? : Json → Option (List Json)
  | .arr xs => some xs
  | _ => none

/-- The members of a JSON object. -/
def getObj? : Json → Option Fields
  | .obj fs => some fs
  | _ => none

/-- The value of a JSON boolean. -/
def getBool? : Json → Option Bool
  | .bool b => some b
  | _ => none

/-- The value of a JSON integer. -/
def getInt? : Json → Option Int
  | .num (.int i) => some i
  | _ => none

/-- The value of a JSON integer that is not negative. -/
def getNat? : Json → Option Nat
  | .num (.int i) => if 0 ≤ i then some i.toNat else none
  | _ => none

mutual

/-- Nesting depth: `0` for a scalar, one more than the deepest member for an array or object. -/
def depth : Json → Nat
  | .arr xs => depthItems xs + 1
  | .obj fs => depthFields fs + 1
  | _ => 0

/-- The greatest depth of a list of documents. -/
def depthItems : List Json → Nat
  | [] => 0
  | x :: xs => max (depth x) (depthItems xs)

/-- The greatest depth of the members of an object. -/
def depthFields : List (String × Json) → Nat
  | [] => 0
  | (_, x) :: xs => max (depth x) (depthFields xs)

end

theorem Fields.get?_insert_self (fs : Fields) (k : String) (v : Json) :
    Fields.get? (Fields.insert k v fs) k = some v := by
  induction fs with
  | nil => simp [Fields.insert, Fields.get?]
  | cons p rest ih =>
    obtain ⟨k', v'⟩ := p
    unfold Fields.insert
    by_cases h1 : k < k'
    · simp [h1, Fields.get?]
    · by_cases h2 : k = k'
      · subst h2; simp [Fields.get?]
      · have hne : (k' == k) = false := by simp; exact fun h => h2 h.symm
        simp only [h1, h2, if_false]
        simp only [Fields.get?, List.find?_cons, hne] at ih ⊢
        exact ih

end Json

end ResourceRoutes
