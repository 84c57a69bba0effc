import ResourceRoutes.Json.Mismatch

/-!
# Route metadata

HTTP metadata a route forwards to its host untouched: a description, notes, and optional
documents for caching, compression, CORS, JSON and JSONP options, logging, payload and response
handling, plugins, security, state and timeouts.

* `RouteMeta.toJson`: members under their camelCase names, absent options and empty notes
  left out.
* `RouteMeta.ofJson`: the inverse reading of a document: an object by member names (unknown
  members ignored, `null` as absent, notes default to none), or an array by position; the first
  member, in key order, of the wrong type is the error.
* `RouteMeta.payloadMaxBytes`: `payload.maxBytes` when it is a 64-bit unsigned integer.
-/

namespace ResourceRoutes

/-- Metadata of a route, forwarded verbatim to the host. -/
structure RouteMeta where
  description : Option String := none
  notes : List String := []
  cache : Option Json := none
  compression : Option Json := none
  cors : Option Bool := none
  json : Option Json := none
  jsonp : Option String := none
  log : Option Json := none
  payload : Option Json := none
  plugins : Option Json := none
  response : Option Json := none
  security : Option Json := none
  state : Option Json := none
  timeout : Option Json := none

/-- A metadata member that holds any document. -/
inductive DocField where
  | cache
  | compression
  | json
  | log
  | payload
  | plugins
  | response
  | security
  | state
  | timeout
  deriving DecidableEq, Repr

/-- The document members by name. -/
def DocField.ofName? : String → Option DocField
  | "cache" => some .cache
  | "compression" => some .compression
  | "json" => some .json
  | "log" => some .log
  | "payload" => some .payload
  | "plugins" => some .plugins
  | "response" => some .response
  | "security" => some .security
  | "state" => some .state
  | "timeout" => some .timeout
  | _ => none

namespace RouteMeta

/-- No metadata. -/
def empty : RouteMeta := {}

/-- The metadata as a document: camelCase members, absent options and empty notes left out. -/
def toJson (m : RouteMeta) : Json :=
  let opt (k : String) (v : Option Json) : List (String × Json) :=
    match v with
    | some x => [(k, x)]
    | none => []
  Json.object <|
    opt "description" (m.description.map .str) ++
    (if m.notes.isEmpty then [] else [("notes", .arr (m.notes.map .str))]) ++
    opt "cache" m.cache ++ opt "compression" m.compression ++ opt "cors" (m.cors.map .bool) ++
    opt "json" m.json ++ opt "jsonp" (m.jsonp.map .str) ++ opt "log" m.log ++
    opt "payload" m.payload ++ opt "plugins" m.plugins ++ opt "response" m.response ++
    opt "security" m.security ++ opt "state" m.state ++ opt "timeout" m.timeout

/-- `payload.maxBytes`, when it is an integer in the unsigned 64-bit range. -/
def payloadMaxBytes (m : RouteMeta) : Option Nat :=
  match m.payload with
  | some p =>
    match p.get? "maxBytes" with
    | some (.num (.int i)) => if 0 ≤ i then some i.toNat else none
    | _ => none
  | none => none

/-- An optional text member: `null` is absent. -/
def readText (v : Json) : Except String (Option String) :=
  match v with
  | .null => .ok none
  | .str s => .ok (some s)
  | other => .error (Json.invalidType other "a string")

/-- An optional truth member: `null` is absent. -/
def readBool (v : Json) : Except String (Option Bool) :=
  match v with
  | .null => .ok none
  | .bool b => .ok (some b)
  | other => .error (Json.invalidType other "a boolean")

/-- An optional document member: `null` is absent. -/
def readDoc (v : Json) : Option Json :=
  match v with
  | .null => none
  | other => some other

/-- A list of texts. -/
def readNotes (v : Json) : Except String (List String) :=
  match v with
  | .arr items => items.mapM fun
    | .str s => .ok s
    | other => .error (Json.invalidType other "a string")
  | other => .error (Json.invalidType other "a sequence")

/-- Set the member with this name from a document; unknown names change nothing. -/
def readMember (m : RouteMeta) (k : String) (v : Json) : Except String RouteMeta :=
  match k with
  | "description" => do return { m with description := ← readText v }
  | "notes" => do return { m with notes := ← readNotes v }
  | "cache" => .ok { m with cache := readDoc v }
  | "compression" => .ok { m with compression := readDoc v }
  | "cors" => do return { m with cors := ← readBool v }
  | "json" => .ok { m with json := readDoc v }
  | "jsonp" => do return { m with jsonp := ← readText v }
  | "log" => .ok { m with log := readDoc v }
  | "payload" => .ok { m with payload := readDoc v }
  | "plugins" => .ok { m with plugins := readDoc v }
  | "response" => .ok { m with response := readDoc v }
  | "security" => .ok { m with security := readDoc v }
  | "state" => .ok { m with state := readDoc v }
  | "timeout" => .ok { m with timeout := readDoc v }
  | _ => .ok m

/-- The member names in their positional order. -/
def memberNames : List String :=
  ["description", "notes", "cache", "compression", "cors", "json", "jsonp", "log", "payload",
    "plugins", "response", "security", "state", "timeout"]

/-- Read positional members; a missing one other than the notes is an error. -/
def readPositional (m : RouteMeta) : List String → List Json → Nat → Except String RouteMeta
  | [], _, _ => .ok m
  | k :: ks, [], i =>
    if k == "notes" then readPositional m ks [] (i + 1)
    else .error ("invalid length " ++ toString i ++ ", expected struct RouteMeta with 14 elements")
  | k :: ks, v :: vs, i => do
    let m ← m.readMember k v
    readPositional m ks vs (i + 1)

/-- Metadata read from a document. -/
def ofJson (v : Json) : Except String RouteMeta :=
  match v with
  | .obj fields => fields.foldlM (fun m (k, x) => m.readMember k x) empty
  | .arr items => do
    let m ← readPositional empty memberNames items 0
    if items.length > 14 then
      .error ("invalid length " ++ toString items.length ++ ", expected fewer elements in array")
    else .ok m
  | other => .error (Json.invalidType other "struct RouteMeta")

/-- Set a document member. -/
def setDoc (m : RouteMeta) (f : DocField) (v : Json) : RouteMeta :=
  match f with
  | .cache => { m with cache := some v }
  | .compression => { m with compression := some v }
  | .json => { m with json := some v }
  | .log => { m with log := some v }
  | .payload => { m with payload := some v }
  | .plugins => { m with plugins := some v }
  | .response => { m with response := some v }
  | .security => { m with security := some v }
  | .state => { m with state := some v }
  | .timeout => { m with timeout := some v }

end RouteMeta

end ResourceRoutes
