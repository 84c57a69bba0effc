import ResourceRoutes.Http.Host
import ResourceRoutes.Http.Trie
import ResourceRoutes.Http.Wire

/-!
# Serving requests

`ServerHost.serve?` builds the server of a host's mounted paths: each path, in mount order,
must start with `/` and be accepted by the path trie, or the whole set is refused.

`Server.respond` answers a request:
* the request's path (not percent-decoded) finds its mounted path, or the answer is `404` with
  an empty body;
* the method finds its endpoint (`HEAD` is served by `GET`), or the path's fallback answers
  `405` with an empty body;
* a declared body length above the endpoint's (or fallback's) limit answers `413`;
* the endpoint's pre-steps run in order, and the first refusal answers;
* the handler answers `200` with its identity, the route's name, the stored pre-step values and
  the path.
An endpoint answers a `HEAD` request with its status and an empty body; the fallback's
answers, a `413` from its limit among them, keep their body.
-/

namespace ResourceRoutes.Http

/-- The body of a response. -/
inductive Body where
  | json (doc : Json)
  | text (s : String)

/-- A response: status and body. -/
structure Response where
  status : Nat
  body : Body

/-- A response with a text body. -/
def Response.text (status : Nat) (s : String) : Response := ⟨status, .text s⟩

/-- The text of a response refusing a body over the limit. -/
def tooLargeText : String := "length limit exceeded"

/-- A server: the path trie, whose values index the mounted paths. -/
structure Server where
  trie : Trie
  paths : Array PathRoutes

/-- ASCII lower case, as header names compare. -/
def lowerAscii (s : String) : String := s.map Char.toLower

namespace Request

/-- The value of a header, its name compared without case. -/
def header? (r : Request) (name : String) : Option String :=
  (r.headers.find? fun (k, _) => lowerAscii k == lowerAscii name).map (·.2)

/-- A decimal count: an optional `+` and one or more digits, below `2^64`. -/
def parseCount (s : String) : Option Nat :=
  let ds := match s.toList with
    | '+' :: rest => rest
    | cs => cs
  if ds.isEmpty || !ds.all Char.isDigit then none
  else
    let n := ds.foldl (fun n c => 10 * n + (c.toNat - 48)) 0
    if n < Nat.pow 2 64 then some n else none

/-- The declared body length: the first `content-length` header, when it is a count. -/
def declaredLength (r : Request) : Option Nat := (r.header? "content-length").bind parseCount

end Request

/-- Apply a body limit before answering. -/
def limited (limit : Option Nat) (r : Request) (answer : Response) : Response :=
  match limit, r.declaredLength with
  | some l, some n => if n > l then Response.text 413 tooLargeText else answer
  | _, _ => answer

/-- Run the pre-steps, then the handler. -/
def Endpoint.call (e : Endpoint) (r : Request) : Response :=
  let hasHeader (h : String) := (r.header? h).isSome
  let rec go : List PreStep → Json.Fields → Response
    | [], stored =>
      ⟨200, .json (Json.object [("handler", e.handler.ident), ("route", .str e.id),
        ("pre", .obj stored), ("path", .str r.path)])⟩
    | p :: rest, stored =>
      match p.run hasHeader with
      | .error (status, text) => Response.text status text
      | .ok value =>
        match p.assign, value with
        | some k, some v => go rest (Json.Fields.insert k v stored)
        | _, _ => go rest stored
  go e.pre []

/-- Answer a request at a mounted path. -/
def PathRoutes.respond (routes : PathRoutes) (r : Request) : Response :=
  let wanted := if r.method == "HEAD" then "GET" else r.method
  match routes.endpoints.find? (·.method.name == wanted) with
  | some e =>
    let answer := limited e.limit r (e.call r)
    if r.method == "HEAD" then Response.text answer.status "" else answer
  | none => limited routes.fallbackLimit r (Response.text 405 "")

/-- Answer a request. -/
def Server.respond (s : Server) (r : Request) : Response :=
  match s.trie.find r.path.toUTF8.toList with
  | some i =>
    match s.paths[i]? with
    | some routes => routes.respond r
    | none => Response.text 404 ""
  | none => Response.text 404 ""

/-- The server of a host's mounted paths; `none` when a path is refused. -/
def ServerHost.serve? (h : ServerHost) : Option Server := do
  let trie ← (h.paths.zip (List.range h.paths.length)).foldlM
    (fun t (routes, i) =>
      if routes.path.startsWith "/" then t.insert? routes.path.toUTF8.toList i else none)
    Trie.empty
  pure ⟨trie, h.paths.toArray⟩

end ResourceRoutes.Http
