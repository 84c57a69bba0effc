/-!
# Requests on the wire

A request is sent only when its parts are well formed, as an HTTP client library checks them
when it builds one:

* `isToken`: a method and a header name are non-empty runs of token characters (letters,
  digits and ``! # $ % & ' * + - . ^ _ ` | ~``); a header name is shorter than `65536`.
* `isFieldValue`: a header value holds no control character but the tab, and no `DEL`.
* `targetPath`: the URI is checked and gives the path a server routes on. A URI is at most
  `65534` bytes and is one of
  - a path and query starting with `/`; the path is the part before `?` or `#`;
  - `*`, whose path is `*`;
  - an authority alone (`example.com:80`), whose path is empty;
  - a scheme (`http://` or `https://` in any case, or letters, digits, `+`, `-`, `.` and `~`
    of at most 64 characters before `://`), a non-empty authority, and a path and query that may be
    empty; an empty path is `/`.
  Paths and queries allow the visible ASCII characters but a few (`#`, `<`, `>`, the backquote,
  and the blank; in a path also `?`, which starts the query; in a query also `"`), and every
  character beyond ASCII. A fragment is cut off unchecked. An authority allows letters, digits
  and ``! $ & ' ( ) * + , - . ; = _ ~``, at most one port colon, an optional bracketed host,
  `%` only in the user part, and a user part only when something follows its `@`.
-/

namespace ResourceRoutes.Http

/-- A character of a token. -/
def isTokenChar (c : Char) : Bool := c.isAlphanum || "!#$%&'*+-.^_`|~".toList.contains c

/-- Whether a text is a token: a method or a header name. -/
def isToken (s : String) : Bool := !s.isEmpty && s.toList.all isTokenChar

/-- Whether a text is a header name. -/
def isHeaderName (s : String) : Bool := isToken s && s.length < 65536

/-- A character of a header value: none of the controls but the tab, and not `DEL`. -/
def isFieldValueChar (c : Char) : Bool := (32 ≤ c.toNat && c.toNat != 127) || c == '\t'

/-- Whether a text is a header value. -/
def isFieldValue (s : String) : Bool := s.toList.all isFieldValueChar

/-- A character a path holds as it is. -/
def isPathChar (c : Char) : Bool :=
  let n := c.toNat
  n == 0x21 || n == 0x22 || (0x24 ≤ n && n ≤ 0x3B) || n == 0x3D || (0x40 ≤ n && n ≤ 0x5F) ||
    (0x61 ≤ n && n ≤ 0x7E) || 0x80 ≤ n

/-- A character a query holds as it is. -/
def isQueryChar (c : Char) : Bool :=
  let n := c.toNat
  n == 0x21 || (0x24 ≤ n && n ≤ 0x3B) || n == 0x3D || (0x3F ≤ n && n ≤ 0x7E) || 0x80 ≤ n

/-- The path of a path and query (`/` when it is empty), or `none` when a character of the path
or the query must be escaped. -/
def pathAndQuery (s : List Char) : Option (List Char) :=
  let path := s.takeWhile fun c => c != '?' && c != '#'
  let queryOk := match s.drop path.length with
    | '?' :: q => (q.takeWhile (· != '#')).all isQueryChar
    | _ => true
  if path.all isPathChar && queryOk then some (if path.isEmpty then ['/'] else path) else none

/-- A character of an authority besides `:`, `[`, `]`, `@` and `%`, which its scan counts. -/
def isAuthorityChar (c : Char) : Bool := c.isAlphanum || "!$&'()*+,-.;=_~".toList.contains c

/-- What the scan of an authority has seen. -/
structure AuthorityScan where
  /-- Colons since the last `@` or `]`. -/
  colons : Nat
  opened : Bool
  closed : Bool
  /-- A `%` since the last `@` or `]`. -/
  percent : Bool
  /-- The position of the last `@`. -/
  lastAt : Option Nat

/-- Scan an authority from position `i`: where it ends (the first `/`, `?` or `#`, or the end)
and what it holds; `none` for a character it may not hold or a bracket out of place. -/
def scanAuthority : List Char → Nat → AuthorityScan → Option (Nat × AuthorityScan)
  | [], i, st => some (i, st)
  | c :: rest, i, st =>
    if c == '/' || c == '?' || c == '#' then some (i, st)
    else if c == ':' then
      if st.colons ≥ 8 then none else scanAuthority rest (i + 1) { st with colons := st.colons + 1 }
    else if c == '[' then
      if st.percent || st.opened then none
      else scanAuthority rest (i + 1) { st with opened := true }
    else if c == ']' then
      if !st.opened || st.closed then none
      else scanAuthority rest (i + 1) { st with closed := true, colons := 0, percent := false }
    else if c == '@' then
      scanAuthority rest (i + 1) { st with lastAt := some i, colons := 0, percent := false }
    else if c == '%' then scanAuthority rest (i + 1) { st with percent := true }
    else if isAuthorityChar c then scanAuthority rest (i + 1) st
    else none

/-- The length of the authority a text starts with; `none` when it is malformed. -/
def authorityLength (s : List Char) : Option Nat := do
  let (n, st) ← scanAuthority s 0 ⟨0, false, false, false, none⟩
  if st.opened != st.closed || st.colons > 1 || st.percent then none
  else if 0 < n && st.lastAt == some (n - 1) then none
  else some n

/-- A character of a scheme. -/
def isSchemeChar (c : Char) : Bool :=
  c.isAlphanum || c == '+' || c == '-' || c == '.' || c == '~'

/-- How a URI starts. -/
inductive SchemeStart where
  /-- With no scheme. -/
  | absent
  /-- With a scheme and its `://`, this many characters in all. -/
  | given (length : Nat)
  /-- With a scheme longer than 64 characters. -/
  | tooLong

/-- The scheme a URI starts with. -/
def schemeStart (s : List Char) : SchemeStart :=
  let lower := (s.take 8).map Char.toLower
  if lower.take 7 == "http://".toList then .given 7
  else if lower == "https://".toList then .given 8
  else if s.length > 3 then
    let name := s.takeWhile isSchemeChar
    match s.drop name.length with
    | ':' :: '/' :: '/' :: _ => if name.length > 64 then .tooLong else .given (name.length + 3)
    | _ => .absent
  else .absent

/-- The path a URI names, as a server routes it; `none` when the URI is malformed. -/
def targetPath (uri : String) : Option String :=
  let s := uri.toList
  if uri.utf8ByteSize > 65534 then none
  else
    match s with
    | [] => none
    | ['*'] => some "*"
    | '/' :: _ => (pathAndQuery s).map String.ofList
    | _ =>
      match schemeStart s with
      | .tooLong => none
      | .absent => do
        let n ← authorityLength s
        if n == s.length then some "" else none
      | .given k => do
        let rest := s.drop k
        let n ← authorityLength rest
        if n == 0 then none else (pathAndQuery (rest.drop n)).map String.ofList

/-- Whether a header list names a header, its name compared without case. -/
def hasHeader (headers : List (String × String)) (name : String) : Bool :=
  headers.any fun (k, _) => k.map Char.toLower == name.map Char.toLower

/-- A request: method, routed path, headers in order, and body text. -/
structure Request where
  method : String
  path : String
  headers : List (String × String)
  body : String

/-- A request from its parts; `none` unless the method is a token, the URI well formed, and
each header a name with a value. A `content-length` header with the body's length in bytes
follows the given headers unless one of them has that name. -/
def Request.build? (method uri : String) (headers : List (String × String)) (body : String) :
    Option Request := do
  let path ← targetPath uri
  if isToken method && headers.all (fun (k, v) => isHeaderName k && isFieldValue v) then
    let length := if hasHeader headers "content-length" then []
      else [("content-length", toString body.utf8ByteSize)]
    some ⟨method, path, headers ++ length, body⟩
  else none

end ResourceRoutes.Http
