/-!
# Path patterns in a radix trie

An HTTP server finds the route of a request path in a radix trie of byte patterns. A pattern
is bytes with two kinds of wildcard: `:name` takes the bytes up to the next `/` (at least one),
and `*name`, at the end only, takes the rest of the path.

* `normalize`: parameter names do not matter for matching, so before insertion the k-th
  parameter is renamed to the k-th lowercase letter; a pattern needs fewer than 26 of them. A
  wildcard with no name, or with a `:` or `*` in its name, is refused.
* `Trie.insert?`: refuses a pattern that matches the same paths as one already present (after
  renaming), a parameter where another wildcard of a different spelling stands, and a catch-all
  that is not last or follows anything but `/`.
* `Trie.find`: fixed bytes win over a parameter. When a fixed branch fails, the search goes back
  to the nearest parameter it passed over whose remaining path ends with the failed rest. It
  gives up at once on a rest of exactly `/` and in the places where the failure can only come
  from a trailing slash too many or too few.
-/

namespace ResourceRoutes.Http

/-- The byte `/`. -/
def slash : UInt8 := 47

/-- The byte `:` that starts a parameter. -/
def colon : UInt8 := 58

/-- The byte `*` that starts a catch-all. -/
def star : UInt8 := 42

/-- Whether a byte starts a wildcard. -/
def isWildStart (b : UInt8) : Bool := b == colon || b == star

/-- The first wildcard of a pattern and its position. A wildcard runs to the next `/`; a second
`:` or `*` before that is an error (`none`). -/
def findWildcard (p : List UInt8) : Option (Option (List UInt8 × Nat)) :=
  match p.findIdx? isWildStart with
  | none => some none
  | some i =>
    let name := (p.drop (i + 1)).takeWhile (· != slash)
    if name.any isWildStart then none
    else some (some ((p.drop i).take (name.length + 1), i))

/-- Rename the parameters of a pattern `a`, `b`, … from the left, starting the search at
`start`; catch-alls keep their names. -/
def normalizeFrom : Nat → List UInt8 → Nat → UInt8 → Option (List UInt8)
  | 0, p, _, _ => some p
  | fuel + 1, p, start, next => do
    match ← findWildcard (p.drop start) with
    | none => some p
    | some (w, i) =>
      if w.length < 2 then none
      else if w.head? == some star then normalizeFrom fuel p (start + i + w.length) next
      else if next ≥ 122 then none
      else
        let at_ := start + i
        normalizeFrom fuel (p.take at_ ++ [colon, next] ++ p.drop (at_ + w.length)) (at_ + 2) (next + 1)

/-- A pattern with its parameters renamed in order; `none` for a malformed wildcard. -/
def normalize (p : List UInt8) : Option (List UInt8) := normalizeFrom (p.length + 1) p 0 97

/-- What a trie node matches. -/
inductive PieceKind where
  /-- Fixed bytes. -/
  | fixed
  /-- A parameter: bytes up to the next `/`. -/
  | param
  /-- A catch-all: the rest of the path. -/
  | catchAll
  deriving DecidableEq, Repr

/-- A radix trie node. Fixed children are keyed by their first byte; the wildcard child, if
any, is kept apart. A parameter node has at most one child, which starts with `/`. -/
structure Trie where
  pre : List UInt8
  kind : PieceKind
  statics : List (UInt8 × Trie)
  wild : Option Trie
  value : Option Nat

namespace Trie

/-- The trie of no patterns. -/
def empty : Trie := ⟨[], .fixed, [], none, none⟩

/-- A fresh fixed node. -/
def blank : Trie := ⟨[], .fixed, [], none, none⟩

/-- Length of the longest common prefix. -/
def commonLength : List UInt8 → List UInt8 → Nat
  | a :: as, b :: bs => if a == b then commonLength as bs + 1 else 0
  | _, _ => 0

/-- Hang the pattern `p` (the part of `route` still to place) below `node`, which has no
wildcard child, with the value at its end. -/
def plant : Nat → Trie → List UInt8 → List UInt8 → Nat → Option Trie
  | 0, _, _, _, _ => none
  | fuel + 1, node, p, route, val => do
    match ← findWildcard p with
    | none => some { node with value := some val, pre := p }
    | some (w, i) =>
      if w.head? == some star then
        if i + w.length != p.length then none
        else if i > 0 && p[i - 1]? != some slash then none
        else if p == route && route.head? != some slash then none
        else
          let node := if i > 0 then { node with pre := p.take i } else node
          some { node with wild := some ⟨p.drop i, .catchAll, [], none, some val⟩ }
      else
        let node := if i > 0 then { node with pre := p.take i } else node
        let p := p.drop i
        let child ← if w.length < p.length then do
            let grand ← plant fuel blank (p.drop w.length) route val
            some (⟨w, .param, [(slash, grand)], none, none⟩ : Trie)
          else some ⟨w, .param, [], none, some val⟩
        some { node with wild := some child }

/-- Split a node after `n` bytes of its prefix: the node keeps the first `n` bytes and gets the
rest, with all it had, as its only (fixed) child. -/
def split (t : Trie) (n : Nat) : Trie :=
  match t.pre.drop n with
  | b :: rest => ⟨t.pre.take n, t.kind, [(b, { t with pre := b :: rest, kind := .fixed })], none, none⟩
  | [] => t

/-- Replace the fixed child under a byte. -/
def setStatic (cs : List (UInt8 × Trie)) (b : UInt8) (c : Trie) : List (UInt8 × Trie) :=
  cs.map fun (k, old) => if k == b then (k, c) else (k, old)

/-- Insert the rest `p` of a normalized `route` at node `t`. -/
def insertAt : Nat → Trie → List UInt8 → List UInt8 → Nat → Option Trie
  | 0, _, _, _, _ => none
  | fuel + 1, t, p, route, val =>
    let common := commonLength p t.pre
    let t := if common < t.pre.length then t.split common else t
    match p.drop common with
    | [] => if t.value.isSome then none else some { t with value := some val }
    | next :: more =>
      let p := next :: more
      match t.kind, t.statics with
      | .param, [(b, c)] =>
        if next == slash then do
          let c ← insertAt fuel c p route val
          some { t with statics := [(b, c)] }
        else insertStatic fuel t p next route val
      | _, _ => insertStatic fuel t p next route val
where
  /-- Continue below the fixed child of the next byte, or add one, or meet the wildcard. -/
  insertStatic (fuel : Nat) (t : Trie) (p : List UInt8) (next : UInt8) (route : List UInt8)
      (val : Nat) : Option Trie :=
    match t.statics.find? (·.1 == next) with
    | some (_, c) => do
      let c ← insertAt fuel c p route val
      some { t with statics := setStatic t.statics next c }
    | none =>
      if !isWildStart next && t.kind != .catchAll then do
        let c ← plant fuel blank p route val
        some { t with statics := t.statics ++ [(next, c)] }
      else
        match t.wild with
        | some w =>
          if p.length < w.pre.length || p.take w.pre.length != w.pre || w.kind == .catchAll
              || (w.pre.length < p.length && p[w.pre.length]? != some slash) then none
          else do
            let w ← insertAt fuel w p route val
            some { t with wild := some w }
        | none => plant fuel t p route val

/-- Add a pattern with its value; `none` when the trie refuses it. -/
def insert? (t : Trie) (pattern : List UInt8) (val : Nat) : Option Trie := do
  let route ← normalize pattern
  let fuel := 2 * route.length + 4
  if t.pre.isEmpty && t.statics.isEmpty && t.wild.isNone then plant fuel t route route val
  else insertAt fuel t route route val

/-- The value of the pattern matching `path` at node `t`; `skipped` holds the nodes with a
wildcard child passed over by a fixed branch, nearest first, with the path at each. -/
def findFrom : Nat → Trie → List UInt8 → Bool → List (List UInt8 × Trie) → Option Nat
  | 0, _, _, _, _ => none
  | fuel + 1, t, path, backtracking, skipped =>
    -- go back to the nearest skipped node whose path ends with `rest`, unless `rest` is `/`
    let retry (rest : List UInt8) : Option Nat :=
      if rest == [slash] then none
      else
        match skipped.dropWhile fun e => !rest.isSuffixOf e.1 with
        | (q, n) :: older => findFrom fuel n q true older
        | [] => none
    if t.pre.length < path.length && t.pre.isPrefixOf path then
      let rest := path.drop t.pre.length
      let first := rest.headD 0
      match (if backtracking then none else t.statics.find? (·.1 == first)) with
      | some (_, c) =>
        let skipped := if t.wild.isSome then (path, t) :: skipped else skipped
        if rest == [slash] && c.pre != [slash] && t.value.isSome then none
        else findFrom fuel c rest backtracking skipped
      | none =>
        match t.wild with
        | none => if rest == [slash] && t.value.isSome then none else retry rest
        | some w =>
          match w.kind with
          | .param =>
            match rest.findIdx? (· == slash) with
            | some i =>
              let after := rest.drop i
              match w.statics with
              | [(_, c)] =>
                if after == [slash] && c.pre != [slash] && w.value.isSome then none
                else findFrom fuel c after false skipped
              | _ => if rest.length == i + 1 then none else retry rest
            | none =>
              match w.value with
              | some v => some v
              | none =>
                match w.statics with
                | [(_, c)] =>
                  if (c.pre == [slash] && c.value.isSome)
                      || (c.pre.isEmpty && c.statics.map (·.1) == [slash]) then none
                  else retry rest
                | _ => none
          | .catchAll => w.value
          | .fixed => none
    else if path == t.pre then
      match t.value with
      | some v => some v
      | none => retry path
    else if t.pre.getLast? == some slash && t.pre.dropLast == path && t.value.isSome then none
    else retry path

/-- The value of the pattern that matches a path. -/
def find (t : Trie) (path : List UInt8) : Option Nat :=
  findFrom (4 * (path.length + 2) * (path.length + 2)) t path false []

end Trie

end ResourceRoutes.Http
