/-!
# Placeholders in paths

A path names its parameters in braces: `/users/{user}`. A placeholder is a `{`, one or more
characters none of which is `{`, `}` or `/`, and a `}`. Placeholders are found from left to
right without overlapping; a brace that starts no placeholder is text (`{{a}}` holds the
placeholder `a` between two braces of text).
-/

namespace ResourceRoutes

/-- A piece of a path: text, or a placeholder's name. -/
inductive PathPiece where
  | text (s : String)
  | param (name : String)
  deriving Repr, DecidableEq

/-- The opening brace. -/
def braceOpen : Char := Char.ofNat 123

/-- The closing brace. -/
def braceClose : Char := Char.ofNat 125

/-- A character that may stand in a placeholder's name. -/
def isNameChar (c : Char) : Bool := c != braceOpen && c != braceClose && c != '/'

/-- Dropping a prefix never makes a list longer. -/
theorem length_dropWhile_le (p : Char → Bool) : ∀ l : List Char, (l.dropWhile p).length ≤ l.length
  | [] => by simp
  | c :: rest => by
    have := length_dropWhile_le p rest
    by_cases h : p c
    · simp [List.dropWhile, h]; omega
    · simp [List.dropWhile, h]

/-- Split a path, as characters, into text and placeholders. -/
def splitPlaceholders : List Char → List PathPiece
  | [] => []
  | c :: rest =>
    if c = braceOpen then
      match rest.takeWhile isNameChar, rest.dropWhile isNameChar, length_dropWhile_le isNameChar rest with
      | name@(_ :: _), d :: more, _h =>
        if d = braceClose then .param (String.ofList name) :: splitPlaceholders more
        else .text braceOpen.toString :: splitPlaceholders rest
      | _, _, _ => .text braceOpen.toString :: splitPlaceholders rest
    else .text c.toString :: splitPlaceholders rest
termination_by cs => cs.length
decreasing_by
  all_goals simp_wf
  all_goals simp_all
  all_goals omega

/-- The pieces of a path. -/
def pathPieces (path : String) : List PathPiece := splitPlaceholders path.toList

/-- The placeholder names of a path, left to right. -/
def placeholders (path : String) : List String :=
  (pathPieces path).filterMap fun
    | .param n => some n
    | .text _ => none

/-- The path with each placeholder replaced. -/
def fillPlaceholders (path : String) (f : String → String) : String :=
  String.join ((pathPieces path).map fun
    | .param n => f n
    | .text s => s)

end ResourceRoutes
