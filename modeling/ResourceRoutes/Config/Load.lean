import ResourceRoutes.Config.Options
import ResourceRoutes.Json.Parse
import ResourceRoutes.Json.Mismatch

/-!
# Options from JSON text

`Options.ofJsonText` reads options from JSON text: an object with the optional string members
`basePath` and `baseUrl` (other members are checked as JSON and otherwise ignored; a repeated
known member is an error), or an array giving them in that order. `null` reads as absent. An
error names the line and byte column it was found at.
-/

namespace ResourceRoutes

namespace Json.Scan

/-- Fail because the value ahead has the wrong type; the value is read so that it can be named. -/
def invalidTypeAhead {α : Type} (expected : String) : Scan α := do
  let found ← match ← peek? with
    | some 110 => do eat; word [117, 108, 108]; pure Json.null
    | some 116 => do eat; word [114, 117, 101]; pure (Json.bool true)
    | some 102 => do eat; word [97, 108, 115, 101]; pure (Json.bool false)
    | some 45 => do eat; let n ← number false; pure (Json.num n)
    | some 34 => do eat; let s ← string; pure (Json.str s)
    | some 91 => pure (Json.arr [])
    | some 123 => pure (Json.obj [])
    | some c =>
      if isDigit c then do let n ← number true; pure (Json.num n)
      else failAfter .expectedValue
    | none => failAfter .expectedValue
  failAt (.custom (invalidType found expected))

/-- A string, or `null` for none. -/
def optionalString : Scan (Option String) := do
  match ← skipBlanks with
  | some 110 => do eat; word [117, 108, 108]; pure none
  | some 34 => do eat; let s ← string; pure (some s)
  | none => failAfter .eofInValue
  | some _ => invalidTypeAhead "a string"

/-- Whether another array item follows; `first` before the first item. -/
def itemAhead (first : Bool) : Scan Bool := do
  let c ← skipBlanks
  let next ← match c with
    | some 93 => pure none
    | some 44 =>
      if first then pure (some (some 44))
      else do eat; let d ← skipBlanks; pure (some d)
    | some c => if first then pure (some (some c)) else failAfter .expectedListCommaOrEnd
    | none => failAfter .eofInList
  match next with
  | none => pure false
  | some (some 93) => failAfter .trailingComma
  | some (some _) => pure true
  | some none => failAfter .eofInValue

/-- Over the closing bracket of an array whose items are all read. -/
def arrayEnd : Scan Unit := do
  match ← skipBlanks with
  | some 93 => eat
  | some 44 =>
    eat
    match ← skipBlanks with
    | some 93 => failAfter .trailingComma
    | _ => failAfter .trailingCharacters
  | some _ => failAfter .trailingCharacters
  | none => failAfter .eofInList

/-- Fail with an error about the value as a whole, found inside an object: it is placed where
the reader stands once it has looked for the closing brace. -/
def objectFailure {α : Type} (message : String) : Scan α := do
  match ← skipBlanks with
  | some 125 => eat
  | _ => pure ()
  failAt (.custom message)

/-- The members of an options object after its opening brace. -/
def optionsMembers : Nat → Bool → Options → Bool → Bool → Scan Options
  | 0, _, o, _, _ => pure o
  | fuel + 1, first, o, seenPath, seenUrl => do
    let c ← skipBlanks
    let keyAhead ← match c with
      | some 125 => pure false
      | some 44 =>
        if first then failAfter .keyMustBeString
        else do
          eat
          match ← skipBlanks with
          | some 125 => failAfter .trailingComma
          | some 34 => pure true
          | some _ => failAfter .keyMustBeString
          | none => failAfter .eofInValue
      | some 34 => if first then pure true else failAfter .expectedObjectCommaOrEnd
      | some _ => if first then failAfter .keyMustBeString else failAfter .expectedObjectCommaOrEnd
      | none => failAfter .eofInObject
    if !keyAhead then pure o
    else
      eat
      let key ← string
      let colon : Scan Unit := do
        match ← skipBlanks with
        | some 58 => eat
        | some _ => failAfter .expectedColon
        | none => failAfter .eofInObject
      if key == "basePath" then
        if seenPath then objectFailure "duplicate field `basePath`"
        else
          colon
          let v ← optionalString
          optionsMembers fuel false { o with basePath := v } true seenUrl
      else if key == "baseUrl" then
        if seenUrl then objectFailure "duplicate field `baseUrl`"
        else
          colon
          let v ← optionalString
          optionsMembers fuel false { o with baseUrl := v } seenPath true
      else
        colon
        skipValue
        optionsMembers fuel false o seenPath seenUrl

/-- Options as an object or an array. -/
def options : Scan Options := do
  match ← skipBlanks with
  | none => failAfter .eofInValue
  | some 91 =>
    eat
    let first ← itemAhead true
    let path ← if first then optionalString else pure none
    let second ← itemAhead (!first)
    let url ← if second then optionalString else pure none
    arrayEnd
    pure ⟨path, url⟩
  | some 123 =>
    eat
    let o ← optionsMembers ((← read).size + 1) true Options.empty false false
    match ← skipBlanks with
    | some 125 => eat
    | some 44 => failAfter .trailingComma
    | some _ => failAfter .trailingCharacters
    | none => failAfter .eofInObject
    pure o
  | some _ => invalidTypeAhead "struct RouterOptions"

/-- Options and nothing but blanks after them. -/
def optionsDocument : Scan Options := do
  let o ← options
  match ← skipBlanks with
  | some _ => failAfter .trailingCharacters
  | none => pure o

end Json.Scan

/-- Read options from JSON text. -/
def Options.ofJsonText (text : String) : Except ConfigError Options :=
  match Json.Scan.runOn Json.Scan.optionsDocument text with
  | .ok o => .ok o
  | .error e => .error (.load e.message)

end ResourceRoutes
