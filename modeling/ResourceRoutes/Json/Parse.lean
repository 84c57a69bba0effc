import ResourceRoutes.Json.Scan

/-!
# Reading a JSON document

`Json.parse` reads one document from a text: blanks around it are allowed, anything else after
it is an error. Arrays and objects nest at most 127 deep. In an object a repeated key keeps its
last value.

`Scan.skipValue` checks a value without building it; it has no nesting limit and its checks of
numbers stop at syntax, so a number too large for a double passes.
-/

namespace ResourceRoutes.Json

namespace Scan

mutual

/-- A value, with `depth` levels of nesting still allowed (counting this one). -/
def value (depth : Nat) : Scan Json := do
  match ← skipBlanks with
  | none => failAfter .eofInValue
  | some c =>
    if c == 110 then do eat; word [117, 108, 108]; pure .null
    else if c == 116 then do eat; word [114, 117, 101]; pure (.bool true)
    else if c == 102 then do eat; word [97, 108, 115, 101]; pure (.bool false)
    else if c == 45 then do eat; return .num (← number false)
    else if isDigit c then return .num (← number true)
    else if c == 34 then do eat; return .str (← string)
    else if c == 91 then
      match depth with
      | d + 2 => do
        eat
        let items ← arrayItems (d + 1) ((← read).size + 1) [] true
        pure (.arr items)
      | _ => failAfter .recursionLimit
    else if c == 123 then
      match depth with
      | d + 2 => do
        eat
        let fields ← objectItems (d + 1) ((← read).size + 1) [] true
        pure (.obj fields)
      | _ => failAfter .recursionLimit
    else failAfter .expectedValue
termination_by (depth, 0)

/-- The items of an array after its opening bracket, up to and over the closing bracket. -/
def arrayItems (depth : Nat) (fuel : Nat) (acc : List Json) (first : Bool) : Scan (List Json) := do
  match fuel with
  | 0 => failAfter .eofInList
  | fuel + 1 =>
    match ← skipBlanks with
    | some 93 => do eat; pure acc.reverse
    | some 44 =>
      if first then do
        let v ← value depth
        arrayItems depth fuel (v :: acc) false
      else do
        eat
        match ← skipBlanks with
        | some 93 => failAfter .trailingComma
        | some _ => do
          let v ← value depth
          arrayItems depth fuel (v :: acc) false
        | none => failAfter .eofInValue
    | some _ =>
      if first then do
        let v ← value depth
        arrayItems depth fuel (v :: acc) false
      else failAfter .expectedListCommaOrEnd
    | none => failAfter .eofInList
termination_by (depth, fuel + 1)

/-- The members of an object after its opening brace, up to and over the closing brace. -/
def objectItems (depth : Nat) (fuel : Nat) (acc : Fields) (first : Bool) : Scan Fields := do
  match fuel with
  | 0 => failAfter .eofInObject
  | fuel + 1 =>
    let c ← skipBlanks
    let keyAhead ← match c with
      | some 125 => pure false
      | some 44 =>
        if first then failAfter .keyMustBeString
        else do
          eat
          match ← skipBlanks with
          | some 125 => failAfter .trailingComma
          | some 34 => pure true
          | some _ => failAfter .keyMustBeString
          | none => failAfter .eofInValue
      | some 34 => if first then pure true else failAfter .expectedObjectCommaOrEnd
      | some _ => if first then failAfter .keyMustBeString else failAfter .expectedObjectCommaOrEnd
      | none => failAfter .eofInObject
    if keyAhead then do
      eat
      let k ← string
      match ← skipBlanks with
      | some 58 => eat
      | some _ => failAfter .expectedColon
      | none => failAfter .eofInObject
      let v ← value depth
      objectItems depth fuel (Fields.insert k v acc) false
    else do
      eat
      pure acc
termination_by (depth, fuel + 1)

end

/-- A whole document: one value and nothing but blanks after it. -/
def document : Scan Json := do
  let v ← value 128
  match ← skipBlanks with
  | some _ => failAfter .trailingCharacters
  | none => pure v

/-- Check one value without building it. -/
def skipValueFor : Nat → List UInt8 → Option UInt8 → Scan Unit
  | 0, _, _ => failAfter .eofInValue
  | fuel + 1, stack, enclosing => do
    let c ← skipBlanks
    let opened ← match c with
      | none => failAfter .eofInValue
      | some 110 => do eat; word [117, 108, 108]; pure none
      | some 116 => do eat; word [114, 117, 101]; pure none
      | some 102 => do eat; word [97, 108, 115, 101]; pure none
      | some 45 => do eat; skipNumber; pure none
      | some 34 => do eat; skipString; pure none
      | some 91 => do eat; pure (some (91 : UInt8))
      | some 123 => do eat; pure (some (123 : UInt8))
      | some c => if isDigit c then do skipNumber; pure none else failAfter .expectedValue
    -- the container the next value belongs to, and whether a comma may come first
    let stack := match opened with
      | some _ => (enclosing.toList) ++ stack
      | none => stack
    let (frame, acceptComma, stack) ← match opened, enclosing with
      | some f, _ => pure (some f, false, stack)
      | none, some f => pure (some f, true, stack)
      | none, none => match stack with
        | f :: rest => pure (some f, true, rest)
        | [] => pure (none, false, [])
    match frame with
    | none => pure ()
    | some frame =>
      match ← closeFrames fuel frame acceptComma stack with
      | none => pure ()
      | some (frame, stack) =>
        if frame == 123 then
          match ← skipBlanks with
          | some 34 => eat
          | some _ => failAfter .keyMustBeString
          | none => failAfter .eofInObject
          skipString
          match ← skipBlanks with
          | some 58 => eat
          | some _ => failAfter .expectedColon
          | none => failAfter .eofInObject
        skipValueFor fuel stack (some frame)
where
  /-- Close finished containers; `some` the container whose next value follows. -/
  closeFrames : Nat → UInt8 → Bool → List UInt8 → Scan (Option (UInt8 × List UInt8))
    | 0, _, _, _ => failAfter .eofInValue
    | fuel + 1, frame, acceptComma, stack => do
      match ← skipBlanks with
      | some 44 =>
        if acceptComma then do eat; pure (some (frame, stack))
        else pure (some (frame, stack))
      | some 93 =>
        if frame == 91 then
          eat
          match stack with
          | f :: rest => closeFrames fuel f true rest
          | [] => pure none
        else if acceptComma then failAfter .expectedObjectCommaOrEnd
        else pure (some (frame, stack))
      | some 125 =>
        if frame == 123 then
          eat
          match stack with
          | f :: rest => closeFrames fuel f true rest
          | [] => pure none
        else if acceptComma then failAfter .expectedListCommaOrEnd
        else pure (some (frame, stack))
      | some _ =>
        if acceptComma then
          failAfter (if frame == 91 then .expectedListCommaOrEnd else .expectedObjectCommaOrEnd)
        else pure (some (frame, stack))
      | none => failAfter (if frame == 91 then .eofInList else .eofInObject)

/-- Check one value without building it. -/
def skipValue : Scan Unit := do
  let n := (← read).size + 2
  skipValueFor n [] none

end Scan

/-- Read a JSON document from a text. -/
def parse (text : String) : Except ReadError Json := Scan.runOn Scan.document text

end ResourceRoutes.Json
