import ResourceRoutes.Json.Basic
import ResourceRoutes.Json.Syntax
import ResourceRoutes.Decimal.Binary

/-!
# Scanning JSON text

The pieces every reader of JSON text is made of, over the UTF-8 bytes of the text: blanks,
literal words, strings (read, or only checked), and numbers (read, or only checked).

Numbers are read the way the decimal is written: the digits are gathered into a 64-bit
significand while they fit, further integer digits raise a decimal exponent, fraction digits
that no longer fit are dropped, and the exponent saturates at the 32-bit range. An integer
without fraction or exponent that fits 64 bits stays an integer (negative ones down to `-2^63`);
anything else becomes a double: the significand is rounded to a double and then multiplied or
divided by the rounded power of ten, in steps of `10^308` beyond that. A result past the
largest double is an error; `-0` is the double `-0.0`.

Errors carry positions like this: a fault found in a byte already consumed is reported at the
offset after it; a fault in the byte looked at but not consumed, one further (`failAfter`).
-/

namespace ResourceRoutes.Json

open ResourceRoutes.Decimal

/-- Reading JSON text: the bytes, the offset reached, and failure with a positioned error. -/
abbrev Scan := ReaderT ByteArray (StateT Nat (Except ReadError))

namespace Scan

/-- The byte at the offset, if any. -/
def peek? : Scan (Option UInt8) := do
  let b ← read
  let i ← get
  pure b[i]?

/-- Step over one byte. -/
def eat : Scan Unit := modify (· + 1)

/-- The byte at the offset, stepping over it. -/
def next? : Scan (Option UInt8) := do
  let c ← peek?
  if c.isSome then eat
  pure c

/-- Fail with a position at the offset reached. -/
def failAt {α : Type} (why : SyntaxError) : Scan α := do
  let b ← read
  let i ← get
  let (l, c) := positionOf b i
  throw ⟨why, l, c⟩

/-- Fail with a position one past the offset reached: the byte looked at is counted. -/
def failAfter {α : Type} (why : SyntaxError) : Scan α := do
  let b ← read
  let i ← get
  let (l, c) := positionOf b (min b.size (i + 1))
  throw ⟨why, l, c⟩

/-- A JSON blank: space, line feed, tab or carriage return. -/
def isBlank (c : UInt8) : Bool := c == 32 || c == 10 || c == 9 || c == 13

/-- An ASCII digit. -/
def isDigit (c : UInt8) : Bool := 48 ≤ c && c ≤ 57

/-- Skip at most `n` blanks. -/
def skipBlanksFor : Nat → Scan Unit
  | 0 => pure ()
  | n + 1 => do
    match ← peek? with
    | some c => if isBlank c then eat; skipBlanksFor n else pure ()
    | none => pure ()

/-- Skip blanks and look at the byte after them. -/
def skipBlanks : Scan (Option UInt8) := do
  skipBlanksFor (← read).size
  peek?

/-- Skip at most `n` digits. -/
def skipDigitsFor : Nat → Scan Unit
  | 0 => pure ()
  | n + 1 => do
    match ← peek? with
    | some c => if isDigit c then eat; skipDigitsFor n else pure ()
    | none => pure ()

/-- Skip digits. -/
def skipDigits : Scan Unit := do skipDigitsFor (← read).size

/-- The rest of a literal word, byte by byte. -/
def word : List UInt8 → Scan Unit
  | [] => pure ()
  | c :: rest => do
    match ← next? with
    | none => failAt .eofInValue
    | some d => if d == c then word rest else failAt .expectedIdent

/-! ## Strings -/

/-- The value of a hexadecimal digit. -/
def hexDigit (c : UInt8) : Option Nat :=
  if 48 ≤ c && c ≤ 57 then some (c.toNat - 48)
  else if 97 ≤ c && c ≤ 102 then some (c.toNat - 87)
  else if 65 ≤ c && c ≤ 70 then some (c.toNat - 55)
  else none

/-- Four hexadecimal digits of a `\u` escape. -/
def hexEscape : Scan Nat := do
  let b ← read
  let i ← get
  if i + 4 ≤ b.size then
    set (i + 4)
    let digits := [b[i]?, b[i + 1]?, b[i + 2]?, b[i + 3]?].map (fun c => c.bind hexDigit)
    match digits with
    | [some a, some b', some c, some d] => pure (((a * 16 + b') * 16 + c) * 16 + d)
    | _ => failAt .invalidEscape
  else
    set b.size
    failAt .eofInString

/-- The UTF-8 bytes of a code point. -/
def utf8 (n : Nat) : List UInt8 :=
  if n < 0x80 then [n.toUInt8]
  else if n < 0x800 then [(0xC0 + n / 64).toUInt8, (0x80 + n % 64).toUInt8]
  else if n < 0x10000 then
    [(0xE0 + n / 4096).toUInt8, (0x80 + n / 64 % 64).toUInt8, (0x80 + n % 64).toUInt8]
  else
    [(0xF0 + n / 262144).toUInt8, (0x80 + n / 4096 % 64).toUInt8, (0x80 + n / 64 % 64).toUInt8,
      (0x80 + n % 64).toUInt8]

/-- A `\u` escape, after the `u`: a code point, or a surrogate pair of escapes. -/
def unicodeEscape : Scan (List UInt8) := do
  let n ← hexEscape
  if 0xDC00 ≤ n && n ≤ 0xDFFF then failAt .loneSurrogate
  else if n < 0xD800 || n > 0xDBFF then pure (utf8 n)
  else
    match ← peek? with
    | none => failAt .eofInString
    | some c =>
      eat
      if c != 92 then failAt .unexpectedEndOfHexEscape
      else
        match ← peek? with
        | none => failAt .eofInString
        | some c =>
          eat
          if c != 117 then failAt .unexpectedEndOfHexEscape
          else
            let n2 ← hexEscape
            if n2 < 0xDC00 || n2 > 0xDFFF then failAt .loneSurrogate
            else pure (utf8 ((n - 0xD800) * 1024 + (n2 - 0xDC00) + 0x10000))

/-- An escape, after the backslash. -/
def escape : Scan (List UInt8) := do
  match ← next? with
  | none => failAt .eofInString
  | some c =>
    if c == 34 then pure [34]
    else if c == 92 then pure [92]
    else if c == 47 then pure [47]
    else if c == 98 then pure [8]
    else if c == 102 then pure [12]
    else if c == 110 then pure [10]
    else if c == 114 then pure [13]
    else if c == 116 then pure [9]
    else if c == 117 then unicodeEscape
    else failAt .invalidEscape

/-- The bytes of a string after its opening quote, up to and over the closing quote. -/
def stringBytes : Nat → ByteArray → Scan ByteArray
  | 0, _ => failAt .eofInString
  | fuel + 1, acc => do
    match ← peek? with
    | none => failAt .eofInString
    | some c =>
      eat
      if c == 34 then pure acc
      else if c == 92 then
        let bs ← escape
        stringBytes fuel (bs.foldl ByteArray.push acc)
      else if c < 32 then failAt .controlCharacter
      else stringBytes fuel (acc.push c)

/-- A string after its opening quote. -/
def string : Scan String := do
  let bytes ← stringBytes ((← read).size + 1) ByteArray.empty
  match String.fromUTF8? bytes with
  | some s => pure s
  | none => failAt .invalidEscape

/-- An escape after the backslash, only checked. -/
def skipEscape : Scan Unit := do
  match ← next? with
  | none => failAt .eofInString
  | some c =>
    if c == 34 || c == 92 || c == 47 || c == 98 || c == 102 || c == 110 || c == 114 ||
        c == 116 then pure ()
    else if c == 117 then do let _ ← hexEscape; pure ()
    else failAt .invalidEscape

/-- A string after its opening quote, only checked; a lone surrogate escape passes. -/
def skipStringFor : Nat → Scan Unit
  | 0 => failAt .eofInString
  | fuel + 1 => do
    match ← peek? with
    | none => failAt .eofInString
    | some c =>
      if c == 34 then eat
      else if c == 92 then do eat; skipEscape; skipStringFor fuel
      else if c < 32 then failAt .controlCharacter
      else do eat; skipStringFor fuel

/-- A string after its opening quote, only checked. -/
def skipString : Scan Unit := do skipStringFor ((← read).size + 1)

/-! ## Numbers -/

/-- Whether `a * 10 + d` exceeds the limit `m`. -/
def overflows (a d m : Nat) : Bool := a ≥ m / 10 && (a > m / 10 || d > m % 10)

/-- The largest 64-bit unsigned integer. -/
def u64Max : Nat := Nat.pow 2 64 - 1

/-- The largest 32-bit signed integer. -/
def i32Max : Nat := Nat.pow 2 31 - 1

/-- An exponent held in the 32-bit signed range. -/
def saturate (e : Int) : Int := max (-Int.pow 2 31) (min (Int.pow 2 31 - 1) e)

/-- The doubles `10^0 … 10^308`. -/
def powTenTable : Array Float := (List.range 309).toArray.map Binary.powTen

/-- The double `10^k` for `k ≤ 308`. -/
def powTen (k : Nat) : Float := powTenTable[k]?.getD 0

/-- Scale the rounded significand by `10^e`: `none` when the result passes the largest double.
Beyond `10^308` it divides in steps of `10^308`, stopping at zero. -/
def scale (f : Float) (e : Int) : Nat → Option Float
  | 0 => some f
  | fuel + 1 =>
    if e.natAbs ≤ 308 then
      if 0 ≤ e then
        let g := f * powTen e.toNat
        if g.isInf then none else some g
      else some (f / powTen e.natAbs)
    else if f == 0 then some f
    else if 0 ≤ e then none
    else scale (f / powTen 308) (e + 308) fuel

/-- The double `±significand · 10^exponent`. -/
def fromParts (positive : Bool) (significand : Nat) (exponent : Int) : Scan Float := do
  match scale (Binary.round false significand 0) exponent 8 with
  | none => failAt .numberOutOfRange
  | some f => pure (if positive then f else -f)

/-- After an exponent that overflowed 32 bits: zero, unless the value would be infinite. -/
def exponentOverflow (positive zeroSignificand positiveExp : Bool) : Scan Float := do
  if !zeroSignificand && positiveExp then failAt .numberOutOfRange
  else
    skipDigits
    pure (if positive then 0.0 else -0.0)

/-- The digits of an exponent after the first. -/
def exponentDigits (positive : Bool) (significand : Nat) (start : Int) (positiveExp : Bool) :
    Nat → Nat → Scan Float
  | 0, exp => fromParts positive significand (saturate (if positiveExp then start + exp else start - exp))
  | fuel + 1, exp => do
    match ← peek? with
    | some c =>
      if isDigit c then
        eat
        let d := c.toNat - 48
        if overflows exp d i32Max then exponentOverflow positive (significand == 0) positiveExp
        else exponentDigits positive significand start positiveExp fuel (exp * 10 + d)
      else fromParts positive significand (saturate (if positiveExp then start + exp else start - exp))
    | none => fromParts positive significand (saturate (if positiveExp then start + exp else start - exp))

/-- An exponent, at its `e`. -/
def exponentPart (positive : Bool) (significand : Nat) (start : Int) : Scan Float := do
  eat
  let positiveExp ← match ← peek? with
    | some 43 => do eat; pure true
    | some 45 => do eat; pure false
    | _ => pure true
  match ← next? with
  | none => failAt .eofInValue
  | some c =>
    if isDigit c then exponentDigits positive significand start positiveExp (← read).size (c.toNat - 48)
    else failAt .invalidNumber

/-- After fraction digits that no longer fit: drop the rest of them. -/
def fractionOverflow (positive : Bool) (significand : Nat) (exponent : Int) : Scan Float := do
  skipDigits
  match ← peek? with
  | some 101 | some 69 => exponentPart positive significand exponent
  | _ => fromParts positive significand exponent

/-- Fraction digits; `after` counts the digits taken (as a negative exponent). -/
def fractionDigits (positive : Bool) (before : Int) : Nat → Nat → Int → Scan Float
  | 0, significand, after => fromParts positive significand (before + after)
  | fuel + 1, significand, after => do
    match ← peek? with
    | some c =>
      if isDigit c then
        let d := c.toNat - 48
        if overflows significand d u64Max then fractionOverflow positive significand (before + after)
        else
          eat
          fractionDigits positive before fuel (significand * 10 + d) (after - 1)
      else fractionEnd positive before significand after
    | none => fractionEnd positive before significand after
where
  fractionEnd (positive : Bool) (before : Int) (significand : Nat) (after : Int) : Scan Float := do
    if after == 0 then
      match ← peek? with
      | some _ => failAfter .invalidNumber
      | none => failAfter .eofInValue
    else
      match ← peek? with
      | some 101 | some 69 => exponentPart positive significand (before + after)
      | _ => fromParts positive significand (before + after)

/-- A fraction, at its point. -/
def fractionPart (positive : Bool) (significand : Nat) (before : Int) : Scan Float := do
  eat
  fractionDigits positive before (← read).size significand 0

/-- Integer digits past 64 bits: each raises the decimal exponent. -/
def longDigits (positive : Bool) (significand : Nat) : Nat → Int → Scan Float
  | 0, exponent => fromParts positive significand exponent
  | fuel + 1, exponent => do
    match ← peek? with
    | some c =>
      if isDigit c then do eat; longDigits positive significand fuel (exponent + 1)
      else if c == 46 then fractionPart positive significand exponent
      else if c == 101 || c == 69 then exponentPart positive significand exponent
      else fromParts positive significand exponent
    | none => fromParts positive significand exponent

/-- What follows the integer digits: a fraction, an exponent, or nothing. -/
def numberEnd (positive : Bool) (significand : Nat) : Scan Number := do
  match ← peek? with
  | some 46 => return .float (← fractionPart positive significand 0)
  | some 101 | some 69 => return .float (← exponentPart positive significand 0)
  | _ =>
    if positive then pure (.int significand)
    else if 0 < significand && significand ≤ Nat.pow 2 63 then pure (.int (-(significand : Int)))
    else pure (.float (-(Binary.round false significand 0)))

/-- Integer digits after the first, while they fit 64 bits. -/
def integerDigits (positive : Bool) : Nat → Nat → Scan Number
  | 0, significand => numberEnd positive significand
  | fuel + 1, significand => do
    match ← peek? with
    | some c =>
      if isDigit c then
        let d := c.toNat - 48
        if overflows significand d u64Max then
          return .float (← longDigits positive significand (← read).size 0)
        else
          eat
          integerDigits positive fuel (significand * 10 + d)
      else numberEnd positive significand
    | none => numberEnd positive significand

/-- A number, after its minus sign if it has one. -/
def number (positive : Bool) : Scan Number := do
  match ← next? with
  | none => failAt .eofInValue
  | some c =>
    if c == 48 then
      match ← peek? with
      | some d => if isDigit d then failAfter .invalidNumber else numberEnd positive 0
      | none => numberEnd positive 0
    else if 49 ≤ c && c ≤ 57 then integerDigits positive (← read).size (c.toNat - 48)
    else failAt .invalidNumber

/-- An exponent, only checked, at its `e`. -/
def skipExponent : Scan Unit := do
  eat
  match ← peek? with
  | some 43 | some 45 => eat
  | _ => pure ()
  match ← next? with
  | some c => if isDigit c then skipDigits else failAt .invalidNumber
  | none => failAt .invalidNumber

/-- A fraction, only checked, at its point. -/
def skipFraction : Scan Unit := do
  eat
  let start ← get
  skipDigits
  if (← get) == start then failAfter .invalidNumber
  else
    match ← peek? with
    | some 101 | some 69 => skipExponent
    | _ => pure ()

/-- A number, only checked, after its minus sign if it has one. -/
def skipNumber : Scan Unit := do
  match ← next? with
  | some 48 =>
    match ← peek? with
    | some d => if isDigit d then failAfter .invalidNumber else pure ()
    | none => pure ()
  | some c => if 49 ≤ c && c ≤ 57 then skipDigits else failAt .invalidNumber
  | none => failAt .invalidNumber
  match ← peek? with
  | some 46 => skipFraction
  | some 101 | some 69 => skipExponent
  | _ => pure ()

/-- Run a scan over a text from its start. -/
def runOn {α : Type} (s : Scan α) (text : String) : Except ReadError α :=
  StateT.run' (ReaderT.run s text.toUTF8) 0

end Scan

end ResourceRoutes.Json
