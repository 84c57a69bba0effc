/-!
# Errors of reading JSON text

A reading error names its cause and where it was found: the line (from 1) and the column,
counted in bytes from the start of the line. Errors that concern a value's type rather than
the text (`custom`) get the position of the reader when they surface.
-/

namespace ResourceRoutes.Json

/-- Why JSON text could not be read. -/
inductive SyntaxError where
  | eofInList
  | eofInObject
  | eofInString
  | eofInValue
  | expectedColon
  | expectedListCommaOrEnd
  | expectedObjectCommaOrEnd
  | expectedIdent
  | expectedValue
  | invalidEscape
  | invalidNumber
  | numberOutOfRange
  | controlCharacter
  | keyMustBeString
  | loneSurrogate
  | trailingComma
  | trailingCharacters
  | unexpectedEndOfHexEscape
  | recursionLimit
  /-- A failure of the expected shape, such as a value of the wrong type. -/
  | custom (message : String)
  deriving Repr, DecidableEq

/-- The text of a cause. -/
def SyntaxError.message : SyntaxError → String
  | .eofInList => "EOF while parsing a list"
  | .eofInObject => "EOF while parsing an object"
  | .eofInString => "EOF while parsing a string"
  | .eofInValue => "EOF while parsing a value"
  | .expectedColon => "expected `:`"
  | .expectedListCommaOrEnd => "expected `,` or `]`"
  | .expectedObjectCommaOrEnd => "expected `,` or `\x7d`"
  | .expectedIdent => "expected ident"
  | .expectedValue => "expected value"
  | .invalidEscape => "invalid escape"
  | .invalidNumber => "invalid number"
  | .numberOutOfRange => "number out of range"
  | .controlCharacter => "control character (\\u0000-\\u001F) found while parsing a string"
  | .keyMustBeString => "key must be a string"
  | .loneSurrogate => "lone leading surrogate in hex escape"
  | .trailingComma => "trailing comma"
  | .trailingCharacters => "trailing characters"
  | .unexpectedEndOfHexEscape => "unexpected end of hex escape"
  | .recursionLimit => "recursion limit exceeded"
  | .custom m => m

/-- A reading error with its position; line `0` means no position is known. -/
structure ReadError where
  reason : SyntaxError
  line : Nat
  column : Nat
  deriving Repr, DecidableEq

/-- The text of a reading error, with its position when known. -/
def ReadError.message (e : ReadError) : String :=
  if e.line = 0 then e.reason.message
  else e.reason.message ++ " at line " ++ toString e.line ++ " column " ++ toString e.column

/-- Line and column of byte offset `i`: newlines before it, and bytes since the last one. -/
def positionOf (b : ByteArray) (i : Nat) : Nat × Nat :=
  (b.extract 0 i).foldl (fun (line, col) byte => if byte = 10 then (line + 1, 0) else (line, col + 1))
    (1, 0)

end ResourceRoutes.Json
