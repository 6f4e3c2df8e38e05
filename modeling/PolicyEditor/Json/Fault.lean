import PolicyEditor.Json

/-!
# Faults of JSON texts and values

A JSON text can be malformed, and a value can have another shape than the one that is needed.

## Main definitions

* `Json.Malformation` : what is wrong with a text.
* `Json.Mismatch` : how a value differs from what is needed.
* `Json.Fault` : one of both, with the byte offset in a text where it was noticed.
* `Json.lineAndColumn` : the line and column of a byte offset, by counting.
-/

namespace PolicyEditor.Json

/-- What is wrong with a JSON text. -/
inductive Malformation where
  | endInList
  | endInObject
  | endInString
  | endInValue
  | noColon
  | noListComma
  | noObjectComma
  | unknownWord
  | noValue
  | badEscape
  | badNumber
  | numberOutOfRange
  | controlCharacter
  | keyNotString
  | loneSurrogate
  | trailingComma
  | trailingCharacters
  | endInHexEscape
  | tooDeep
deriving DecidableEq, Repr

/-- The wording of a malformation. -/
def Malformation.message : Malformation → String
  | endInList => "EOF while parsing a list"
  | endInObject => "EOF while parsing an object"
  | endInString => "EOF while parsing a string"
  | endInValue => "EOF while parsing a value"
  | noColon => "expected `:`"
  | noListComma => "expected `,` or `]`"
  | noObjectComma => "expected `,` or `\x7d`"
  | unknownWord => "expected ident"
  | noValue => "expected value"
  | badEscape => "invalid escape"
  | badNumber => "invalid number"
  | numberOutOfRange => "number out of range"
  | controlCharacter => "control character (\\u0000-\\u001F) found while parsing a string"
  | keyNotString => "key must be a string"
  | loneSurrogate => "lone leading surrogate in hex escape"
  | trailingComma => "trailing comma"
  | trailingCharacters => "trailing characters"
  | endInHexEscape => "unexpected end of hex escape"
  | tooDeep => "recursion limit exceeded"

/-- How a value differs from what is needed. -/
inductive Mismatch where
  /-- A value of another type. -/
  | wrongType (found : Json) (wanted : String)
  /-- An integer that does not fit. -/
  | wrongValue (found : Json) (wanted : String)
  /-- An object without a member that is needed. -/
  | missingField (name : String)
  /-- A text that has a member twice. -/
  | duplicateField (name : String)
  /-- An array of the wrong length. -/
  | wrongLength (length : Nat) (wanted : String)
  /-- A value that fits none of the shapes of `type`. -/
  | noVariant (type : String)

/-- The wording of a mismatch. -/
def Mismatch.message : Mismatch → String
  | wrongType found wanted => s!"invalid type: {found.describe}, expected {wanted}"
  | wrongValue found wanted => s!"invalid value: {found.describe}, expected {wanted}"
  | missingField name => s!"missing field `{name}`"
  | duplicateField name => s!"duplicate field `{name}`"
  | wrongLength length wanted => s!"invalid length {length}, expected {wanted}"
  | noVariant type => s!"data did not match any variant of untagged enum {type}"

/-- A fault of a JSON text, and the byte offset at which it was noticed. -/
structure Fault where
  offset : Nat
  cause : Malformation ⊕ Mismatch

/-- The line behind the next `count` bytes of a text, and how many bytes of it are in front of this
place.  The text starts on the line `line`, behind `column` bytes. -/
def lineAndColumn (line column : Nat) : (count : Nat) → List Char → Nat × Nat
  | count, [] => (line, column + count)
  | count, c :: cs =>
    if count < c.utf8Size then (line, column + count)
    else if c = '\n' then lineAndColumn (line + 1) 0 (count - c.utf8Size) cs
    else lineAndColumn line (column + c.utf8Size) (count - c.utf8Size) cs

/-- The wording of a fault of the given text.  Lines are counted from one; the column is the number
of bytes that were read of the line. -/
def Fault.message (f : Fault) (text : List Char) : String :=
  let (line, column) := lineAndColumn 1 0 f.offset text
  let cause :=
    match f.cause with
    | .inl malformation => malformation.message
    | .inr mismatch => mismatch.message
  s!"{cause} at line {line} column {column}"

end PolicyEditor.Json
