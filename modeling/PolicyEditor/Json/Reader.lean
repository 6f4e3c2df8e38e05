import PolicyEditor.Json.Fault
import PolicyEditor.Text.Cursor

/-!
# Reading JSON texts

A text is read from left to right, and the first fault ends the reading.  A fault about a
character that was looked at is placed behind this character, and a fault about what was consumed
is placed behind that.

## Main definitions

* `Json.Scan` : the result of reading a piece of a text.
* `Json.readString`, `Json.readNumber` : strings and numbers.
* `Json.readValue` : any value, nested up to a limit.
* `Json.skipValue` : go past a value that is of no interest.
-/

namespace PolicyEditor.Json

/-- The result of reading a text: a fault, or what was read. -/
abbrev Scan := Except Fault

/-- White space between the tokens of a JSON text. -/
def isBlank (c : Char) : Bool :=
  c == ' ' || c == '\n' || c == '\t' || c == '\r'

/-- A decimal digit. -/
def isDigit (c : Char) : Bool :=
  '0' ≤ c && c ≤ '9'

/-- The place behind white space. -/
def skipBlanks (c : Cursor) : Cursor :=
  c.advance (c.rest.takeWhile isBlank) (c.rest.dropWhile isBlank)

/-- The place behind the next character. -/
def skipChar (c : Cursor) : Cursor :=
  match c.rest with
  | [] => c
  | ch :: cs => c.advance [ch] cs

/-- A fault behind what was consumed. -/
def faultBehind (c : Cursor) (cause : Malformation) : Fault :=
  ⟨c.offset, .inl cause⟩

/-- A fault about the next character, of which one byte counts as read. -/
def faultAt (c : Cursor) (cause : Malformation) : Fault :=
  ⟨if c.rest.isEmpty then c.offset else c.offset + 1, .inl cause⟩

/-- A mismatch noticed behind what was consumed. -/
def mismatch (c : Cursor) (cause : Mismatch) : Fault :=
  ⟨c.offset, .inr cause⟩

/-! ### Strings -/

/-- The value of a hexadecimal digit. -/
def hexDigit? (c : Char) : Option Nat :=
  if isDigit c then some (c.toNat - '0'.toNat)
  else if 'a' ≤ c ∧ c ≤ 'f' then some (c.toNat - 'a'.toNat + 10)
  else if 'A' ≤ c ∧ c ≤ 'F' then some (c.toNat - 'A'.toNat + 10)
  else none

/-- The value of four hexadecimal digits. -/
def hexValue? (digits : List Char) : Option Nat :=
  (digits.mapM hexDigit?).bind fun values =>
    if values.length = 4 then some (values.foldl (fun n d => 16 * n + d) 0) else none

/-- Four hexadecimal digits.  Four bytes are consumed even if they are none. -/
def readHex (c : Cursor) : Scan (Nat × Cursor) :=
  match hexValue? (c.rest.take 4) with
  | some n => .ok (n, c.advance (c.rest.take 4) (c.rest.drop 4))
  | none =>
    let size := Text.byteLength c.rest
    if size < 4 then .error ⟨c.offset + size, .inl .endInString⟩
    else .error ⟨c.offset + 4, .inl .badEscape⟩

/-- The character `expected` in front of the second half of a surrogate pair. -/
def readPairMark (expected : Char) (c : Cursor) : Scan Cursor :=
  match c.rest with
  | [] => .error (faultBehind c .endInString)
  | ch :: _ => if ch = expected then .ok (skipChar c) else .error (faultAt c .endInHexEscape)

/-- The character of a `\u` escape, behind the `u`.  Characters beyond 16 bits are written as
surrogate pairs. -/
def readUnicodeEscape (c : Cursor) : Scan (Char × Cursor) := do
  let (n, c) ← readHex c
  if 0xDC00 ≤ n ∧ n ≤ 0xDFFF then .error (faultBehind c .loneSurrogate)
  else if n < 0xD800 ∨ 0xDBFF < n then return (Char.ofNat n, c)
  else
    let c ← readPairMark '\\' c
    let c ← readPairMark 'u' c
    let (m, c) ← readHex c
    if m < 0xDC00 ∨ 0xDFFF < m then .error (faultBehind c .loneSurrogate)
    else return (Char.ofNat (0x10000 + (n - 0xD800) * 0x400 + (m - 0xDC00)), c)

/-- The character of an escape with a single letter. -/
def simpleEscape? (c : Char) : Option Char :=
  match c with
  | '"' | '\\' | '/' => some c
  | 'b' => some '\x08'
  | 'f' => some '\x0c'
  | 'n' => some '\n'
  | 'r' => some '\r'
  | 't' => some '\t'
  | _ => none

/-- The character of an escape, behind the backslash. -/
def readEscape (c : Cursor) : Scan (Char × Cursor) :=
  match c.rest with
  | [] => .error (faultBehind c .endInString)
  | 'u' :: _ => readUnicodeEscape (skipChar c)
  | ch :: _ =>
    match simpleEscape? ch with
    | some value => .ok (value, skipChar c)
    | none => .error (faultAt c .badEscape)

/-- The characters of a string up to and including the closing quote, at most `limit` many. -/
def readChars : (limit : Nat) → Cursor → Scan (List Char × Cursor)
  | 0, c => .error (faultBehind c .endInString)
  | limit + 1, c =>
    match c.rest with
    | [] => .error (faultBehind c .endInString)
    | '"' :: _ => .ok ([], skipChar c)
    | '\\' :: _ => do
      let (ch, c) ← readEscape (skipChar c)
      let (chs, c) ← readChars limit c
      return (ch :: chs, c)
    | ch :: _ =>
      if ch.toNat < 0x20 then .error (faultAt c .controlCharacter)
      else do
        let (chs, c) ← readChars limit (skipChar c)
        return (ch :: chs, c)

/-- A string behind its opening quote. -/
def readString (c : Cursor) : Scan (String × Cursor) :=
  (readChars (c.rest.length + 1) c).map fun p => (String.ofList p.1, p.2)

/-! ### Numbers -/

/-- The digits at a place, and the place behind them. -/
def readDigits (c : Cursor) : List Char × Cursor :=
  let digits := c.rest.takeWhile isDigit
  (digits, c.advance digits (c.rest.dropWhile isDigit))

/-- The value of a list of digits. -/
def digitsValue (digits : List Char) : Nat :=
  digits.foldl (fun n d => 10 * n + (d.toNat - '0'.toNat)) 0

/-- The value followed by the first of the digits, as many as fit into 64 bits, and the number of
those behind them. -/
def significand : List Char → (value : Nat := 0) → Nat × Nat
  | [], value => (value, 0)
  | d :: ds, value =>
    let next := 10 * value + (d.toNat - '0'.toNat)
    if next < 2 * int64Bound then significand ds next else (value, ds.length + 1)

/-- A number divided by powers of ten, of which the hardware knows those up to `10 ^ 308`. -/
def divideByPower : (steps : Nat) → Float → (exponent : Nat) → Float
  | 0, x, _ => x
  | steps + 1, x, exponent =>
    if exponent ≤ 308 then x / Float.ofScientific 1 false exponent
    else if x == 0 then x
    else divideByPower steps (x / Float.ofScientific 1 false 308) (exponent - 308)

/-- The number `value * 10 ^ exponent`, computed in one or a few roundings. -/
def scale? (value : Nat) (exponent : Int) : Option Float :=
  let x := value.toFloat
  if exponent < 0 then some (divideByPower 8 x (-exponent).toNat)
  else if 308 < exponent then if value = 0 then some x else none
  else
    let y := x * Float.ofScientific 1 false exponent.toNat
    if y.isInf then none else some y

/-- A floating point number behind its last character. -/
def finishFloat (positive : Bool) (value : Nat) (exponent : Int) (c : Cursor) :
    Scan (Json × Cursor) :=
  match scale? value exponent with
  | some x => .ok (float (if positive then x else -x), c)
  | none => .error (faultBehind c .numberOutOfRange)

/-- The digits of an exponent up to the one at which it exceeds 31 bits. -/
def excessDigits? (digits : List Char) : Option (List Char) :=
  ((List.range digits.length).map fun i => digits.take (i + 1)).find? fun front =>
    0x7FFFFFFF < digitsValue front

/-- A number from its exponent mark on, whose digits have the given value and exponent.  An exponent
of more than 31 bits makes the number zero or puts it out of range, which is noticed at once. -/
def readExponent (positive : Bool) (value : Nat) (exponent : Int) (c : Cursor) :
    Scan (Json × Cursor) :=
  let c := skipChar c
  let negative := c.rest.head? == some '-'
  let c := if negative || c.rest.head? == some '+' then skipChar c else c
  let (digits, c') := readDigits c
  if digits.isEmpty then
    .error (if c.rest.isEmpty then faultBehind c .endInValue else faultAt c .badNumber)
  else
    let shift := digitsValue digits
    match excessDigits? digits with
    | some front =>
      if negative || value = 0 then finishFloat positive 0 0 c'
      else .error (faultBehind (c.advance front []) .numberOutOfRange)
    | none =>
      finishFloat positive value (if negative then exponent - shift else exponent + shift) c'

/-- The next character marks an exponent. -/
def atExponent (c : Cursor) : Bool :=
  c.rest.head? == some 'e' || c.rest.head? == some 'E'

/-- A number from its point on, before which it has the digits `whole`.  Digits that do not fit into
64 bits any more are dropped. -/
def readFraction (positive : Bool) (whole : List Char) (c : Cursor) : Scan (Json × Cursor) :=
  let c := skipChar c
  let (digits, c') := readDigits c
  if digits.isEmpty then
    .error (faultAt c (if c.rest.isEmpty then .endInValue else .badNumber))
  else
    let (front, dropped) := significand whole
    let (value, dropped') := significand digits front
    let exponent : Int := dropped + dropped' - digits.length
    if atExponent c' then readExponent positive value exponent c'
    else finishFloat positive value exponent c'

/-- A number behind its sign. -/
def readNumber (positive : Bool) (c : Cursor) : Scan (Json × Cursor) :=
  let (digits, c') := readDigits c
  if digits.isEmpty then
    .error (if c.rest.isEmpty then faultBehind c .endInValue else faultAt c .badNumber)
  else if digits.head? == some '0' && digits.length != 1 then
    .error (faultAt (skipChar c) .badNumber)
  else if c'.rest.head? == some '.' then readFraction positive digits c'
  else
    let (value, dropped) := significand digits
    if atExponent c' then readExponent positive value dropped c'
    else if dropped != 0 then finishFloat positive value dropped c'
    else if positive then .ok (integer value, c')
    else if value = 0 ∨ int64Bound < value then .ok (float (-value.toFloat), c')
    else .ok (integer (-value), c')

/-! ### Values -/

/-- The place behind the letters of a word. -/
def readWord : List Char → Cursor → Scan Cursor
  | [], c => .ok c
  | letter :: letters, c =>
    match c.rest with
    | [] => .error (faultBehind c .endInValue)
    | ch :: _ =>
      if ch = letter then readWord letters (skipChar c) else .error (faultAt c .unknownWord)

/-- A value that is neither an array nor an object, behind blanks. -/
def readScalar (c : Cursor) : Scan (Json × Cursor) :=
  match c.rest with
  | [] => .error (faultAt c .endInValue)
  | 'n' :: _ => (readWord "null".toList c).map (null, ·)
  | 't' :: _ => (readWord "true".toList c).map (bool true, ·)
  | 'f' :: _ => (readWord "false".toList c).map (bool false, ·)
  | '-' :: _ => readNumber false (skipChar c)
  | '"' :: _ => (readString (skipChar c)).map fun p => (string p.1, p.2)
  | ch :: _ => if isDigit ch then readNumber true c else .error (faultAt c .noValue)

/-- The place of the next item of an array, or none at its end.  A comma stands in front of every
item but the first. -/
def nextItem? (first : Bool) (c : Cursor) : Scan (Option Cursor) :=
  let c := skipBlanks c
  match c.rest with
  | [] => .error (faultAt c .endInList)
  | ']' :: _ => .ok none
  | ch :: _ =>
    if first then .ok (some c)
    else if ch = ',' then
      let c := skipBlanks (skipChar c)
      match c.rest with
      | [] => .error (faultAt c .endInValue)
      | ']' :: _ => .error (faultAt c .trailingComma)
      | _ => .ok (some c)
    else .error (faultAt c .noListComma)

/-- The place behind the opening quote of the next key of an object, or none at its end. -/
def nextKey? (first : Bool) (c : Cursor) : Scan (Option Cursor) :=
  let c := skipBlanks c
  match c.rest with
  | [] => .error (faultAt c .endInObject)
  | '\x7d' :: _ => .ok none
  | ch :: _ =>
    if first then
      if ch = '"' then .ok (some (skipChar c)) else .error (faultAt c .keyNotString)
    else if ch = ',' then
      let c := skipBlanks (skipChar c)
      match c.rest with
      | [] => .error (faultAt c .endInValue)
      | '"' :: _ => .ok (some (skipChar c))
      | '\x7d' :: _ => .error (faultAt c .trailingComma)
      | _ => .error (faultAt c .keyNotString)
    else .error (faultAt c .noObjectComma)

/-- The place behind the colon that follows a key. -/
def readColon (c : Cursor) : Scan Cursor :=
  let c := skipBlanks c
  match c.rest with
  | [] => .error (faultAt c .endInObject)
  | ':' :: _ => .ok (skipChar c)
  | _ => .error (faultAt c .noColon)

/-- The place behind the closing bracket or brace of a list or object that has ended. -/
def closing (c : Cursor) : Cursor :=
  skipChar (skipBlanks c)

/-- The items of an array behind its bracket, at most `limit` many. -/
def readItems (value : Cursor → Scan (Json × Cursor)) : (limit : Nat) → (first : Bool) → Cursor →
    Scan (List Json × Cursor)
  | 0, _, c => .error (faultAt c .endInList)
  | limit + 1, first, c => do
    match ← nextItem? first c with
    | none => return ([], closing c)
    | some c =>
      let (item, c) ← value c
      let (items, c) ← readItems value limit false c
      return (item :: items, c)

/-- The members of an object behind its brace, at most `limit` many.  Of members with the same key
the last one counts. -/
def readMembers (value : Cursor → Scan (Json × Cursor)) : (limit : Nat) → (first : Bool) →
    (members : List (String × Json)) → Cursor → Scan (List (String × Json) × Cursor)
  | 0, _, _, c => .error (faultAt c .endInObject)
  | limit + 1, first, members, c => do
    match ← nextKey? first c with
    | none => return (members, closing c)
    | some c =>
      let (key, c) ← readString c
      let (item, c) ← value (← readColon c)
      readMembers value limit false (insertMember key item members) c

/-- A value with less than `depth` arrays and objects around each other. -/
def readValue : (depth : Nat) → Cursor → Scan (Json × Cursor)
  | 0, c => .error (faultAt c .tooDeep)
  | depth + 1, c =>
    let c := skipBlanks c
    match c.rest with
    | '[' :: _ =>
      if depth = 0 then .error (faultAt c .tooDeep)
      else
        (readItems (readValue depth) (c.rest.length + 1) true (skipChar c)).map fun p =>
          (array p.1, p.2)
    | '\x7b' :: _ =>
      if depth = 0 then .error (faultAt c .tooDeep)
      else
        (readMembers (readValue depth) (c.rest.length + 1) true [] (skipChar c)).map fun p =>
          (object p.1, p.2)
    | _ => readScalar c

/-- The greatest number of arrays and objects around each other, and one more. -/
def depthLimit : Nat := 128

/-- There is nothing but blanks behind the value. -/
def readEnd (c : Cursor) : Scan Unit :=
  let c := skipBlanks c
  if c.rest.isEmpty then .ok () else .error (faultAt c .trailingCharacters)

/-- The value of a text that holds nothing else. -/
def parse (text : String) : Scan Json := do
  let (value, c) ← readValue depthLimit (.ofText text.toList)
  readEnd c
  return value

/-! ### Values of no interest

A value that is skipped may be nested to any depth, its numbers may have any size, and its strings
may hold lone surrogates.
-/

/-- The kinds of brackets that are open while a value is skipped. -/
inductive Bracket where
  | list
  | object
deriving DecidableEq, Repr

/-- The place behind a number, from its exponent mark on. -/
def skipExponent (c : Cursor) : Scan Cursor :=
  let c := skipChar c
  let signed := c.rest.head? == some '-' || c.rest.head? == some '+'
  let c := if signed then skipChar c else c
  let (digits, c') := readDigits c
  if digits.isEmpty then .error (faultAt c .badNumber) else .ok c'

/-- The place behind a number, behind its sign. -/
def skipNumber (c : Cursor) : Scan Cursor :=
  let (digits, c') := readDigits c
  if digits.isEmpty then .error (faultAt c .badNumber)
  else if digits.head? == some '0' && digits.length != 1 then
    .error (faultAt (skipChar c) .badNumber)
  else if c'.rest.head? == some '.' then
    let c := skipChar c'
    let (digits, c') := readDigits c
    if digits.isEmpty then .error (faultAt c .badNumber)
    else if atExponent c' then skipExponent c' else .ok c'
  else if atExponent c' then skipExponent c' else .ok c'

/-- The place behind an escape of a string, behind its backslash. -/
def skipEscape (c : Cursor) : Scan Cursor :=
  match c.rest with
  | 'u' :: _ => (readHex (skipChar c)).map (·.2)
  | _ => (readEscape c).map (·.2)

/-- The place behind the closing quote of a string with at most `limit` characters.  A control
character does not count as read. -/
def skipChars : (limit : Nat) → Cursor → Scan Cursor
  | 0, c => .error (faultBehind c .endInString)
  | limit + 1, c =>
    match c.rest with
    | [] => .error (faultBehind c .endInString)
    | '"' :: _ => .ok (skipChar c)
    | '\\' :: _ => do skipChars limit (← skipEscape (skipChar c))
    | ch :: _ =>
      if ch.toNat < 0x20 then .error (faultBehind c .controlCharacter)
      else skipChars limit (skipChar c)

/-- The place behind a string, behind its opening quote. -/
def skipString (c : Cursor) : Scan Cursor :=
  skipChars (c.rest.length + 1) c

/-- The place behind a value that is neither an array nor an object. -/
def skipScalar (c : Cursor) : Scan Cursor :=
  match c.rest with
  | '-' :: _ => skipNumber (skipChar c)
  | '"' :: _ => skipString (skipChar c)
  | ch :: _ => if isDigit ch then skipNumber c else (readScalar c).map (·.2)
  | [] => .error (faultAt c .endInValue)

/-- The place behind the key of a member and its colon. -/
def skipKey (c : Cursor) : Scan Cursor := do
  let c := skipBlanks c
  match c.rest with
  | [] => .error (faultAt c .endInObject)
  | '"' :: _ => readColon (← skipString (skipChar c))
  | _ => .error (faultAt c .keyNotString)

/-- The place of the next item within the open brackets, behind closing brackets and a comma, and
the brackets that are still open.  At the start of a bracket no comma is needed. -/
def skipClosings : (limit : Nat) → (start : Bool) → List Bracket → Cursor →
    Scan (List Bracket × Cursor)
  | 0, _, _, c => .error (faultAt c .noValue)
  | _ + 1, _, [], c => .ok ([], c)
  | limit + 1, start, bracket :: brackets, c =>
    let c := skipBlanks c
    match c.rest, bracket with
    | [], .list => .error (faultAt c .endInList)
    | [], .object => .error (faultAt c .endInObject)
    | ']' :: _, .list | '\x7d' :: _, .object => skipClosings limit false brackets (skipChar c)
    | ch :: _, _ =>
      if start then .ok (bracket :: brackets, c)
      else if ch = ',' then .ok (bracket :: brackets, skipChar c)
      else
        .error (faultAt c (if bracket = .list then .noListComma else .noObjectComma))

/-- The place behind a value within open brackets and behind the last of them, where the value has
at most `limit` parts. -/
def skipWithin : (limit : Nat) → List Bracket → Cursor → Scan Cursor
  | 0, _, c => .error (faultAt c .noValue)
  | limit + 1, brackets, c => do
    let c := skipBlanks c
    let (start, brackets, c) ←
      match c.rest with
      | '[' :: _ => pure (true, Bracket.list :: brackets, skipChar c)
      | '\x7b' :: _ => pure (true, Bracket.object :: brackets, skipChar c)
      | _ => pure (false, brackets, ← skipScalar c)
    let (brackets, c) ← skipClosings (c.rest.length + brackets.length + 1) start brackets c
    match brackets with
    | [] => return c
    | .list :: _ => skipWithin limit brackets c
    | .object :: _ => skipWithin limit brackets (← skipKey c)

/-- The place behind a value that is of no interest. -/
def skipValue (c : Cursor) : Scan Cursor :=
  skipWithin (c.rest.length + 1) [] c

end PolicyEditor.Json
