import PolicyEditor.Pattern
import PolicyEditor.Pattern.Property

/-!
# Escapes of patterns

A backslash gives the character behind it another meaning, or takes its special meaning away.  What
is meant depends on the modes, which flags like `(?i)` set for a part of a pattern.

## Main definitions

* `Pattern.Modes`, `Pattern.Flag` : the modes and the flags that set them.
* `Pattern.Modes.skip` : go past what has no meaning between the parts of a pattern.
* `Pattern.Escape` : the meaning of an escape.
* `Pattern.readEscape?` : an escape behind its backslash.
-/

namespace PolicyEditor.Pattern

/-! ### Modes -/

/-- The modes in which a part of a pattern is read. -/
structure Modes where
  /-- Characters match in every case. -/
  caseless : Bool := false
  /-- The marks `^` and `$` match at the ends of lines. -/
  multiline : Bool := false
  /-- A point matches the end of a line too. -/
  dotAll : Bool := false
  /-- Repetitions prefer short matches, unless a question mark follows them. -/
  swapGreed : Bool := false
  /-- Classes go beyond ASCII. -/
  unicode : Bool := true
  /-- A carriage return may stand at the end of a line. -/
  crlf : Bool := false
  /-- White space and comments have no meaning. -/
  verbose : Bool := false
deriving DecidableEq, Repr

/-- What a flag sets. -/
inductive Flag where
  | caseless
  | multiline
  | dotAll
  | swapGreed
  | unicode
  | crlf
  | verbose
deriving DecidableEq, Repr

/-- The flag of a letter. -/
def Flag.ofLetter? : Char → Option Flag
  | 'i' => some caseless
  | 'm' => some multiline
  | 's' => some dotAll
  | 'U' => some swapGreed
  | 'u' => some unicode
  | 'R' => some crlf
  | 'x' => some verbose
  | _ => none

namespace Modes

/-- The modes after a flag was set or reset. -/
def set (m : Modes) (change : Flag × Bool) : Modes :=
  match change with
  | (.caseless, on) => { m with caseless := on }
  | (.multiline, on) => { m with multiline := on }
  | (.dotAll, on) => { m with dotAll := on }
  | (.swapGreed, on) => { m with swapGreed := on }
  | (.unicode, on) => { m with unicode := on }
  | (.crlf, on) => { m with crlf := on }
  | (.verbose, on) => { m with verbose := on }

/-- The text behind white space and comments, which end with their line. -/
def skipComments : (comment : Bool) → List Char → List Char
  | _, [] => []
  | true, c :: cs => skipComments (c != '\n') cs
  | false, c :: cs =>
    if c = '#' then skipComments true cs
    else if Text.isWhite c then skipComments false cs
    else c :: cs

/-- The text behind what has no meaning. -/
def skip (m : Modes) (cs : List Char) : List Char :=
  if m.verbose then skipComments false cs else cs

/-- The class in every case, if case makes no difference. -/
def fold (m : Modes) (s : CharClass) : CharClass :=
  if m.caseless then s.caseless (!m.unicode) else s

/-- The class or its complement.  A complement goes beyond ASCII. -/
def negate? (m : Modes) (negated : Bool) (s : CharClass) : Option CharClass :=
  if !negated then some s else if m.unicode then some s.complement else none

/-- A condition on a place that depends on what characters words have. -/
def wordEdge (m : Modes) (edge : WordEdge) : Edge :=
  .word edge (!m.unicode)

end Modes

/-! ### Escapes -/

/-- The meaning of an escape. -/
inductive Escape where
  | char (c : Char)
  /-- A code point of at most eight bits, written as a byte. -/
  | byte (c : Char)
  | chars (s : CharClass)
  | edge (e : Edge)
deriving DecidableEq, Repr

/-- A hexadecimal digit. -/
def hexDigit? (c : Char) : Option Nat :=
  if '0' ≤ c ∧ c ≤ '9' then some (c.toNat - '0'.toNat)
  else if 'a' ≤ c ∧ c ≤ 'f' then some (c.toNat - 'a'.toNat + 10)
  else if 'A' ≤ c ∧ c ≤ 'F' then some (c.toNat - 'A'.toNat + 10)
  else none

/-- The value of hexadecimal digits, of which there is one at least. -/
def hexValue? (digits : List Char) : Option Nat :=
  if digits.isEmpty then none
  else (digits.mapM hexDigit?).map fun values => values.foldl (fun n d => 16 * n + d) 0

/-- The character of a code point. -/
def charOfCode? (n : Nat) : Option Char :=
  if n.isValidChar then some (Char.ofNat n) else none

/-- The next `count` characters. -/
def takeChars? (m : Modes) : (count : Nat) → List Char → Option (List Char × List Char)
  | 0, cs => some ([], cs)
  | _ + 1, [] => none
  | count + 1, c :: cs => do
    let (taken, cs) ← takeChars? m count (m.skip cs)
    return (c :: taken, cs)

/-- The characters up to a closing brace, and the text behind it.  It starts within a comment or
outside of one. -/
def takeToBrace? (m : Modes) : (comment : Bool) → List Char → Option (List Char × List Char)
  | _, [] => none
  | true, c :: cs => takeToBrace? m (c != '\n') cs
  | false, c :: cs =>
    if m.verbose && c == '#' then takeToBrace? m true cs
    else if m.verbose && Text.isWhite c then takeToBrace? m false cs
    else if c = '\x7d' then some ([], cs)
    else (takeToBrace? m false cs).map fun (taken, cs) => (c :: taken, cs)

/-- A character by its code point, which has `count` hexadecimal digits or stands in braces. -/
def readCode? (m : Modes) (count : Nat) (cs : List Char) : Option (Escape × List Char) :=
  match m.skip cs with
  | '\x7b' :: cs => do
    let (digits, cs) ← takeToBrace? m false cs
    return (.char (← charOfCode? (← hexValue? digits)), cs)
  | cs => do
    let (digits, cs) ← takeChars? m count cs
    let c ← charOfCode? (← hexValue? digits)
    return (if count = 2 then .byte c else .char c, cs)

/-- The class of a property, which is a letter or stands in braces. -/
def readProperty? (m : Modes) (cs : List Char) : Option (CharClass × List Char) :=
  match m.skip cs with
  | [] | '\\' :: _ => none
  | '\x7b' :: cs => do
    let (name, cs) ← takeToBrace? m false cs
    let property := name.takeWhile fun c => !(c == ':' || c == '=')
    match name.drop property.length with
    | [] => return (← CharClass.ofName? name, cs)
    | mark :: value =>
      let unequal := mark == '=' && property.getLast? == some '!'
      let property := if unequal then property.dropLast else property
      return (← CharClass.ofValue? property value, cs)
  | c :: cs => (CharClass.ofName? [c]).map (·, cs)

/-- A class by property, or its complement. -/
def readProperties? (m : Modes) (negated : Bool) (cs : List Char) :
    Option (Escape × List Char) := do
  if !m.unicode then none
  let (s, cs) ← readProperty? m cs
  return (.chars (← m.negate? negated (m.fold s)), cs)

/-- The condition with a name in braces. -/
def wordEdgeOfName? : (name : String) → Option WordEdge
  | "start" => some .start
  | "end" => some .stop
  | "start-half" => some .startHalf
  | "end-half" => some .stopHalf
  | _ => none

/-- The condition at the edge of a word, which a name in braces may specify.  Other braces do not
belong to it. -/
def readWordEdge? (m : Modes) (cs : List Char) : Option (Escape × List Char) :=
  match cs with
  | '\x7b' :: inner =>
    match m.skip inner with
    | [] => none
    | c :: _ =>
      if c.isAlpha || c == '-' then do
        let (name, cs) ← takeToBrace? m false inner
        return (.edge (m.wordEdge (← wordEdgeOfName? (String.ofList name))), cs)
      else some (.edge (m.wordEdge .change), cs)
  | _ => some (.edge (m.wordEdge .change), cs)

/-- The class of a letter, or its complement. -/
def kindOfLetter? (m : Modes) (letter : Char) : Option CharClass :=
  match letter with
  | 'd' => some (if m.unicode then .digit else .asciiDigit)
  | 's' => some (if m.unicode then .white else .asciiWhite)
  | 'w' => some (if m.unicode then .word else .asciiWord)
  | _ => none

/-- The character that another one stands for behind a backslash.  Punctuation stands for itself. -/
def controlOfLetter? : Char → Option Char
  | 'a' => some '\x07'
  | 'f' => some '\x0c'
  | 'n' => some '\n'
  | 'r' => some '\r'
  | 't' => some '\t'
  | 'v' => some '\x0b'
  | '<' | '>' => none
  | c => if c.toNat < 128 && !c.isAlphanum then some c else none

/-- An escape behind its backslash. -/
def readEscape? (m : Modes) : List Char → Option (Escape × List Char)
  | [] => none
  | 'x' :: cs => readCode? m 2 cs
  | 'u' :: cs => readCode? m 4 cs
  | 'U' :: cs => readCode? m 8 cs
  | 'p' :: cs => readProperties? m false cs
  | 'P' :: cs => readProperties? m true cs
  | 'A' :: cs => some (.edge .start, cs)
  | 'z' :: cs => some (.edge .stop, cs)
  | 'b' :: cs => readWordEdge? m cs
  | 'B' :: cs => some (.edge (m.wordEdge .noChange), cs)
  | '<' :: cs => some (.edge (m.wordEdge .start), cs)
  | '>' :: cs => some (.edge (m.wordEdge .stop), cs)
  | c :: cs =>
    match controlOfLetter? c with
    | some c => some (.char c, cs)
    | none => do
      let kind ← kindOfLetter? m c.toLower
      return (.chars (← m.negate? c.isUpper kind), cs)

end PolicyEditor.Pattern
