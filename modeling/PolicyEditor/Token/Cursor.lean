import PolicyEditor.Text.Cursor
import PolicyEditor.Token

/-!
# Reading tokens one by one

While tokens are read, a cursor stands directly behind the last one.  Blanks and comments are
skipped when the next token is read, so a cursor knows whether two tokens touch, and the text on
the rest of the line is at hand.

## Main definitions

* `Cursor.skipTrivia` : the place at which the next token starts.
* `Cursor.next?` : the next token and the place behind it.
* `Cursor.Fault` : what can be wrong at a place.
* `Cursor.expect`, `Cursor.eat?` : read a token that has to or may come.
* `Cursor.tail?` : the end of a comment on the rest of the line.
-/

namespace PolicyEditor

/-- Blanks and comments at the start of a text, and the text behind them.  With `inComment` the
text starts within a comment, where every character belongs to them. -/
def splitTrivia (inComment : Bool) : List Char → List Char × List Char
  | [] => ([], [])
  | c :: cs =>
    if inComment || (Token.Kind.ofChar c).isTrivia then
      let (trivia, rest) := splitTrivia (if inComment then c != '\n' else c == '#') cs
      (c :: trivia, rest)
    else ([], c :: cs)

theorem splitTrivia_append (inComment : Bool) (cs : List Char) :
    (splitTrivia inComment cs).1 ++ (splitTrivia inComment cs).2 = cs := by
  induction cs generalizing inComment with
  | nil => rfl
  | cons c cs ih =>
    rw [splitTrivia]
    split
    · exact congrArg (c :: ·) (ih _)
    · rfl

namespace Cursor

/-- The place at which the next token starts, or the end of the text. -/
def skipTrivia (c : Cursor) : Cursor :=
  let (trivia, rest) := splitTrivia false c.rest
  c.advance trivia rest

/-- The byte offset at which the next token starts, or the end of the text. -/
def start (c : Cursor) : Nat :=
  c.skipTrivia.offset

/-- The next token and the place behind it. -/
def next? (c : Cursor) : Option (Token × Cursor) :=
  let s := c.skipTrivia
  match s.rest with
  | [] => none
  | ch :: cs =>
    some (.starting s.offset ch cs, s.advance (Token.lexeme ch cs) (Token.remainder ch cs))

/-- The next token. -/
def peek? (c : Cursor) : Option Token :=
  c.next?.map (·.1)

/-- There is no further token. -/
def atEnd (c : Cursor) : Bool :=
  c.next?.isNone

/-- The next token has the given kind. -/
def sees (c : Cursor) (kind : Token.Kind) : Bool :=
  match c.peek? with
  | some t => t.kind == kind
  | none => false

/-- The next token is the given word. -/
def seesWord (c : Cursor) (word : String) : Bool :=
  match c.peek? with
  | some t => t.kind == .word && t.text == word
  | none => false

/-- The kind of the token after the next one. -/
def secondKind? (c : Cursor) : Option Token.Kind :=
  c.next?.bind fun p => p.2.peek?.map (·.kind)

/-- The next token is the given word, and a token of the given kind follows it. -/
def seesKey (c : Cursor) (word : String) (kind : Token.Kind) : Bool :=
  c.seesWord word && c.secondKind? == some kind

/-- The next token has the given kind and starts right here. -/
def touches (c : Cursor) (kind : Token.Kind) : Bool :=
  c.sees kind && c.start == c.offset

/-- The place behind the next token, or this place if there is none. -/
def bump (c : Cursor) : Cursor :=
  match c.next? with
  | some (_, c') => c'
  | none => c

/-- The place behind the next token if it has the given kind. -/
def eat? (c : Cursor) (kind : Token.Kind) : Option Cursor :=
  match c.next? with
  | some (t, c') => if t.kind = kind then some c' else none
  | none => none

/-- The end of a comment that stands on the rest of the line with at most blanks before it. -/
def tail? (c : Cursor) : Option Nat :=
  match c.rest.dropWhile Text.isSpaceOrTab with
  | '#' :: _ => some c.lineEnd.offset
  | _ => none

/-! ### Faults -/

/-- What was found in place of an expected token. -/
inductive Found where
  | word (text : String)
  | token (kind : Token.Kind)
  | endOfFile
deriving DecidableEq, Repr

/-- The reason for which a text is refused. -/
inductive Cause where
  /-- Another token than the wanted one. -/
  | unexpected (wanted : String) (found : Found)
  /-- A word without a colon where a typed name is needed. -/
  | untypedName (word : String)
  /-- A type without a name behind its colon. -/
  | missingName (type : String)
deriving DecidableEq, Repr

/-- A reason for which a text is refused, and the byte offset at which it arises. -/
structure Fault where
  offset : Nat
  cause : Cause
deriving DecidableEq, Repr

/-- The wording of what was found. -/
def Found.message : Found → String
  | .word text => s!"'{text}'"
  | .token kind => kind.describe
  | .endOfFile => "end of file"

/-- The wording of a reason. -/
def Cause.message : Cause → String
  | .unexpected wanted found => s!"Expected {wanted}, found {found.message}"
  | .untypedName word => s!"Expected 'type:name', found '{word}'"
  | .missingName type => s!"Missing name after '{type}:'"

/-- What stands at a place. -/
def found (c : Cursor) : Found :=
  match c.peek? with
  | some t => if t.kind = .word then .word t.text else .token t.kind
  | none => .endOfFile

/-- The fault that something else than `wanted` comes next. -/
def unexpected (c : Cursor) (wanted : String) : Fault :=
  ⟨c.start, .unexpected wanted c.found⟩

/-- Read a token of the given kind, called `wanted` in the fault. -/
def expectAs (c : Cursor) (kind : Token.Kind) (wanted : String) : Except Fault (Token × Cursor) :=
  match c.next? with
  | some (t, c') => if t.kind = kind then .ok (t, c') else .error (c.unexpected wanted)
  | none => .error (c.unexpected wanted)

/-- Read a token of the given kind. -/
def expect (c : Cursor) (kind : Token.Kind) : Except Fault (Token × Cursor) :=
  c.expectAs kind kind.describe

/-- Read the given word. -/
def expectWord (c : Cursor) (word : String) : Except Fault Cursor :=
  if c.seesWord word then .ok c.bump else .error (c.unexpected s!"'{word}'")

end Cursor

/-- The result of reading a text: a fault, or what was read, mostly a value and the place behind
its text. -/
abbrev Reading := Except Cursor.Fault

end PolicyEditor
