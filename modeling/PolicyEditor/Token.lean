import PolicyEditor.Text.Bytes
import PolicyEditor.Text.Blank

/-!
# Tokens of the policy language

The first character of a text decides the kind of the token that stands there, and the kind
decides which characters extend it.  Every character belongs to exactly one token: a character
that is neither blank nor a delimiter is part of a word.

The program counts the offsets of its tokens in 32 bits.  In a text of fewer than `2 ^ 32` bytes
they are the places of the tokens.  In a longer one the count starts again from zero, unless a build
that checks sums for overflow stops there.

## Main definitions

* `Token.Kind` : the kinds of tokens.
* `Token.Kind.ofChar`, `Token.Kind.continues` : how a token starts and how far it reaches.
* `Token` : a token with its text and byte offset.
* `Token.ofText` : the tokens of a text at their places, blanks and comments included.
* `tokenize` : the tokens of a text with offsets in 32 bits.
-/

namespace PolicyEditor

/-- The kinds of tokens. -/
inductive Token.Kind where
  | space
  | comment
  | word
  | equals
  | comma
  | semicolon
  | openBrace
  | closeBrace
  | openBracket
  | closeBracket
  | ampersand
  | bang
deriving DecidableEq, Repr

namespace Token.Kind

/-- Blanks and comments separate tokens and have no meaning of their own. -/
def isTrivia : Kind → Bool
  | space | comment => true
  | _ => false

/-- The kind of the token that starts with `c`. -/
def ofChar (c : Char) : Kind :=
  if Text.isBlank c then space
  else
    match c with
    | '#' => comment
    | '=' => equals
    | ',' => comma
    | ';' => semicolon
    | '\x7b' => openBrace
    | '\x7d' => closeBrace
    | '[' => openBracket
    | ']' => closeBracket
    | '&' => ampersand
    | '!' => bang
    | _ => word

/-- A token of this kind goes on with `c`. -/
def continues : Kind → Char → Bool
  | space, c => Text.isBlank c
  | comment, c => c != '\n'
  | word, c => ofChar c == word
  | _, _ => false

/-- The kind as messages call it. -/
def describe : Kind → String
  | space => "whitespace"
  | comment => "comment"
  | word => "name"
  | equals => "'='"
  | comma => "','"
  | semicolon => "';'"
  | openBrace => "'\x7b'"
  | closeBrace => "'\x7d'"
  | openBracket => "'['"
  | closeBracket => "']'"
  | ampersand => "'&'"
  | bang => "'!'"

end Token.Kind

/-- A token with its text and the byte offset at which it starts. -/
structure Token where
  kind : Token.Kind
  text : String
  offset : Nat
deriving DecidableEq, Repr

namespace Token

/-- The characters of the token that starts with `c`. -/
def lexeme (c : Char) (cs : List Char) : List Char :=
  c :: cs.takeWhile (Kind.ofChar c).continues

/-- The text behind the token that starts with `c`. -/
def remainder (c : Char) (cs : List Char) : List Char :=
  cs.dropWhile (Kind.ofChar c).continues

theorem lexeme_append_remainder (c : Char) (cs : List Char) :
    lexeme c cs ++ remainder c cs = c :: cs := by
  simp [lexeme, remainder, List.takeWhile_append_dropWhile]

/-- The token that starts with `c` at byte `offset`. -/
def starting (offset : Nat) (c : Char) (cs : List Char) : Token :=
  ⟨Kind.ofChar c, String.ofList (lexeme c cs), offset⟩

/-- The byte offset behind the token. -/
def stop (t : Token) : Nat :=
  t.offset + Text.byteLength t.text.toList

/-- The tokens of a text that starts at byte `offset`, at most `limit` many, at their places. -/
def listFrom : (limit : Nat) → (offset : Nat) → List Char → List Token
  | 0, _, _ => []
  | _ + 1, _, [] => []
  | limit + 1, offset, c :: cs =>
    starting offset c cs ::
      listFrom limit (offset + Text.byteLength (lexeme c cs)) (remainder c cs)

/-- The tokens of a text at their places, blanks and comments included.  A text has at most as many
tokens as characters. -/
def ofText (text : List Char) : List Token :=
  listFrom text.length 0 text

/-- The token with its offset in 32 bits. -/
def wrapped (t : Token) : Token :=
  { t with offset := Text.wrap t.offset }

end Token

/-- The tokens of a text with offsets in 32 bits, blanks and comments included. -/
def tokenize (text : List Char) : List Token :=
  (Token.ofText text).map Token.wrapped

end PolicyEditor
