import PolicyEditor.Text.Bytes
import PolicyEditor.Text.Pieces

/-!
# Places in a text

A reader goes through a text with a cursor, which knows its byte offset and holds the text from
there on.  The offset is the exact one, also where 32 bits do not hold it.

## Main definitions

* `Cursor` : a place in a text.
* `Cursor.advance` : the place behind a piece of the text.
* `Cursor.textTo` : the text between two places.
-/

namespace PolicyEditor

/-- A place in a text: its byte offset and the text from there on. -/
structure Cursor where
  offset : Nat
  rest : List Char
deriving DecidableEq, Repr

namespace Cursor

/-- The place at the start of a text. -/
def ofText (text : List Char) : Cursor :=
  ⟨0, text⟩

/-- The place behind the piece `taken` of the text, in front of `rest`. -/
def advance (c : Cursor) (taken rest : List Char) : Cursor :=
  ⟨c.offset + Text.byteLength taken, rest⟩

/-- The text from this place up to the later place `later`. -/
def textTo (c later : Cursor) : List Char :=
  c.rest.take (c.rest.length - later.rest.length)

/-- The place at the end of the line. -/
def lineEnd (c : Cursor) : Cursor :=
  let line := Text.firstLine c.rest
  c.advance line (c.rest.drop line.length)

end Cursor

end PolicyEditor
