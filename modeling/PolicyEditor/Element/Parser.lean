import PolicyEditor.Element
import PolicyEditor.Layout
import PolicyEditor.Token.Cursor

/-!
# Reading elements

Elements nest only inside the brackets of automatic groups.  Each function for a level of the
grammar therefore takes the reader of a single element as an argument, and `Element.read` closes
the circle with the depth of nesting as its measure.  A text is deeper than any nesting in it.

## Main definitions

* `Layout.readList` : the items of a comma list up to its closing token, with their layouts.
* `Element.readUnion` : an element list with its layouts.
* `Element.parseList` : the elements of a text that holds nothing else.
-/

namespace PolicyEditor

/-! ### Comma lists -/

/-- The items of a comma list up to the closing token, at most `limit` many.  The closing token is
not read. -/
def Layout.readItems {α : Type} (item : Cursor → Reading (α × Cursor)) (close : Token.Kind) :
    (limit : Nat) → (previous : Option Nat) → Cursor → Reading (List (α × Layout) × Cursor)
  | 0, _, c => .error (c.unexpected close.describe)
  | limit + 1, previous, c =>
    if c.sees close then .ok ([], c)
    else do
      let start := c.start
      let (a, c) ← item c
      match c.eat? .comma with
      | some c' =>
        let layout := Layout.placed previous start c.offset (c'.tail?.getD c'.offset)
        let (rest, c'') ← readItems item close limit (some layout.finish) c'
        return ((a, layout) :: rest, c'')
      | none =>
        if c.sees close then .ok ([(a, Layout.placed previous start c.offset)], c)
        else .error (c.unexpected s!"',' or {close.describe}")

/-- A comma list behind its header, with its closing token. -/
def Layout.readList {α : Type} (item : Cursor → Reading (α × Cursor)) (close : Token.Kind)
    (c : Cursor) : Reading ((List (α × Layout) × Frame) × Cursor) := do
  let headerEnd := c.offset
  let (items, c) ← readItems item close (c.rest.length + 1) none c
  let frame := Frame.ofLayouts headerEnd c.start true (items.map (·.2))
  let (_, c) ← c.expect close
  return ((items, frame), c)

namespace Element

/-! ### The levels of the grammar -/

/-- A term: an element, or a complement `!element`. -/
def readTerm (element : Cursor → Reading (Element × Cursor)) (c : Cursor) :
    Reading (Element × Cursor) :=
  match c.eat? .bang with
  | some c => do
    let (inner, c) ← element c
    return (complement inner, c)
  | none => element c

/-- The terms behind the first one of an intersection, at most `limit` many. -/
def readConjuncts (element : Cursor → Reading (Element × Cursor)) : (limit : Nat) → Cursor →
    Reading (List Element × Cursor)
  | 0, c => .ok ([], c)
  | limit + 1, c =>
    match c.eat? .ampersand with
    | none => .ok ([], c)
    | some c => do
      let (part, c) ← readTerm element c
      let (parts, c) ← readConjuncts element limit c
      return (part :: parts, c)

/-- An intersection of terms, or a single term. -/
def readIntersection (element : Cursor → Reading (Element × Cursor)) (c : Cursor) :
    Reading (Element × Cursor) := do
  let (first, c) ← readTerm element c
  let (parts, c) ← readConjuncts element c.rest.length c
  return (if parts.isEmpty then first else intersection (first :: parts), c)

/-- A selector `[word]`. -/
def readSelector (c : Cursor) : Reading (String × Cursor) := do
  let (_, c) ← c.expect .openBracket
  let (word, c) ← c.expect .word
  let (_, c) ← c.expect .closeBracket
  return (word.text, c)

/-- The selector `.[word]` behind an automatic group, if a lone dot follows directly. -/
def readAutoSelector (c : Cursor) : Reading (Option String × Cursor) :=
  if c.seesWord "." && c.start == c.offset then do
    let c := c.bump
    if c.touches .openBracket then
      let (selector, c) ← readSelector c
      return (some selector, c)
    else .error (c.unexpected Token.Kind.openBracket.describe)
  else .ok (none, c)

/-- The part `ip = address &` of an automatic group, if it is there. -/
def readAutoIp (c : Cursor) : Reading (Option String × Cursor) :=
  if c.seesKey "ip" .equals then do
    let (word, c) ← c.bump.bump.expect .word
    let (_, c) ← c.expect .ampersand
    return (some word.text, c)
  else .ok (none, c)

/-- An automatic group behind `type:`. -/
def readAuto (element : Cursor → Reading (Element × Cursor)) (type : String) (c : Cursor) :
    Reading (Element × Cursor) := do
  let (_, c) ← c.expect .openBracket
  let managed := c.seesKey "managed" .ampersand
  let c := if managed then c.bump.bump else c
  let (ip, c) ← readAutoIp c
  let ((items, _), c) ← Layout.readList (readIntersection element) .closeBracket c
  let (selector, c) ← readAutoSelector c
  return (auto type managed ip (items.map (·.1)) selector, c)

/-- A single element with automatic groups nested less than `depth` deep. -/
def read : (depth : Nat) → Cursor → Reading (Element × Cursor)
  | 0, c => .error (c.unexpected "element")
  | depth + 1, c => do
    let (word, c) ← c.expectAs .word "element"
    if word.text = "user" then return (user, c)
    match splitTyped? word.text with
    | none => .error ⟨word.offset, .untypedName word.text⟩
    | some (type, name) =>
      if name.isEmpty then
        if c.touches .openBracket then readAuto (read depth) type c
        else .error ⟨word.offset, .missingName type⟩
      else if name.toList.getLast? = some '.' && c.touches .openBracket then
        let (selector, c) ← readSelector c
        return (named type (name ++ "[" ++ selector ++ "]"), c)
      else return (named type name, c)

/-! ### Unions -/

/-- An item of a union: an intersection with automatic groups of any depth. -/
def readItem (c : Cursor) : Reading (Element × Cursor) :=
  readIntersection (read (c.rest.length + 1)) c

/-- A union up to and including the semicolon, behind its header. -/
def readUnion (c : Cursor) : Reading ((List (Element × Layout) × Frame) × Cursor) :=
  Layout.readList readItem .semicolon c

/-- The elements up to the end of the text, at most `limit` many. -/
def readAll : (limit : Nat) → Cursor → Except Cursor.Fault (List Element)
  | 0, _ => .ok []
  | limit + 1, c =>
    if c.atEnd then .ok []
    else do
      let (e, c) ← readItem c
      match c.eat? .comma with
      | some c => return e :: (← readAll limit c)
      | none =>
        if c.atEnd then return [e]
        else .error (c.unexpected Token.Kind.comma.describe)

/-- The elements of a text such as `host:a, network:b & !host:c`. -/
def parseList (text : List Char) : Except Cursor.Fault (List Element) :=
  readAll (text.length + 1) (.ofText text)

end Element

end PolicyEditor
