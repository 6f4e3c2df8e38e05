import PolicyEditor.Definition
import PolicyEditor.Text.Bytes
import PolicyEditor.Text.Blank
import PolicyEditor.Text.Pieces

/-!
# Rendering definitions

Nodes that have a span are copied from the source byte for byte.  A container copies its header,
the gap in front of its items and its footer, and renders its items one by one, so that an edit
changes only the bytes of the edited node.  A node without a span is rendered in canonical form.

A container works on pieces, the rendered texts of its items with their layouts.  So the rules for
blanks, comments and commas are the same for all containers.

## Main definitions

* `Indentation` : how new lines are indented.
* `Printer` : the source and the indentation of a rendering.
* `Printer.framed` : the text of a parsed container.
* `Printer.definitionText`, `Printer.forestText` : the text of a definition and of a file.
* `Forest.render`, `Definition.canonical` : the two entry points.
-/

namespace PolicyEditor

/-- How new lines are indented: by a number of spaces per level, or by a tab per level. -/
structure Indentation where
  width : Nat := 1
  spaces : Bool := true
deriving DecidableEq, Repr

/-- The indentation of a level. -/
def Indentation.text (i : Indentation) (level : Nat) : List Char :=
  if i.spaces then List.replicate (i.width * level) ' ' else List.replicate level '\t'

/-- The source from which unchanged text is copied, and the indentation of new lines. -/
structure Printer where
  source : List Char
  indentation : Indentation := {}

/-- The text of an item with its layout. -/
structure Piece where
  layout : Layout
  text : List Char
deriving DecidableEq, Repr

/-- How the items of a container are separated. -/
inductive ListStyle where
  /-- Each item ends by itself. -/
  | statements
  /-- Commas stand between the items. -/
  | values
  /-- Commas stand between the items, and a new list has one behind the last item too. -/
  | group
deriving DecidableEq, Repr

/-- The items are separated by commas. -/
def ListStyle.comma : ListStyle → Bool
  | .statements => false
  | .values | .group => true

/-- A list that was empty gets a comma behind its last item. -/
def ListStyle.trailing : ListStyle → Bool
  | .group => true
  | .statements | .values => false

/-- The blanks behind the last line feed of a text that has one. -/
def indentAfterNewline? (text : List Char) : Option (List Char) :=
  (Text.lastLine? text).map (·.takeWhile Text.isSpaceOrTab)

namespace Printer

variable (p : Printer)

/-- The source text of a span. -/
def text (span : Span) : List Char :=
  Text.slice span.start span.stop p.source

/-- The source text of a span that may be absent. -/
def textOf (span : Option Span) : List Char :=
  match span with
  | some span => p.text span
  | none => []

/-- The indentation of the source line at a byte offset. -/
def lineIndent (offset : Nat) : List Char :=
  let head := Text.before offset p.source
  let line := (Text.lastLine? head).getD head
  let lineStart := Text.byteLength head - Text.byteLength line
  (Text.suffix lineStart p.source).takeWhile Text.isSpaceOrTab

/-! ### Containers -/

/-- The text between the header and the first item.  An item that was moved to the front brings
the comments that stood before it. -/
def opening (frame : Frame) (items : List Piece) : List Char :=
  let gap := p.text frame.gap
  match Text.from? '#' (p.textOf (items.head?.bind (·.layout.lead))) with
  | none => gap
  | some comment =>
    if gap.contains '\n' then gap ++ comment
    else p.textOf (items.head?.bind (·.layout.lead))

/-- The text in front of a new item: a line break with the indentation of the other items if they
stand on lines of their own, and a space in a container on one line. -/
def newLead (span : Span) (frame : Frame) (items : List Piece) : List Char :=
  let siblings := items.filterMap fun item => item.layout.lead.bind fun lead =>
    indentAfterNewline? (p.text lead)
  let gap := if frame.wasEmpty then none else indentAfterNewline? (p.text frame.gap)
  match siblings.getLast?, gap with
  | some indent, _ => '\n' :: indent
  | none, some indent => '\n' :: indent
  | none, none =>
    if (p.text span).contains '\n' then
      '\n' :: (p.lineIndent span.start ++ p.indentation.text 1)
    else [' ']

/-- The text in front of an item, which for a new item is `new`. -/
def lead (new : List Char) (item : Piece) : List Char :=
  match item.layout.lead with
  | some lead => p.text lead
  | none => new

/-- The text behind an item.  The last item of a comma list without a final comma loses its comma
and keeps the comment behind it, which then needs a line break. -/
def separator (span : Span) (frame : Frame) (style : ListStyle) (final : Bool) (item : Piece) :
    List Char :=
  if !style.comma then p.textOf item.layout.sep
  else if !final then
    match item.layout.sep with
    | some sep => p.text sep
    | none => [',']
  else
    match Text.from? '#' (p.textOf item.layout.sep) with
    | none => []
    | some comment =>
      let close := p.text (frame.close span)
      let broken := close.head? == some '\n' || close.head? == some '\r'
      ' ' :: comment ++ if broken then [] else '\n' :: p.lineIndent span.start

/-- The items of a container behind the first one. -/
def further (lead : Piece → List Char) (separator : Bool → Piece → List Char) (trailing : Bool) :
    List Piece → List Char
  | [] => []
  | item :: items =>
    lead item ++ item.text ++ separator (items.isEmpty && !trailing) item ++
      further lead separator trailing items

/-- The text of a parsed container with the given items.  The items of a container that was empty
stand in front of the line break in its gap, if it has one. -/
def framed (span : Span) (frame : Frame) (style : ListStyle) (items : List Piece) : List Char :=
  let gap := p.text frame.gap
  let unfold := frame.wasEmpty && gap.contains '\n'
  let trailing := if frame.wasEmpty then style.trailing && unfold else frame.trailingSep
  let lead := p.lead (p.newLead span frame items)
  let separator := p.separator span frame style
  let body :=
    match items with
    | [] => []
    | item :: rest =>
      (if unfold then lead item else []) ++ item.text ++
        separator (rest.isEmpty && !trailing) item ++ further lead separator trailing rest
  p.text (frame.header span) ++ (if unfold then [] else p.opening frame items) ++ body ++
    (if unfold then gap else []) ++ p.text (frame.close span)

/-! ### Attributes, unions and rules -/

/-- The text of an entry of a comma list, whose canonical text is `canonical`. -/
def item {α : Type} (canonical : α → List Char) (item : Item α) : List Char :=
  match item.layout.span with
  | some span => p.text span
  | none => canonical item.content

/-- The pieces of a value list. -/
def values (values : List Value) : List Piece :=
  values.map fun v => ⟨v.layout, p.item String.toList v⟩

/-- The pieces of an element list. -/
def members (elements : List Member) : List Piece :=
  elements.map fun e => ⟨e.layout, p.item Element.chars e⟩

/-- Pieces on one line, separated by commas. -/
def inline : List Piece → List Char
  | [] => []
  | [item] => item.text
  | item :: items => item.text ++ ", ".toList ++ inline items

/-- Pieces on one line, with a space in front of each. -/
def spaced (items : List Piece) : List Char :=
  items.flatMap fun item => ' ' :: item.text

mutual

/-- The text of an attribute. -/
def attributeText : Attribute → List Char
  | ⟨name, value, layout, frame⟩ =>
    match layout.span, frame with
    | some span, some frame => framedValue span frame value
    | some span, none => p.text span
    | none, _ => name.toList ++ newValue value

/-- The text of a parsed attribute with its value. -/
def framedValue (span : Span) (frame : Frame) : AttributeValue → List Char
  | .flag => p.text span
  | .values values => p.framed span frame .values (p.values values)
  | .block attributes => p.framed span frame .statements (attributePieces attributes)

/-- The canonical text of a value, behind the name of its attribute. -/
def newValue : AttributeValue → List Char
  | .flag => [';']
  | .values values => " = ".toList ++ inline (p.values values) ++ [';']
  | .block attributes =>
    " = \x7b".toList ++ spaced (attributePieces attributes) ++ " \x7d".toList

/-- The pieces of a block. -/
def attributePieces : List Attribute → List Piece
  | [] => []
  | a :: as => ⟨a.layout, attributeText a⟩ :: attributePieces as

end

/-- The canonical text of a union. -/
def newUnion (u : Union) : List Char :=
  u.role.keyword.toList ++ " = ".toList ++ (if u.foreach then "foreach ".toList else []) ++
    inline (p.members u.elements) ++ [';']

/-- The text of a union. -/
def unionText (u : Union) : List Char :=
  match u.layout.span, u.frame with
  | some span, some frame => p.framed span frame .values (p.members u.elements)
  | some span, none => p.text span
  | none, _ => p.newUnion u

/-- The piece of an attribute. -/
def attributePiece (a : Attribute) : Piece :=
  ⟨a.layout, p.attributeText a⟩

/-- The piece of a union. -/
def unionPiece (u : Union) : Piece :=
  ⟨u.layout, p.unionText u⟩

/-- The pieces of a rule. -/
def rulePieces (r : Rule) : List Piece :=
  [p.unionPiece r.src, p.unionPiece r.dst, p.attributePiece r.prt] ++
    r.log.toList.map p.attributePiece

/-- The text of a rule. -/
def ruleText (r : Rule) : List Char :=
  match r.layout.span, r.frame with
  | some span, some frame => p.framed span frame .statements (p.rulePieces r)
  | some span, none => p.text span
  | none, _ => r.action.keyword.toList ++ spaced (p.rulePieces r)

/-! ### Definitions and files -/

/-- The pieces of a definition. -/
def bodyPieces : Body → List Piece
  | .struct block | .network block => p.attributePieces block.attributes
  | .group group => p.members group.elements
  | .protocol values => p.values values
  | .service service =>
    p.attributePieces service.attributes ++ p.unionPiece service.user ::
      service.rules.map fun r => ⟨r.layout, p.ruleText r⟩

/-- How the pieces of a definition are separated. -/
def bodyStyle : Body → ListStyle
  | .struct _ | .network _ | .service _ => .statements
  | .group _ => .group
  | .protocol _ => .values

/-- A line of its own at the first level of indentation. -/
def newLine (line : List Char) : List Char :=
  '\n' :: p.indentation.text 1 ++ line

/-- The line of a description that may be absent. -/
def descriptionLine (description : Option String) : List Char :=
  match description with
  | some description => p.newLine ("description = ".toList ++ description.toList)
  | none => []

/-- A block in braces with its pieces on lines of their own. -/
def newBlock (description : Option String) (items : List Piece) : List Char :=
  " = \x7b".toList ++ p.descriptionLine description ++
    items.flatMap (fun item => p.newLine item.text) ++ "\n\x7d".toList

/-- The canonical text of a body, behind the name of its definition. -/
def newBody (body : Body) : List Char :=
  let items := p.bodyPieces body
  match body with
  | .struct block | .network block => p.newBlock block.description items
  | .service service => p.newBlock service.description items
  | .group group =>
    if items.isEmpty && group.description.isNone then " = ;".toList
    else
      " =".toList ++ p.descriptionLine group.description ++
        items.flatMap (fun item => p.newLine (item.text ++ [','])) ++ "\n;".toList
  | .protocol _ => " = ".toList ++ inline items ++ [';']

/-- The canonical text of a definition. -/
def newDefinition (d : Definition) : List Char :=
  d.name.toList ++ p.newBody d.body

/-- The text of a definition.  A definition on one line that gained an item is unfolded. -/
def definitionText (d : Definition) : List Char :=
  match d.layout.span, d.frame with
  | some span, some frame =>
    let items := p.bodyPieces d.body
    if !(p.text span).contains '\n' && frame.count < items.length then p.newDefinition d
    else p.framed span frame (bodyStyle d.body) items
  | some span, none => p.text span
  | none, _ => p.newDefinition d

/-- The piece of a definition. -/
def definitionPiece (d : Definition) : Piece :=
  ⟨d.layout, p.definitionText d⟩

/-- The text in front of the first definition of a parsed file, behind the gap.  A definition that
was moved to the front keeps its comments but not the blank lines before them. -/
def frontLead (item : Piece) : List Char :=
  (Text.from? '#' (p.textOf item.layout.lead)).getD []

/-- Definitions behind the first one; a blank line stands in front of a new definition. -/
def furtherDefinitions (items : List Piece) : List Char :=
  items.flatMap fun item => p.lead "\n\n".toList item ++ item.text

/-- The text of the definitions of a file. -/
def definitions (front : Piece → List Char) : List Piece → List Char
  | [] => []
  | item :: items => front item ++ item.text ++ p.furtherDefinitions items

/-- The text behind the last definition of a parsed file; a new last definition ends its line. -/
def footer (frame : Frame) (items : List Piece) : List Char :=
  let text := Text.suffix frame.closeStart p.source
  match items.getLast? with
  | some item =>
    if item.layout.isSynthesized && text.head? != some '\n' then '\n' :: text else text
  | none => text

/-- The text of a file. -/
def forestText (f : Forest) : List Char :=
  let items := f.definitions.map p.definitionPiece
  match f.frame with
  | none =>
    "\n\n".toList.intercalate (items.map (·.text)) ++ if items.isEmpty then [] else ['\n']
  | some frame =>
    p.text frame.gap ++ p.definitions p.frontLead items ++ p.footer frame items

end Printer

/-- The text of a file that was parsed from `source`. -/
def Forest.render (f : Forest) (source : String) (indentation : Indentation := {}) : String :=
  String.ofList (({ source := source.toList, indentation } : Printer).forestText f)

/-- The text of a definition without any source. -/
def Definition.canonical (d : Definition) : String :=
  String.ofList (({ source := [] } : Printer).newDefinition d)

end PolicyEditor
