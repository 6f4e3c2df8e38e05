import PolicyEditor.Definition
import PolicyEditor.Element.Parser

/-!
# Reading definitions

A definition is read after its type has been seen, which selects the grammar of its body.  Blocks
nest only in attributes, so `Attribute.read` has the depth of nesting as its measure.

## Main definitions

* `Attribute.read` : an attribute.
* `Union.read`, `Rule.read`, `Service.read` : the parts of a service.
* `Definition.read` : a definition.
* `Forest.parse` : the definitions of a whole text.
-/

namespace PolicyEditor

/-! ### Statements -/

/-- Items that end without a comma, read until `stop` holds, at most `limit` many.  A comment on
the rest of the line belongs to the item in front of it. -/
def Layout.readStatements {α : Type} (stop : Cursor → Bool) (item : Cursor → Reading (α × Cursor)) :
    (limit : Nat) → (previous : Option Nat) → Cursor → Reading (List (α × Layout) × Cursor)
  | 0, _, c => .ok ([], c)
  | limit + 1, previous, c =>
    if stop c then .ok ([], c)
    else do
      let start := c.start
      let (a, c) ← item c
      let layout := Layout.placed previous start c.offset c.tail?
      let (rest, c) ← readStatements stop item limit (some layout.finish) c
      return ((a, layout) :: rest, c)

/-- The place at which the last of some items ends, or `previous` if there are none. -/
def Layout.lastFinish {α : Type} (previous : Option Nat) (items : List (α × Layout)) :
    Option Nat :=
  match items.getLast? with
  | some (_, layout) => some layout.finish
  | none => previous

/-! ### Values -/

/-- The place behind the tokens of a value, which ends at a comma or semicolon outside of `depth`
open brackets. -/
def Value.skip : (limit : Nat) → (depth : Nat) → Cursor → Cursor
  | 0, _, c => c
  | limit + 1, depth, c =>
    match c.next? with
    | none => c
    | some (t, c') =>
      match t.kind with
      | .word | .ampersand | .bang => skip limit depth c'
      | .openBracket => skip limit (depth + 1) c'
      | .closeBracket => if depth = 0 then c else skip limit (depth - 1) c'
      | .comma | .semicolon | .equals => if depth = 0 then c else skip limit depth c'
      | _ => c

/-- A value of a value list, with the blanks and comments inside it. -/
def Value.readText (c : Cursor) : Reading (String × Cursor) :=
  let c' := Value.skip c.rest.length 0 c
  if c'.offset = c.offset then .error (c.unexpected "value")
  else .ok (String.ofList (c.skipTrivia.textTo c'), c')

/-- Values up to and including the semicolon, behind their header. -/
def Value.readList (c : Cursor) : Reading ((List Value × Frame) × Cursor) := do
  let ((items, frame), c) ← Layout.readList Value.readText .semicolon c
  return ((items.map fun p => ⟨p.1, p.2⟩, frame), c)

/-! ### Attributes -/

/-- The attributes of a block up to and including the closing brace, behind its header. -/
def readBlock (entry : Cursor → Reading (Attribute × Cursor)) (c : Cursor) :
    Reading ((List Attribute × Frame) × Cursor) := do
  let headerEnd := c.offset
  let item := fun c => if c.atEnd then .error (c.unexpected "'\x7d'") else entry c
  let (items, c) ← Layout.readStatements (·.sees .closeBrace) item (c.rest.length + 1) none c
  let frame := Frame.ofLayouts headerEnd c.start false (items.map (·.2))
  let (_, c) ← c.expect .closeBrace
  return ((items.map fun p => { p.1 with layout := p.2 }, frame), c)

/-- An attribute with blocks nested less than `depth` deep. -/
def Attribute.readNested : (depth : Nat) → Cursor → Reading (Attribute × Cursor)
  | 0, c => .error (c.unexpected "attribute")
  | depth + 1, c => do
    let (name, c) ← c.expectAs .word "attribute"
    match c.eat? .semicolon with
    | some c => return ({ name := name.text, value := .flag }, c)
    | none =>
      let (_, c) ← c.expect .equals
      match c.eat? .openBrace with
      | some c =>
        let ((attributes, frame), c) ← readBlock (readNested depth) c
        return ({ name := name.text, value := .block attributes, frame := some frame }, c)
      | none =>
        let ((values, frame), c) ← Value.readList c
        return ({ name := name.text, value := .values values, frame := some frame }, c)

/-- An attribute with blocks of any depth. -/
def Attribute.read (c : Cursor) : Reading (Attribute × Cursor) :=
  readNested (c.rest.length + 1) c

/-- A description, which takes the rest of the line behind `description =`.  One semicolon at the
end of the line is not part of it. -/
def readDescription (c : Cursor) : Reading (Option String × Cursor) :=
  if c.seesKey "description" .equals then
    let c := c.bump.bump
    let line := Text.trim (Text.firstLine c.rest)
    let text := Text.trimEnd (Text.dropLastChar ';' line)
    .ok (some (String.ofList text), c.lineEnd)
  else .ok (none, c)

/-! ### Services -/

/-- A union with its keyword, up to and including the semicolon. -/
def Union.read (role : Role) (c : Cursor) : Reading (Union × Cursor) := do
  let c ← c.expectWord role.keyword
  let (_, c) ← c.expect .equals
  let foreach := role == .user &&
    (c.seesKey "foreach" .word || c.seesKey "foreach" .bang)
  let c := if foreach then c.bump else c
  let ((items, frame), c) ← Element.readUnion c
  let elements := items.map fun p => ⟨p.1, p.2⟩
  return ({ role, foreach, elements, frame := some frame }, c)

/-- The action of a rule. -/
def Action.read (c : Cursor) : Reading (Action × Cursor) :=
  match c.next? with
  | some (t, c') =>
    match if t.kind = .word then ofKeyword? t.text else none with
    | some action => .ok (action, c')
    | none => .error (c.unexpected "'permit' or 'deny'")
  | none => .error (c.unexpected "'permit' or 'deny'")

/-- The attribute `name` of a rule behind the place `previous`, with its layout. -/
def Rule.readAttribute (name : String) (previous : Option Nat) (c : Cursor) :
    Reading (Attribute × Cursor) :=
  if c.seesWord name then do
    let start := c.start
    let (a, c) ← Attribute.read c
    return ({ a with layout := .placed previous start c.offset }, c)
  else .error (c.unexpected s!"'{name}'")

/-- The side `role` of a rule behind the place `previous`, with its layout. -/
def Rule.readSide (role : Role) (previous : Option Nat) (c : Cursor) :
    Reading (Union × Cursor) := do
  let start := c.start
  let (u, c) ← Union.read role c
  return ({ u with layout := .placed previous start c.offset }, c)

/-- A rule. -/
def Rule.read (c : Cursor) : Reading (Rule × Cursor) := do
  let (action, c) ← Action.read c
  let headerEnd := c.offset
  let (src, c) ← readSide .src none c
  let (dst, c) ← readSide .dst (some c.offset) c
  let (prt, c) ← readAttribute "prt" (some c.offset) c
  let layouts := [src.layout, dst.layout, prt.layout]
  if c.seesWord "log" then
    let (log, c) ← readAttribute "log" (some c.offset) c
    let frame := Frame.ofLayouts headerEnd c.offset false (layouts ++ [log.layout])
    return ({ action, src, dst, prt, log := some log, frame := some frame }, c)
  else
    let frame := Frame.ofLayouts headerEnd c.offset false layouts
    return ({ action, src, dst, prt, frame := some frame }, c)

/-- An attribute in front of the users of a service. -/
def Service.readAttribute (c : Cursor) : Reading (Attribute × Cursor) :=
  if c.sees .closeBrace || c.atEnd then .error (c.unexpected "'user'") else Attribute.read c

/-- The body of a service with its braces. -/
def Service.read (c : Cursor) : Reading ((Service × Frame) × Cursor) := do
  let (_, c) ← c.expect .openBrace
  let (description, c) ← readDescription c
  let headerEnd := c.offset
  let (attributes, c) ← Layout.readStatements (·.seesKey "user" .equals) readAttribute
    (c.rest.length + 1) none c
  let start := c.start
  let (user, c) ← Union.read .user c
  let userLayout := Layout.placed (Layout.lastFinish none attributes) start c.offset c.tail?
  let (rules, c) ← Layout.readStatements (·.sees .closeBrace) Rule.read
    (c.rest.length + 1) (some userLayout.finish) c
  let layouts := attributes.map (·.2) ++ userLayout :: rules.map (·.2)
  let frame := Frame.ofLayouts headerEnd c.start false layouts
  let (_, c) ← c.expect .closeBrace
  let service : Service :=
    { description
      attributes := attributes.map fun p => { p.1 with layout := p.2 }
      user := { user with layout := userLayout }
      rules := rules.map fun p => { p.1 with layout := p.2 } }
  return ((service, frame), c)

/-! ### Definitions -/

/-- The body of a structured definition with its braces. -/
def Block.read (c : Cursor) : Reading ((Block × Frame) × Cursor) := do
  let (_, c) ← c.expect .openBrace
  let (description, c) ← readDescription c
  let ((attributes, frame), c) ← readBlock Attribute.read c
  return (({ description, attributes }, frame), c)

/-- The body of an element list definition up to and including the semicolon. -/
def Group.read (c : Cursor) : Reading ((Group × Frame) × Cursor) := do
  let (description, c) ← readDescription c
  let ((items, frame), c) ← Element.readUnion c
  return (({ description, elements := items.map fun p => ⟨p.1, p.2⟩ }, frame), c)

/-- The body of a definition of the given type, behind the equals sign. -/
def Body.read (type : String) (c : Cursor) : Reading ((Body × Frame) × Cursor) := do
  if type = "group" ∨ type = "pathrestriction" then
    let ((g, frame), c) ← Group.read c
    return ((group g, frame), c)
  else if type = "service" then
    let ((s, frame), c) ← Service.read c
    return ((service s, frame), c)
  else if type = "network" then
    let ((block, frame), c) ← Block.read c
    return ((network block, frame), c)
  else if c.sees .openBrace then
    let ((block, frame), c) ← Block.read c
    return ((struct block, frame), c)
  else
    let ((values, frame), c) ← Value.readList c
    return ((protocol values, frame), c)

/-- The type of a name that has both a type and a name. -/
def definitionType? (name : String) : Option String :=
  match splitTyped? name with
  | some (type, ident) => if type.isEmpty || ident.isEmpty then none else some type
  | none => none

/-- A definition. -/
def Definition.read (c : Cursor) : Reading (Definition × Cursor) := do
  let (name, c) ← c.expectAs .word "definition"
  match definitionType? name.text with
  | none => .error ⟨name.offset, .untypedName name.text⟩
  | some type =>
    let (_, c) ← c.expect .equals
    let ((body, frame), c) ← Body.read type c
    return ({ name := name.text, body, frame := some frame }, c)

/-- The definitions up to the end of the text, at most `limit` many, behind the place
`previous`. -/
def Forest.readDefinitions : (limit : Nat) → (previous : Option Nat) → Cursor →
    Reading (List Definition × Cursor)
  | 0, _, c => .ok ([], c)
  | limit + 1, previous, c =>
    if c.atEnd then .ok ([], c)
    else do
      let start := c.start
      let (d, c) ← Definition.read c
      let layout := Layout.placed previous start c.offset
      let (ds, c) ← readDefinitions limit (some layout.finish) c
      return ({ d with layout } :: ds, c)

/-- The forest of a text. -/
def Forest.parse (text : List Char) : Reading Forest := do
  let (definitions, c) ← readDefinitions (text.length + 1) none (.ofText text)
  let frame := Frame.ofLayouts 0 c.start false (definitions.map (·.layout))
  return { definitions, frame := some frame }

end PolicyEditor
