import PolicyEditor.Proofs.Grammar.Definitions
import PolicyEditor.Proofs.Layout.Framing

/-!
# Sound and intact nodes

A node in memory is *sound* for a source if its layouts are those of the source: its header, gaps,
leads, separators and footers are what a reader took for them, and its entries have their texts.
Every edit that removes, adds or moves items of a parsed node keeps it sound.

A sound node is *intact* if nothing is lost when its pieces are put together again.  There are three
ways in which a text may be lost: a comment that was kept behind an item runs into the text behind
it, the keyword `foreach` has no entry or grows together with it, and an attribute `description`
that became the first one is taken for a description.

## Main definitions

* `Item.Sound`, `Attribute.Sound`, `Union.Sound`, `Rule.Sound`, `Definition.Sound`, `Forest.Sound` :
  the layouts are those of the source.
* `Attribute.intact`, `Union.intact`, `Definition.intact`, `Forest.intact` : the pieces fit
  together.
-/

namespace PolicyEditor

open Text

/-! ### Entries of comma lists -/

/-- An entry fits into a comma list, and its printed text stands for its content. -/
structure Item.Sound {α : Type} (p : Printer) (canonical : α → List Char)
    (S : List Char → α → Prop) (item : Item α) : Prop where
  fits : item.layout.Fits p true
  spells : S (p.item canonical item) item.content

/-- A sound value. -/
abbrev Value.Sound (p : Printer) (v : Value) : Prop :=
  Item.Sound p String.toList Value.Spells v

/-- A sound member of an element list. -/
abbrev Member.Sound (p : Printer) (e : Member) : Prop :=
  Item.Sound p Element.chars Element.SpellsItem e

/-! ### Attributes -/

namespace Attribute

/-- The name of an attribute is a word, and the text and the frame of a parsed attribute are those
of its value. -/
def HasShape (p : Printer) (a : Attribute) : Prop :=
  IsWord a.name.toList ∧
    match a.layout.span, a.frame, a.value with
    | none, _, _ => True
    | some span, none, .flag =>
      ∃ t, IsTrivia t ∧ p.text span = a.name.toList ++ (t ++ [';'])
    | some span, some frame, .values _ =>
      ∃ t, IsTrivia t ∧ frame.Frames p span (a.name.toList ++ (t ++ ['='])) [';']
    | some span, some frame, .block _ =>
      ∃ t t', IsTrivia t ∧ IsTrivia t' ∧
        frame.Frames p span (a.name.toList ++ (t ++ '=' :: (t' ++ ['\x7b']))) ['\x7d']
    | _, _, _ => False

end Attribute

mutual

/-- The attribute and everything in it is sound. -/
def Attribute.Sound (p : Printer) : Attribute → Prop
  | ⟨name, value, layout, frame⟩ =>
    Attribute.HasShape p ⟨name, value, layout, frame⟩ ∧ value.Sound p

/-- Everything in the value is sound. -/
def AttributeValue.Sound (p : Printer) : AttributeValue → Prop
  | .flag => True
  | .values values => ∀ v ∈ values, Value.Sound p v
  | .block attributes => AllSound p attributes

/-- The attributes of a block are sound. -/
def AllSound (p : Printer) : List Attribute → Prop
  | [] => True
  | a :: as => (a.layout.Fits p false ∧ a.Sound p) ∧ AllSound p as

end

theorem allSound_iff {p : Printer} {as : List Attribute} :
    AllSound p as ↔ ∀ a ∈ as, a.layout.Fits p false ∧ a.Sound p := by
  induction as with
  | nil => simp [AllSound]
  | cons a as ih => rw [AllSound, ih, List.forall_mem_cons]

namespace Attribute

/-- The pieces of an attribute that holds any. -/
def pieces (p : Printer) (a : Attribute) : List Piece :=
  match a.value with
  | .flag => []
  | .values values => p.values values
  | .block attributes => p.attributePieces attributes

/-- How the pieces of an attribute are separated. -/
def style (a : Attribute) : ListStyle :=
  match a.value with
  | .block _ => .statements
  | _ => .values

/-- The pieces of a parsed attribute are joined. -/
def joined (p : Printer) (a : Attribute) : Bool :=
  match a.layout.span, a.frame with
  | some span, some frame => p.framedJoined span frame a.style (a.pieces p)
  | _, _ => true

end Attribute

mutual

/-- The pieces of the attribute and of everything in it are joined. -/
def Attribute.intact (p : Printer) : Attribute → Bool
  | ⟨name, value, layout, frame⟩ =>
    Attribute.joined p ⟨name, value, layout, frame⟩ && value.intact p

/-- The pieces of everything in the value are joined. -/
def AttributeValue.intact (p : Printer) : AttributeValue → Bool
  | .flag => true
  | .values _ => true
  | .block attributes => allIntact p attributes

/-- The attributes of a block are intact. -/
def allIntact (p : Printer) : List Attribute → Bool
  | [] => true
  | a :: as => a.intact p && allIntact p as

end

theorem allIntact_iff {p : Printer} {as : List Attribute} :
    allIntact p as = true ↔ ∀ a ∈ as, a.intact p = true := by
  induction as with
  | nil => simp [allIntact]
  | cons a as ih => rw [allIntact, Bool.and_eq_true, ih, List.forall_mem_cons]

/-! ### Unions and rules -/

namespace Element

/-- The text of the element starts with `!`. -/
def startsWithBang : Element → Bool
  | complement _ => true
  | intersection (complement _ :: _) => true
  | _ => false

end Element

namespace Union

/-- The texts in front of the entries of a union. -/
def Header (u : Union) (header : List Char) : Prop :=
  ∃ t, IsTrivia t ∧
    if u.foreach then
      ∃ t', IsTrivia t' ∧
        header = u.role.keyword.toList ++ (t ++ '=' :: (t' ++ "foreach".toList))
    else header = u.role.keyword.toList ++ (t ++ ['='])

/-- The union is sound. -/
def Sound (p : Printer) (u : Union) : Prop :=
  (∀ e ∈ u.elements, Member.Sound p e) ∧ (u.foreach = true → u.role = .user) ∧
    match u.layout.span, u.frame with
    | some span, some frame => ∃ header, u.Header header ∧ frame.Frames p span header [';']
    | some _, none => False
    | none, _ => True

/-- The keyword `foreach` has an entry behind it. -/
def isFilled (u : Union) : Bool :=
  !u.foreach || !u.elements.isEmpty

/-- The keyword `foreach` is followed by an entry that it does not touch. -/
def keepsForeach (p : Printer) (span : Span) (frame : Frame) (u : Union) : Bool :=
  !u.foreach || match u.elements with
    | [] => false
    | e :: _ => !(p.front span frame (p.members u.elements)).isEmpty || e.content.startsWithBang

/-- The pieces of a union fit together. -/
def intact (p : Printer) (u : Union) : Bool :=
  match u.layout.span, u.frame with
  | some span, some frame =>
    p.framedJoined span frame .values (p.members u.elements) && u.keepsForeach p span frame
  | _, _ => u.isFilled

end Union

namespace Rule

/-- The parts of a rule are sound and in their places. -/
structure SoundParts (p : Printer) (r : Rule) : Prop where
  src : r.src.Sound p
  dst : r.dst.Sound p
  prt : r.prt.Sound p
  log : ∀ a ∈ r.log, a.Sound p
  src_role : r.src.role = .src
  dst_role : r.dst.role = .dst
  prt_name : r.prt.name = "prt"
  log_name : ∀ a ∈ r.log, a.name = "log"

theorem SoundParts.withLayout {p : Printer} {r : Rule} (h : r.SoundParts p) (layout : Layout) :
    SoundParts p { r with layout } :=
  ⟨h.src, h.dst, h.prt, h.log, h.src_role, h.dst_role, h.prt_name, h.log_name⟩

/-- The rule is sound.  Its parts have no separators, and its text ends with the last one. -/
structure Sound (p : Printer) (r : Rule) : Prop extends SoundParts p r where
  pieces : ∀ q ∈ p.rulePieces r, q.layout.Fits p false ∧ q.layout.sep = none
  shape : match r.layout.span, r.frame with
    | some span, some frame => frame.Frames p span r.action.keyword.toList [] ∧
        p.text (frame.close span) = [] ∧ p.front span frame (p.rulePieces r) ≠ [] ∧
        frame.wasEmpty = false
    | some _, none => False
    | none, _ => True

/-- The pieces of the parts of a rule fit together. -/
def intact (p : Printer) (r : Rule) : Bool :=
  r.src.intact p && r.dst.intact p && r.prt.intact p && r.log.all (·.intact p)

end Rule

/-! ### Bodies -/

namespace Service

/-- The service is sound. -/
structure Sound (p : Printer) (s : Service) : Prop where
  attributes : AllSound p s.attributes
  names : ∀ a ∈ s.attributes, a.name = "user" → a.isFlag = true
  user : s.user.Sound p
  user_fits : s.user.layout.Fits p false
  user_role : s.user.role = .user
  rules : ∀ r ∈ s.rules, r.layout.Fits p false ∧ r.Sound p

/-- The pieces of the parts of a service fit together. -/
def intact (p : Printer) (s : Service) : Bool :=
  allIntact p s.attributes && s.user.intact p && s.rules.all (·.intact p) &&
    Describable s.description s.attributes

end Service

namespace Body

/-- The description of a body. -/
def description : Body → Option String
  | struct b | network b => b.description
  | group g => g.description
  | protocol _ => none
  | service s => s.description

/-- The body stands in braces. -/
def hasBraces : Body → Bool
  | struct _ | network _ | service _ => true
  | group _ | protocol _ => false

/-- The text of the closing token. -/
def sign (b : Body) : List Char :=
  if b.hasBraces then ['\x7d'] else [';']

/-- The texts between the equals sign and the items of a body. -/
def Opening (b : Body) (text : List Char) : Prop :=
  ∃ header, SpellsDescription b.description header ∧
    if b.hasBraces then ∃ t, IsTrivia t ∧ text = t ++ '\x7b' :: header else text = header

/-- The body of a definition of the given type is sound. -/
def Sound (p : Printer) (type : String) : Body → Prop
  | struct b => IsOther type ∧ AllSound p b.attributes
  | network b => type = "network" ∧ AllSound p b.attributes
  | group g => (type = "group" ∨ type = "pathrestriction") ∧ ∀ e ∈ g.elements, Member.Sound p e
  | protocol values => IsOther type ∧ ∀ v ∈ values, Value.Sound p v
  | service s => type = "service" ∧ s.Sound p

/-- The pieces of the parts of a body fit together. -/
def intact (p : Printer) : Body → Bool
  | struct b | network b => allIntact p b.attributes && Describable b.description b.attributes
  | group _ => true
  | protocol _ => true
  | service s => s.intact p

end Body

/-! ### Definitions and files -/

namespace Definition

/-- The texts in front of the items of a definition. -/
def Header (d : Definition) (header : List Char) : Prop :=
  ∃ t opening, IsTrivia t ∧ d.body.Opening opening ∧
    header = d.name.toList ++ (t ++ '=' :: opening)

/-- The shape of a parsed definition.  A description is followed by a line feed, also if the
definition was empty and gains items. -/
structure HasShape (p : Printer) (span : Span) (frame : Frame) (d : Definition) : Prop where
  frames : ∃ header, d.Header header ∧ frame.Frames p span header d.body.sign
  gap : d.body.description.isSome → (p.text frame.gap).head? = some '\n'
  line : d.body.description.isSome → (p.text span).contains '\n' = true
  empty : frame.wasEmpty = true → ∀ q ∈ p.bodyPieces d.body, q.layout.lead = none

/-- The definition is sound. -/
def Sound (p : Printer) (d : Definition) : Prop :=
  IsWord d.name.toList ∧ (∃ type, definitionType? d.name = some type ∧ d.body.Sound p type) ∧
    match d.layout.span, d.frame with
    | some span, some frame => d.HasShape p span frame
    | some _, none => False
    | none, _ => ∀ text ∈ d.body.description, '\n' ∉ text.toList

/-- The definition stood on one line and has more items than before. -/
def unfolds (p : Printer) (span : Span) (frame : Frame) (d : Definition) : Bool :=
  !(p.text span).contains '\n' && frame.count < (p.bodyPieces d.body).length

/-- The pieces of a definition and of everything in it fit together. -/
def intact (p : Printer) (d : Definition) : Bool :=
  d.body.intact p && match d.layout.span, d.frame with
    | some span, some frame =>
      d.unfolds p span frame ||
        p.framedJoined span frame (Printer.bodyStyle d.body) (p.bodyPieces d.body)
    | _, _ => true

end Definition

namespace Forest

/-- The file is sound. -/
structure Sound (p : Printer) (f : Forest) : Prop where
  definitions : ∀ d ∈ f.definitions, IsTrivia (p.textOf d.layout.lead) ∧ d.Sound p
  gap : ∀ frame ∈ f.frame, isQuiet false (p.text frame.gap) = true
  footer : ∀ frame ∈ f.frame, isQuiet false (suffix frame.closeStart p.source) = true

/-- The pieces of the definitions fit together, and no comment at the start of the file runs into
the first one. -/
def intact (p : Printer) (f : Forest) : Bool :=
  f.definitions.all (·.intact p) && match f.frame, f.definitions with
    | some frame, d :: _ =>
      !commentAfter false (p.text frame.gap ++ p.frontLead (p.definitionPiece d))
    | _, _ => true

end Forest

end PolicyEditor
