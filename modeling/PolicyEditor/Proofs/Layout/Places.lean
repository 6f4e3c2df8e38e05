import PolicyEditor.Proofs.Layout.Soundness

/-!
# Nodes in their places

The items of a node that was read stand one after the other in the source, from the position on at
which its header and gap end.  This fixes where each inner node stands, at any depth.

## Main definitions

* `Attribute.Placed`, `Union.Placed`, `Rule.Placed`, `Definition.Placed`, `Forest.Placed` : the
  items of a node, and those of every node in it, stand in their places.
-/

namespace PolicyEditor

open Text

/-- The items of an attribute stand in their places. -/
def Attribute.Seated (p : Printer) (a : Attribute) : Prop :=
  match a.layout.span, a.frame with
  | some span, some frame => frame.Seats p a.style.comma span (a.pieces p)
  | _, _ => a.isFlag = true

mutual

/-- The items of the attribute and of every attribute in it stand in their places. -/
def Attribute.Placed (p : Printer) : Attribute → Prop
  | ⟨name, value, layout, frame⟩ => Attribute.Seated p ⟨name, value, layout, frame⟩ ∧ value.Placed p

/-- The items of every attribute in the value stand in their places. -/
def AttributeValue.Placed (p : Printer) : AttributeValue → Prop
  | .flag => True
  | .values _ => True
  | .block attributes => AllPlaced p attributes

/-- The items of every attribute of a block stand in their places. -/
def AllPlaced (p : Printer) : List Attribute → Prop
  | [] => True
  | a :: as => a.Placed p ∧ AllPlaced p as

end

theorem allPlaced_iff {p : Printer} {as : List Attribute} :
    AllPlaced p as ↔ ∀ a ∈ as, a.Placed p := by
  induction as with
  | nil => simp [AllPlaced]
  | cons a as ih => rw [AllPlaced, ih, List.forall_mem_cons]

/-- The elements of a union stand in their places. -/
def Union.Placed (p : Printer) (u : Union) : Prop :=
  match u.layout.span, u.frame with
  | some span, some frame => frame.Seats p true span (p.members u.elements)
  | _, _ => False

/-- The parts of a rule, and the items of its parts, stand in their places. -/
structure Rule.Placed (p : Printer) (r : Rule) : Prop where
  seats : match r.layout.span, r.frame with
    | some span, some frame => frame.Seats p false span (p.rulePieces r)
    | _, _ => False
  src : r.src.Placed p
  dst : r.dst.Placed p
  prt : r.prt.Placed p
  log : ∀ a ∈ r.log, a.Placed p

/-- The items of every node in a body stand in their places. -/
def Body.Placed (p : Printer) : Body → Prop
  | .struct b | .network b => AllPlaced p b.attributes
  | .group _ | .protocol _ => True
  | .service s => AllPlaced p s.attributes ∧ s.user.Placed p ∧ ∀ r ∈ s.rules, r.Placed p

/-- The items of a definition and of every node in it stand in their places. -/
structure Definition.Placed (p : Printer) (d : Definition) : Prop where
  seats : match d.layout.span, d.frame with
    | some span, some frame =>
      frame.Seats p (Printer.bodyStyle d.body).comma span (p.bodyPieces d.body)
    | _, _ => False
  body : d.body.Placed p

/-- The definitions of a file stand in their places, and definitions of the same layouts are printed
there. -/
structure Forest.Placed (p : Printer) (f : Forest) (frame : Frame) : Prop where
  frame_eq : f.frame = some frame
  placed : p.Placed (byteLength (p.text frame.gap)) (f.definitions.map p.definitionPiece)
  forestText_eq : ∀ ds : List Definition, ds.map (·.layout) = f.definitions.map (·.layout) →
    p.forestText { f with definitions := ds } =
      p.text frame.gap ++ ((ds.map p.definitionPiece).flatMap p.place ++
        suffix frame.closeStart p.source)
  definitions : ∀ d ∈ f.definitions, d.Placed p

end PolicyEditor
