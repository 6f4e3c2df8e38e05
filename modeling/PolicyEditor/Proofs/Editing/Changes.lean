import Mathlib.Logic.Relation
import PolicyEditor.Proofs.Layout.Reprinting

/-!
# Edits of one list

An edit of a file changes one of its lists: the members of a group or union, a value list, the
attributes of a block or the rules of a service.  What may happen to a list of each kind is given by
a `ListEdit`; the relation `Forest.Changes` applies it to any one list at any depth and leaves
everything else, the layouts of the nodes around the list included, as it is.

An edit that drops or moves items of a list, or adds sound items that have no lead of their own,
keeps a sound file sound.

## Main definitions

* `ListEdit` : what may happen to a list.
* `Attribute.Changes`, `Union.Changes`, `Rule.Changes`, `Body.Changes`, `Forest.Changes` : one list
  in a node changes.
* `AttributesKept`, `ListEdit.Keeps` : the edit keeps lists sound.

## Main results

* `Forest.Changes.sound` : one edit keeps a file sound.
* `Forest.sound_of_changes` : a sequence of edits keeps a file sound.
-/

namespace PolicyEditor

/-- What may happen to a list of each kind. -/
structure ListEdit where
  members : List Member → List Member → Prop := fun _ _ => False
  values : List Value → List Value → Prop := fun _ _ => False
  attributes : List Attribute → List Attribute → Prop := fun _ _ => False
  rules : List Rule → List Rule → Prop := fun _ _ => False

/-! ### One list in a node -/

mutual

/-- One list in an attribute changes. -/
inductive Attribute.Changes (E : ListEdit) : Attribute → Attribute → Prop
  | values {name : String} {vs vs' : List Value} {layout : Layout} {frame : Option Frame} :
    E.values vs vs' →
      Attribute.Changes E ⟨name, .values vs, layout, frame⟩ ⟨name, .values vs', layout, frame⟩
  | block {name : String} {as as' : List Attribute} {layout : Layout} {frame : Option Frame} :
    AttributesChange E as as' →
      Attribute.Changes E ⟨name, .block as, layout, frame⟩ ⟨name, .block as', layout, frame⟩

/-- The attributes of a block change, or one list in one of them. -/
inductive AttributesChange (E : ListEdit) : List Attribute → List Attribute → Prop
  | list {as as' : List Attribute} : E.attributes as as' → AttributesChange E as as'
  | entry {as bs : List Attribute} {a a' : Attribute} :
    Attribute.Changes E a a' → AttributesChange E (as ++ a :: bs) (as ++ a' :: bs)

end

/-- The elements of a union change. -/
def Union.Changes (E : ListEdit) (u u' : Union) : Prop :=
  ∃ elements, E.members u.elements elements ∧ u' = { u with elements }

/-- One list in a rule changes. -/
inductive Rule.Changes (E : ListEdit) (r : Rule) : Rule → Prop
  | src {u : Union} : r.src.Changes E u → Changes E r { r with src := u }
  | dst {u : Union} : r.dst.Changes E u → Changes E r { r with dst := u }
  | prt {a : Attribute} : r.prt.Changes E a → Changes E r { r with prt := a }
  | log {a a' : Attribute} : r.log = some a → a.Changes E a' → Changes E r { r with log := some a' }

/-- One list in a service changes. -/
inductive Service.Changes (E : ListEdit) (s : Service) : Service → Prop
  | attributes {as : List Attribute} :
    AttributesChange E s.attributes as → Changes E s { s with attributes := as }
  | user {u : Union} : s.user.Changes E u → Changes E s { s with user := u }
  | rules {rs : List Rule} : E.rules s.rules rs → Changes E s { s with rules := rs }
  | rule {rs rs' : List Rule} {r r' : Rule} :
    s.rules = rs ++ r :: rs' → r.Changes E r' → Changes E s { s with rules := rs ++ r' :: rs' }

/-- One list in a body changes. -/
inductive Body.Changes (E : ListEdit) : Body → Body → Prop
  | struct {b : Block} {as : List Attribute} :
    AttributesChange E b.attributes as → Changes E (.struct b) (.struct { b with attributes := as })
  | network {b : Block} {as : List Attribute} :
    AttributesChange E b.attributes as →
      Changes E (.network b) (.network { b with attributes := as })
  | group {g : Group} {es : List Member} :
    E.members g.elements es → Changes E (.group g) (.group { g with elements := es })
  | protocol {vs vs' : List Value} : E.values vs vs' → Changes E (.protocol vs) (.protocol vs')
  | service {s s' : Service} : s.Changes E s' → Changes E (.service s) (.service s')

/-- One list in a file changes. -/
inductive Forest.Changes (E : ListEdit) (f : Forest) : Forest → Prop
  | mk {ds ds' : List Definition} {d : Definition} {b : Body} :
    f.definitions = ds ++ d :: ds' → d.body.Changes E b →
      Changes E f { f with definitions := ds ++ { d with body := b } :: ds' }

/-! ### Edits that keep a file sound -/

/-- Attributes stay sound when they change.  An attribute called `user` is a flag if all of them
were, and no attribute has a lead if none had one. -/
structure AttributesKept (p : Printer) (as as' : List Attribute) : Prop where
  sound : AllSound p as → AllSound p as'
  users : (∀ a ∈ as, a.name = "user" → a.isFlag = true) →
    ∀ a ∈ as', a.name = "user" → a.isFlag = true
  leads : (∀ a ∈ as, a.layout.lead = none) → ∀ a ∈ as', a.layout.lead = none

theorem AttributesKept.of_subset {p : Printer} {as as' : List Attribute} (h : as' ⊆ as) :
    AttributesKept p as as' where
  sound hsound := allSound_iff.2 fun a ha => allSound_iff.1 hsound a (h ha)
  users husers a ha := husers a (h ha)
  leads hleads a ha := hleads a (h ha)

theorem AttributesKept.refl {p : Printer} (as : List Attribute) : AttributesKept p as as :=
  ⟨id, id, id⟩

theorem AttributesKept.trans {p : Printer} {as bs cs : List Attribute}
    (h₁ : AttributesKept p as bs) (h₂ : AttributesKept p bs cs) : AttributesKept p as cs where
  sound hsound := h₂.sound (h₁.sound hsound)
  users husers := h₂.users (h₁.users husers)
  leads hleads := h₂.leads (h₁.leads hleads)

/-- An edit of a list keeps what is there, drops it or moves it.  Members and rules that it adds are
sound and have no lead of their own. -/
structure ListEdit.Keeps (E : ListEdit) (p : Printer) : Prop where
  members : ∀ {es es'}, E.members es es' →
    ∀ e ∈ es', e ∈ es ∨ Member.Sound p e ∧ e.layout.lead = none
  values : ∀ {vs vs'}, E.values vs vs' → vs' ⊆ vs
  attributes : ∀ {as as'}, E.attributes as as' → AttributesKept p as as'
  rules : ∀ {rs rs'}, E.rules rs rs' →
    ∀ r ∈ rs', r ∈ rs ∨ (r.layout.Fits p false ∧ r.Sound p) ∧ r.layout.lead = none

section Preservation

variable {E : ListEdit} {p : Printer}

/-! ### Attributes -/

namespace Attribute.Changes

variable {a a' : Attribute}

theorem name_eq (h : a.Changes E a') : a'.name = a.name := by
  cases h <;> rfl

theorem layout_eq (h : a.Changes E a') : a'.layout = a.layout := by
  cases h <;> rfl

theorem isFlag_eq (h : a.Changes E a') : a.isFlag = false := by
  cases h <;> rfl

end Attribute.Changes

/-- The shape of an attribute does not depend on its values. -/
theorem Attribute.HasShape.withValues {name : String} {vs : List Value} {layout : Layout}
    {frame : Option Frame} (h : HasShape p ⟨name, .values vs, layout, frame⟩) (vs' : List Value) :
    HasShape p ⟨name, .values vs', layout, frame⟩ := by
  obtain ⟨span, lead, sep⟩ := layout
  cases span with
  | none => exact ⟨h.1, trivial⟩
  | some span => cases frame <;> exact h

/-- The shape of an attribute does not depend on the attributes in its block. -/
theorem Attribute.HasShape.withBlock {name : String} {as : List Attribute} {layout : Layout}
    {frame : Option Frame} (h : HasShape p ⟨name, .block as, layout, frame⟩)
    (as' : List Attribute) : HasShape p ⟨name, .block as', layout, frame⟩ := by
  obtain ⟨span, lead, sep⟩ := layout
  cases span with
  | none => exact ⟨h.1, trivial⟩
  | some span => cases frame <;> exact h

mutual

theorem Attribute.Changes.sound {a a' : Attribute} (hkeeps : E.Keeps p) (h : a.Changes E a')
    (hsound : a.Sound p) : a'.Sound p := by
  match h with
  | .values hvalues =>
    exact ⟨hsound.1.withValues _, fun v hv => hsound.2 v (hkeeps.values hvalues hv)⟩
  | .block hblock => exact ⟨hsound.1.withBlock _, (hblock.kept hkeeps).sound hsound.2⟩

/-- Edited attributes of a block are kept. -/
theorem AttributesChange.kept {as as' : List Attribute} (hkeeps : E.Keeps p)
    (h : AttributesChange E as as') : AttributesKept p as as' := by
  match h with
  | .list hlist => exact hkeeps.attributes hlist
  | .entry hentry =>
    have hname := hentry.name_eq
    have hlayout := hentry.layout_eq
    refine ⟨fun hsound => ?_, fun husers => ?_, fun hleads => ?_⟩
    · rw [allSound_iff, List.forall_mem_append, List.forall_mem_cons] at hsound ⊢
      obtain ⟨hfront, ⟨hfits, ha⟩, hback⟩ := hsound
      exact ⟨hfront, ⟨hlayout ▸ hfits, hentry.sound hkeeps ha⟩, hback⟩
    · rw [List.forall_mem_append, List.forall_mem_cons] at husers ⊢
      refine ⟨husers.1, fun huser => ?_, husers.2.2⟩
      exact absurd (husers.2.1 (hname ▸ huser)) (by simp [hentry.isFlag_eq])
    · rw [List.forall_mem_append, List.forall_mem_cons] at hleads ⊢
      exact ⟨hleads.1, hlayout ▸ hleads.2.1, hleads.2.2⟩

end

/-! ### Unions and rules -/

theorem Union.Changes.sound {u u' : Union} (hkeeps : E.Keeps p) (h : u.Changes E u')
    (hsound : u.Sound p) : u'.Sound p := by
  obtain ⟨elements, helements, rfl⟩ := h
  exact ⟨fun e he => (hkeeps.members helements e he).elim (hsound.1 e) And.left, hsound.2⟩

theorem Union.Changes.layout_eq {u u' : Union} (h : u.Changes E u') : u'.layout = u.layout := by
  obtain ⟨elements, -, rfl⟩ := h
  rfl

theorem Union.Changes.role_eq {u u' : Union} (h : u.Changes E u') : u'.role = u.role := by
  obtain ⟨elements, -, rfl⟩ := h
  rfl

namespace Rule

variable {r r' : Rule}

theorem Changes.layout_eq (h : r.Changes E r') : r'.layout = r.layout := by
  cases h <;> rfl

/-- The layouts of the parts of a rule do not change. -/
theorem Changes.pieces_eq (h : r.Changes E r') :
    (p.rulePieces r').map (·.layout) = (p.rulePieces r).map (·.layout) := by
  cases h with
  | src h => simp [Printer.rulePieces, Printer.unionPiece, h.layout_eq]
  | dst h => simp [Printer.rulePieces, Printer.unionPiece, h.layout_eq]
  | prt h => simp [Printer.rulePieces, Printer.attributePiece, h.layout_eq]
  | log hlog h => simp [Printer.rulePieces, Printer.attributePiece, hlog, h.layout_eq]

theorem Changes.soundParts (hkeeps : E.Keeps p) (h : r.Changes E r') (hsound : r.SoundParts p) :
    r'.SoundParts p := by
  cases h with
  | src h =>
    exact
      { hsound with src := h.sound hkeeps hsound.src, src_role := h.role_eq.trans hsound.src_role }
  | dst h =>
    exact
      { hsound with dst := h.sound hkeeps hsound.dst, dst_role := h.role_eq.trans hsound.dst_role }
  | prt h =>
    exact
      { hsound with prt := h.sound hkeeps hsound.prt, prt_name := h.name_eq.trans hsound.prt_name }
  | @log a a' hlog h =>
    have hname := hsound.log_name a hlog
    have ha := hsound.log a hlog
    refine { hsound with log := ?_, log_name := ?_ }
    · rintro _ ⟨⟩
      exact h.sound hkeeps ha
    · rintro _ ⟨⟩
      exact h.name_eq.trans hname

/-- The text in front of the first part of a rule depends on the layouts of the parts only. -/
theorem front_eq_of_layouts {span : Span} {frame : Frame} {qs qs' : List Piece}
    (hempty : frame.wasEmpty = false) (h : qs'.map (·.layout) = qs.map (·.layout)) :
    p.front span frame qs' = p.front span frame qs := by
  have hhead : (qs'.head?.bind fun q => q.layout.lead) = qs.head?.bind fun q => q.layout.lead := by
    have := congrArg List.head? h
    rw [List.head?_map, List.head?_map] at this
    cases qs <;> cases qs' <;> simp_all
  simp only [Printer.front, Printer.unfolds, hempty, Bool.false_and, Bool.false_eq_true, if_false,
    Printer.opening, hhead]

theorem Changes.sound (hkeeps : E.Keeps p) (h : r.Changes E r') (hsound : r.Sound p) :
    r'.Sound p := by
  have hpieces := h.pieces_eq (p := p)
  refine ⟨h.soundParts hkeeps hsound.toSoundParts, fun q hq => ?_, ?_⟩
  · have hmem := List.mem_map_of_mem (f := Piece.layout) hq
    rw [hpieces] at hmem
    obtain ⟨q', hq', heq⟩ := List.mem_map.1 hmem
    exact heq ▸ hsound.pieces q' hq'
  · have hshape := hsound.shape
    have haction : r'.action = r.action ∧ r'.frame = r.frame := by cases h <;> exact ⟨rfl, rfl⟩
    rw [h.layout_eq, haction.1, haction.2]
    split
    · next span frame hspan hframe =>
      rw [hspan, hframe] at hshape
      obtain ⟨hframes, hclose, hfront, hempty⟩ := hshape
      exact ⟨hframes, hclose, front_eq_of_layouts hempty hpieces ▸ hfront, hempty⟩
    · next span hspan hframe =>
      rw [hspan, hframe] at hshape
      exact hshape
    · trivial

end Rule

/-! ### Services and bodies -/

theorem Service.Changes.sound {s s' : Service} (hkeeps : E.Keeps p) (h : s.Changes E s')
    (hsound : s.Sound p) : s'.Sound p := by
  cases h with
  | attributes h =>
    have hkept := h.kept hkeeps
    exact
      { hsound with
        attributes := hkept.sound hsound.attributes
        names := hkept.users hsound.names }
  | user h =>
    exact
      { hsound with
        user := h.sound hkeeps hsound.user
        user_fits := h.layout_eq ▸ hsound.user_fits
        user_role := h.role_eq.trans hsound.user_role }
  | rules h =>
    exact { hsound with rules := fun r hr => (hkeeps.rules h r hr).elim (hsound.rules r) And.left }
  | rule hrules h =>
    have hall := hsound.rules
    rw [hrules, List.forall_mem_append, List.forall_mem_cons] at hall
    obtain ⟨hfront, ⟨hfits, hr⟩, hback⟩ := hall
    refine { hsound with rules := ?_ }
    rw [List.forall_mem_append, List.forall_mem_cons]
    exact ⟨hfront, ⟨h.layout_eq ▸ hfits, h.sound hkeeps hr⟩, hback⟩

namespace Body

variable {b b' : Body}

theorem Changes.sound {type : String} (hkeeps : E.Keeps p) (h : b.Changes E b')
    (hsound : b.Sound p type) : b'.Sound p type := by
  cases h with
  | struct h => exact ⟨hsound.1, (h.kept hkeeps).sound hsound.2⟩
  | network h => exact ⟨hsound.1, (h.kept hkeeps).sound hsound.2⟩
  | group h =>
    exact ⟨hsound.1, fun e he => (hkeeps.members h e he).elim (hsound.2 e) And.left⟩
  | protocol h => exact ⟨hsound.1, fun v hv => hsound.2 v (hkeeps.values h hv)⟩
  | service h => exact ⟨hsound.1, h.sound hkeeps hsound.2⟩

theorem Changes.description_eq (h : b.Changes E b') : b'.description = b.description := by
  cases h with
  | service h => cases h <;> rfl
  | _ => rfl

theorem Changes.hasBraces_eq (h : b.Changes E b') : b'.hasBraces = b.hasBraces := by
  cases h <;> rfl

/-- An item of an edited body has the layout of one that was there, or no lead. -/
theorem Changes.lead_eq_none (hkeeps : E.Keeps p) (h : b.Changes E b')
    (hleads : ∀ q ∈ p.bodyPieces b, q.layout.lead = none) :
    ∀ q ∈ p.bodyPieces b', q.layout.lead = none := by
  have hattributes {as as' : List Attribute} (h : AttributesChange E as as')
      (hleads : ∀ q ∈ p.attributePieces as, q.layout.lead = none) :
      ∀ q ∈ p.attributePieces as', q.layout.lead = none := by
    rw [Printer.attributePieces_eq_map, List.forall_mem_map] at hleads ⊢
    exact (h.kept hkeeps).leads hleads
  cases h with
  | struct h => exact hattributes h hleads
  | network h => exact hattributes h hleads
  | @group g es h =>
    intro q hq
    obtain ⟨e, he, rfl⟩ := List.mem_map.1 hq
    exact (hkeeps.members h e he).elim (fun he => hleads _ (List.mem_map_of_mem he)) And.right
  | protocol h =>
    intro q hq
    obtain ⟨v, hv, rfl⟩ := List.mem_map.1 hq
    exact hleads _ (List.mem_map_of_mem (hkeeps.values h hv))
  | service h =>
    simp only [Printer.bodyPieces, List.forall_mem_append, List.forall_mem_cons,
      List.forall_mem_map, Printer.unionPiece] at hleads ⊢
    obtain ⟨has, huser, hrules⟩ := hleads
    cases h with
    | attributes h => exact ⟨hattributes h has, huser, hrules⟩
    | user h => exact ⟨has, h.layout_eq ▸ huser, hrules⟩
    | rules h => exact ⟨has, huser, fun r hr => (hkeeps.rules h r hr).elim (hrules r) And.right⟩
    | rule hmem h =>
      rw [hmem, List.forall_mem_append, List.forall_mem_cons] at hrules
      obtain ⟨hfront, hr, hback⟩ := hrules
      refine ⟨has, huser, ?_⟩
      rw [List.forall_mem_append, List.forall_mem_cons]
      exact ⟨hfront, h.layout_eq ▸ hr, hback⟩

end Body

/-! ### Definitions and files -/

/-- The shape of a definition does not depend on the items in its lists. -/
theorem Definition.HasShape.withBody {d : Definition} {span : Span} {frame : Frame} {b : Body}
    (hkeeps : E.Keeps p) (h : d.HasShape p span frame) (hbody : d.body.Changes E b) :
    HasShape p span frame { d with body := b } := by
  obtain ⟨header, ⟨t, opening, ht, hopening, rfl⟩, hframes⟩ := h.frames
  have hdescription := hbody.description_eq
  refine
    { frames := ⟨_, ⟨t, opening, ht, ?_, rfl⟩, ?_⟩
      gap := fun hsome => h.gap (hdescription ▸ hsome)
      line := fun hsome => h.line (hdescription ▸ hsome)
      empty := fun hempty => hbody.lead_eq_none hkeeps (h.empty hempty) }
  · dsimp only
    rwa [Body.Opening, hdescription, hbody.hasBraces_eq]
  · dsimp only
    rwa [Body.sign, hbody.hasBraces_eq]

/-- An edit of one list in a definition keeps it sound. -/
theorem Definition.Sound.withBody {d : Definition} {b : Body} (hkeeps : E.Keeps p) (h : d.Sound p)
    (hbody : d.body.Changes E b) : Sound p { d with body := b } := by
  obtain ⟨hw, ⟨type, htype, hsound⟩, hshape⟩ := h
  refine ⟨hw, ⟨type, htype, hbody.sound hkeeps hsound⟩, ?_⟩
  dsimp only
  split
  · next span frame hspan hframe =>
    rw [hspan, hframe] at hshape
    exact HasShape.withBody hkeeps hshape hbody
  · next span hspan hframe =>
    rw [hspan, hframe] at hshape
    exact hshape
  · next hspan =>
    rw [hspan] at hshape
    rwa [hbody.description_eq]

namespace Forest

variable {f g : Forest}

/-- An edit of one list keeps a file sound. -/
theorem Changes.sound (hkeeps : E.Keeps p) (h : f.Changes E g) (hsound : f.Sound p) :
    g.Sound p := by
  obtain ⟨hmem, hbody⟩ := h
  have hall := hsound.definitions
  rw [hmem, List.forall_mem_append, List.forall_mem_cons] at hall
  obtain ⟨hfront, ⟨hlead, hd⟩, hback⟩ := hall
  refine { hsound with definitions := ?_ }
  rw [List.forall_mem_append, List.forall_mem_cons]
  exact ⟨hfront, ⟨hlead, hd.withBody hkeeps hbody⟩, hback⟩

/-- An edit of one list does not change where the definitions stand in the source. -/
theorem Changes.layouts_eq (h : f.Changes E g) :
    g.definitions.map (·.layout) = f.definitions.map (·.layout) := by
  obtain ⟨hmem, -⟩ := h
  simp [hmem]

/-- A sequence of edits of lists keeps a file sound, and the definitions stay where they stand in
the source. -/
theorem sound_of_changes (hkeeps : E.Keeps p) (h : Relation.ReflTransGen (Changes E) f g)
    (hsound : f.Sound p) :
    g.Sound p ∧ g.definitions.map (·.layout) = f.definitions.map (·.layout) := by
  induction h with
  | refl => exact ⟨hsound, rfl⟩
  | tail _ hstep ih => exact ⟨hstep.sound hkeeps ih.1, hstep.layouts_eq.trans ih.2⟩

end Forest

end Preservation

end PolicyEditor
