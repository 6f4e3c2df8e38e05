import Mathlib.Data.List.DropRight
import PolicyEditor.Proofs.Grammar.ElementSoundness
import PolicyEditor.Proofs.Layout.Reprinting

/-!
# Detached definitions

A definition that is taken out of its file loses all layouts.  It is then sound and intact for every
source: its entries are printed in canonical form, and no text of the old file is left that could
run into another one.

## Main results

* `Item.sound_of_canonical` : an entry without a layout is sound if its canonical text is one of its
  texts.
* `Definition.Sound.detach` : a sound and intact definition without its layouts is sound and intact
  for every source.
-/

namespace PolicyEditor

open Text

variable {p p' : Printer}

/-! ### Entries of comma lists -/

/-- The empty layout fits everywhere. -/
theorem Layout.fits_empty {comma : Bool} : Layout.Fits p comma {} where
  lead := .nil
  sep _ h := by cases h

/-- An entry without a layout is sound if its canonical text is one of its texts. -/
theorem Item.sound_of_canonical {α : Type} {canonical : α → List Char} {S : List Char → α → Prop}
    {a : α} (h : S (canonical a) a) : Item.Sound p canonical S { content := a } where
  fits := Layout.fits_empty
  spells := h

/-- The canonical text of an element of a text is one of its texts. -/
theorem spells_of_parseUnion {text : String} {es : List Element} (h : parseUnion text = .ok es) :
    ∀ e ∈ es, Element.SpellsItem e.chars e := by
  rw [parseUnion] at h
  cases hparse : Element.parseList text.toList with
  | error fault =>
    rw [hparse] at h
    cases h
  | ok es' =>
    rw [hparse] at h
    cases h
    exact Element.parseList_chars hparse

theorem Value.Sound.detach {v : Value} (h : Value.Sound p v) : Value.Sound p' v.detach := by
  have hv := h.spells
  refine Item.sound_of_canonical (a := v.content) ?_
  rwa [hv.eq, String.toList_ofList, ← hv.eq]

theorem Member.Sound.detach {e : Member} (h : Member.Sound p e) : Member.Sound p' e.detach :=
  Item.sound_of_canonical h.spells.chars

/-! ### Attributes -/

namespace Attribute

theorem name_detach (a : Attribute) : a.detach.name = a.name := by
  cases a
  rfl

theorem layout_detach (a : Attribute) : a.detach.layout = {} := by
  cases a
  rfl

theorem isFlag_detach (a : Attribute) : a.detach.isFlag = a.isFlag := by
  obtain ⟨_, value, _, _⟩ := a
  cases value <;> rfl

end Attribute

mutual

/-- A sound attribute without its layouts is sound for every source. -/
theorem Attribute.Sound.detach : (a : Attribute) → a.Sound p → a.detach.Sound p'
  | ⟨_, .flag, _, _⟩, h => ⟨⟨h.1.1, trivial⟩, trivial⟩
  | ⟨_, .values _, _, _⟩, h => by
    refine ⟨⟨h.1.1, trivial⟩, ?_⟩
    simp only [AttributeValue.detach, AttributeValue.Sound, List.forall_mem_map]
    exact fun v hv => (h.2 v hv).detach
  | ⟨_, .block as, _, _⟩, h => ⟨⟨h.1.1, trivial⟩, AllSound.detach as h.2⟩

/-- Sound attributes without their layouts are sound for every source. -/
theorem AllSound.detach : (as : List Attribute) → AllSound p as → AllSound p' (detachAttributes as)
  | [], _ => trivial
  | ⟨_, _, _, _⟩ :: as, h =>
    ⟨⟨Layout.fits_empty, Attribute.Sound.detach _ h.1.2⟩, AllSound.detach as h.2⟩

end

mutual

/-- Nothing is lost between the pieces of an attribute without layouts. -/
theorem Attribute.intact_detach : (a : Attribute) → a.detach.intact p = true
  | ⟨_, .flag, _, _⟩ => rfl
  | ⟨_, .values _, _, _⟩ => rfl
  | ⟨_, .block as, _, _⟩ => allIntact_detach as

/-- Nothing is lost between the pieces of attributes without layouts. -/
theorem allIntact_detach : (as : List Attribute) → allIntact p (detachAttributes as) = true
  | [] => rfl
  | a :: as => by
    rw [detachAttributes, allIntact, Attribute.intact_detach a, allIntact_detach as]
    rfl

end

/-! ### Unions and rules -/

namespace Union

variable {u : Union}

theorem Sound.detach (h : u.Sound p) : u.detach.Sound p' := by
  refine ⟨?_, h.2.1, trivial⟩
  simp only [Union.detach, List.forall_mem_map]
  exact fun e he => Member.Sound.detach (h.1 e he)

/-- The keyword `foreach` of an intact union has an entry behind it. -/
theorem isFilled_of_intact (h : u.intact p = true) : u.isFilled = true := by
  rw [intact] at h
  split at h
  · rw [Bool.and_eq_true, keepsForeach] at h
    rw [isFilled]
    cases helements : u.elements with
    | nil => simpa [helements] using h.2
    | cons e es => simp
  · exact h

theorem intact_detach (h : u.intact p = true) : u.detach.intact p' = true := by
  have hfilled := isFilled_of_intact h
  rw [isFilled] at hfilled
  simpa [Union.detach, intact, isFilled] using hfilled

end Union

namespace Rule

variable {r : Rule}

theorem Sound.detach (h : r.Sound p) : r.detach.Sound p' where
  src := h.src.detach
  dst := h.dst.detach
  prt := Attribute.Sound.detach _ h.prt
  log := by
    intro a ha
    obtain ⟨b, hb, rfl⟩ := Option.map_eq_some_iff.1 ha
    exact Attribute.Sound.detach b (h.log b hb)
  src_role := h.src_role
  dst_role := h.dst_role
  prt_name := (Attribute.name_detach _).trans h.prt_name
  log_name := by
    intro a ha
    obtain ⟨b, hb, rfl⟩ := Option.map_eq_some_iff.1 ha
    exact b.name_detach.trans (h.log_name b hb)
  pieces := by
    have hpieces : ∀ q ∈ p'.rulePieces r.detach, q.layout = {} := by
      simp [Printer.rulePieces, Printer.unionPiece, Printer.attributePiece, Rule.detach,
        Union.detach, Attribute.layout_detach]
    exact fun q hq => ⟨hpieces q hq ▸ Layout.fits_empty, hpieces q hq ▸ rfl⟩
  shape := trivial

theorem intact_detach (h : r.intact p = true) : r.detach.intact p' = true := by
  simp only [intact, Bool.and_eq_true] at h
  simp only [intact, Rule.detach, Bool.and_eq_true]
  refine ⟨⟨⟨Union.intact_detach h.1.1.1, Union.intact_detach h.1.1.2⟩,
    Attribute.intact_detach _⟩, ?_⟩
  cases r.log with
  | none => rfl
  | some a => exact Attribute.intact_detach a

end Rule

/-! ### Descriptions -/

namespace Text

theorem trimEnd_eq_rdropWhile (text : List Char) : trimEnd text = text.rdropWhile isWhite := by
  induction text with
  | nil => rfl
  | cons c text ih =>
    rw [trimEnd, ih, List.rdropWhile, List.rdropWhile, List.reverse_cons, List.dropWhile_append]
    cases htext : text.reverse.dropWhile isWhite with
    | nil =>
      rw [List.reverse_nil, List.isEmpty_nil, if_pos rfl, List.dropWhile_cons]
      show (if isWhite c = true then [] else [c]) = _
      split <;> rfl
    | cons d rest =>
      rw [List.isEmpty_cons, if_neg Bool.false_ne_true, List.reverse_append, List.reverse_singleton]
      split
      · next hnil => simp at hnil
      · rfl

theorem trimEnd_isPrefix (text : List Char) : trimEnd text <+: text := by
  rw [trimEnd_eq_rdropWhile]
  exact List.rdropWhile_prefix _ _

theorem dropLastChar_eq (last : Char) : (text : List Char) →
    dropLastChar last text = if text.getLast? = some last then text.dropLast else text
  | [] => rfl
  | [c] => by simp [dropLastChar]
  | c :: d :: text => by
    rw [dropLastChar, dropLastChar_eq last (d :: text), List.getLast?_cons_cons,
      List.dropLast_cons_cons]
    · split <;> rfl
    · simp

theorem dropLastChar_isPrefix (last : Char) (text : List Char) :
    dropLastChar last text <+: text := by
  rw [dropLastChar_eq]
  split
  · exact List.dropLast_prefix text
  · exact List.prefix_refl text

end Text

/-- A description is the start of its line behind the white space there. -/
theorem descriptionOf_isPrefix (line : List Char) :
    (descriptionOf line).toList <+: trimStart line := by
  rw [descriptionOf, String.toList_ofList]
  exact (trimEnd_isPrefix _).trans ((dropLastChar_isPrefix _ _).trans (trimEnd_isPrefix _))

/-- A description is a part of its line. -/
theorem descriptionOf_sublist (line : List Char) : (descriptionOf line).toList.Sublist line :=
  (descriptionOf_isPrefix line).sublist.trans (List.dropWhile_sublist _)

/-! ### Definitions -/

namespace Service

variable {s : Service}

theorem Sound.detach (h : s.Sound p) : s.detach.Sound p' where
  attributes := AllSound.detach _ h.attributes
  names := by
    simp only [Service.detach, detachAttributes_eq_map, List.forall_mem_map]
    intro a ha hname
    exact a.isFlag_detach.trans (h.names a ha (a.name_detach ▸ hname))
  user := h.user.detach
  user_fits := Layout.fits_empty
  user_role := h.user_role
  rules := by
    simp only [Service.detach, List.forall_mem_map]
    exact fun r hr => ⟨Layout.fits_empty, (h.rules r hr).2.detach⟩

theorem intact_detach (h : s.intact p = true) : s.detach.intact p' = true := by
  simp only [intact, Bool.and_eq_true, List.all_eq_true] at h
  obtain ⟨⟨⟨-, huser⟩, hrules⟩, hdescribable⟩ := h
  have hdetach := describable_detach id s.description s.attributes
  rw [Option.map_id_apply] at hdetach
  simp only [intact, Service.detach, Bool.and_eq_true, List.all_eq_true, List.forall_mem_map]
  exact ⟨⟨⟨allIntact_detach _, Union.intact_detach huser⟩,
    fun r hr => Rule.intact_detach (hrules r hr)⟩, hdetach.trans hdescribable⟩

end Service

namespace Body

variable {b : Body}

theorem Sound.detach {type : String} (h : b.Sound p type) : b.detach.Sound p' type := by
  cases b with
  | struct b => exact ⟨h.1, AllSound.detach _ h.2⟩
  | network b => exact ⟨h.1, AllSound.detach _ h.2⟩
  | group g =>
    refine ⟨h.1, ?_⟩
    simp only [Group.detach, List.forall_mem_map]
    exact fun e he => Member.Sound.detach (h.2 e he)
  | protocol values =>
    refine ⟨h.1, ?_⟩
    simp only [List.forall_mem_map]
    exact fun v hv => Value.Sound.detach (h.2 v hv)
  | service s => exact ⟨h.1, h.2.detach⟩

theorem intact_detach (h : b.intact p = true) : b.detach.intact p' = true := by
  have hblock {b : Block}
      (h : (allIntact p b.attributes && Describable b.description b.attributes) = true) :
      (allIntact p' b.detach.attributes &&
        Describable b.detach.description b.detach.attributes) = true := by
    have hdetach := describable_detach id b.description b.attributes
    rw [Option.map_id_apply] at hdetach
    rw [Bool.and_eq_true] at h
    rw [Block.detach, allIntact_detach, hdetach, h.2, Bool.and_self]
  cases b with
  | struct b => exact hblock h
  | network b => exact hblock h
  | group g => rfl
  | protocol values => rfl
  | service s => exact Service.intact_detach h

end Body

namespace Definition

variable {d : Definition}

/-- The description of a definition that was read stands on one line. -/
theorem HasShape.line_of_description {span : Span} {frame : Frame} (h : d.HasShape p span frame) :
    ∀ text ∈ d.body.description, '\n' ∉ text.toList := by
  obtain ⟨_, ⟨_, _, _, ⟨header, hheader, -⟩, -⟩, -⟩ := h.frames
  intro text htext
  rw [htext] at hheader
  cases hheader with
  | @present _ _ line _ _ hline => exact fun h => hline ((descriptionOf_sublist line).subset h)

/-- A sound and intact definition without its layouts is sound for every source. -/
theorem Sound.detach (h : d.Sound p) : d.detach.Sound p' := by
  obtain ⟨hw, ⟨type, htype, hbody⟩, hshape⟩ := h
  refine ⟨hw, ⟨type, htype, hbody.detach⟩, ?_⟩
  show ∀ text ∈ d.body.detach.description, '\n' ∉ text.toList
  rw [Body.description_detach]
  split at hshape
  · exact hshape.line_of_description
  · exact hshape.elim
  · exact hshape

theorem intact_detach (h : d.intact p = true) : d.detach.intact p' = true := by
  rw [intact, Bool.and_eq_true] at h
  simp only [intact, Definition.detach, Bool.and_true]
  exact Body.intact_detach h.1

end Definition

end PolicyEditor
