import PolicyEditor.Proofs.Editing.Definitions

/-!
# Definitions without their source

The layouts of a definition that was read are positions in its file.  In a file without a source
there is nothing at these positions, so that all that is printed of the definition are the commas
and spaces that the printer puts between items.  Nothing of this is read again as a definition.

## Main definitions

* `Text.IsWordless` : a text in which no word stands.

## Main results

* `Definition.isWordless_of_placed` : without its source a definition that was read is printed
  without any word.
* `Forest.definitions_eq_nil` : a text without words has no definitions.
-/

namespace PolicyEditor

open Text

/-! ### Texts without words -/

/-- No character of the text belongs to a word. -/
def Text.IsWordless (text : List Char) : Prop :=
  ∀ c ∈ text, Token.Kind.ofChar c ≠ .word

namespace Text.IsWordless

variable {a b : List Char}

theorem nil : IsWordless [] := by
  simp [IsWordless]

theorem singleton {c : Char} (h : Token.Kind.ofChar c ≠ .word) : IsWordless [c] := by
  simpa [IsWordless] using h

theorem append (ha : IsWordless a) (hb : IsWordless b) : IsWordless (a ++ b) :=
  List.forall_mem_append.2 ⟨ha, hb⟩

end Text.IsWordless

/-- The text of a definition has a word in it. -/
theorem Definition.Spells.not_isWordless {t : List Char} {d : Definition} (h : Spells t d) :
    ¬ IsWordless t := by
  cases h with
  | mk hw =>
    obtain ⟨c, hc⟩ := List.exists_mem_of_ne_nil _ hw.ne_nil
    exact fun hless => hless c (List.mem_append_left _ hc) (hw.kind c hc)

/-- A text without words has no definitions. -/
theorem Forest.definitions_eq_nil {text : List Char} {f : Forest} (h : Forest.parse text = .ok f)
    (hless : IsWordless text) : f.definitions = [] := by
  obtain ⟨ts, body, rest, rfl, -, hstrung, hspells⟩ := strung_of_parse h
  cases hstrung with
  | nil => simpa [Forest.content] using hspells
  | @cons trivia t tail ts =>
    obtain ⟨d, -, hd, -⟩ := List.forall₂_cons_left_iff.1 hspells
    refine absurd (fun c hc => hless c ?_) hd.not_isWordless
    simp [hc]

/-! ### Containers -/

namespace Printer

variable {q : Printer} {span : Span} {frame : Frame} {style : ListStyle} {items : List Piece}

theorem text_of_nil (hq : q.source = []) (span : Span) : q.text span = [] := by
  rw [Printer.text, hq, slice]
  split
  · have hsuffix : suffix span.start [] = [] := by
      cases span.start <;> rfl
    rw [hsuffix]
    cases span.stop - span.start <;> rfl
  · rfl

theorem textOf_of_nil (hq : q.source = []) (span : Option Span) : q.textOf span = [] := by
  cases span with
  | none => rfl
  | some span => exact text_of_nil hq span

theorem isWordless_text (hq : q.source = []) (span : Span) : IsWordless (q.text span) := by
  rw [text_of_nil hq]
  exact .nil

/-- Without a source a new item has a space in front of it. -/
theorem newLead_of_nil (hq : q.source = []) : q.newLead span frame items = [' '] := by
  have hsiblings : (items.filterMap fun item => item.layout.lead.bind fun lead =>
      indentAfterNewline? (q.text lead)) = [] := by
    refine List.filterMap_eq_nil_iff.2 fun item _ => ?_
    cases item.layout.lead with
    | none => rfl
    | some lead =>
      rw [Option.bind_some, text_of_nil hq]
      rfl
  have hgap : (if frame.wasEmpty then none else indentAfterNewline? (q.text frame.gap)) = none := by
    rw [text_of_nil hq]
    split <;> rfl
  rw [newLead, hsiblings, hgap, text_of_nil hq]
  rfl

theorem isWordless_lead (hq : q.source = []) (item : Piece) :
    IsWordless (q.lead (q.newLead span frame items) item) := by
  rw [Printer.lead]
  split
  · exact isWordless_text hq _
  · rw [newLead_of_nil hq]
    exact .singleton (by decide)

theorem isWordless_separator (hq : q.source = []) (final : Bool) (item : Piece) :
    IsWordless (q.separator span frame style final item) := by
  rw [separator]
  split
  · rw [textOf_of_nil hq]
    exact .nil
  · split
    · split
      · exact isWordless_text hq _
      · exact .singleton (by decide)
    · rw [textOf_of_nil hq]
      exact .nil

theorem isWordless_further {lead : Piece → List Char} {separator : Bool → Piece → List Char}
    {trailing : Bool} (hlead : ∀ item, IsWordless (lead item))
    (hseparator : ∀ final item, IsWordless (separator final item))
    (hitems : ∀ item ∈ items, IsWordless item.text) :
    IsWordless (further lead separator trailing items) := by
  induction items with
  | nil => exact .nil
  | cons item rest ih =>
    rw [List.forall_mem_cons] at hitems
    exact (((hlead item).append hitems.1).append (hseparator _ item)).append (ih hitems.2)

/-- Without a source a container whose items have no words is printed without words. -/
theorem isWordless_framed (hq : q.source = []) (hitems : ∀ item ∈ items, IsWordless item.text) :
    IsWordless (q.framed span frame style items) := by
  have hopening : q.opening frame items = [] := by
    rw [opening, text_of_nil hq, textOf_of_nil hq]
    rfl
  have hunfolds : q.unfolds frame = false := by
    rw [unfolds, text_of_nil hq]
    exact Bool.and_false _
  have hfront : q.front span frame items = [] := by
    unfold front
    rw [hunfolds, if_neg Bool.false_ne_true, hopening]
  cases items with
  | nil =>
    rw [framed_nil, hfront, text_of_nil hq, text_of_nil hq]
    exact .nil
  | cons item rest =>
    rw [List.forall_mem_cons] at hitems
    rw [framed_cons, hfront, text_of_nil hq, text_of_nil hq, text_of_nil hq, ite_self]
    simp only [List.nil_append, List.append_nil]
    exact hitems.1.append ((isWordless_separator hq _ item).append
      (isWordless_further (isWordless_lead hq) (isWordless_separator hq) hitems.2))

/-- Without a source an entry that has a span is printed as nothing. -/
theorem item_of_nil {α : Type} {canonical : α → List Char} (hq : q.source = []) {item : Item α}
    (h : item.layout.span.isSome) : q.item canonical item = [] := by
  obtain ⟨span, hspan⟩ := Option.isSome_iff_exists.1 h
  rw [Printer.item, hspan]
  exact text_of_nil hq span

end Printer

/-! ### Definitions -/

variable {p q : Printer}

/-- Items in their places have spans. -/
theorem Frame.Seats.spans {comma : Bool} {frame : Frame} {span : Span} {qs : List Piece}
    (h : frame.Seats p comma span qs) : ∀ q ∈ qs, q.layout.span.isSome := by
  intro q hq
  obtain ⟨s, hs, -⟩ := h.placed.spans q hq
  rw [hs]
  rfl

/-- Without their source the entries of a list that was read are printed as nothing. -/
theorem isWordless_items {α : Type} {canonical : α → List Char} (hq : q.source = [])
    {items : List (Item α)}
    (h : ∀ piece ∈ items.map fun i => (⟨i.layout, p.item canonical i⟩ : Piece),
      piece.layout.span.isSome) :
    ∀ piece ∈ items.map fun i => (⟨i.layout, q.item canonical i⟩ : Piece),
      IsWordless piece.text := by
  rw [List.forall_mem_map] at h ⊢
  intro item hitem
  rw [Printer.item_of_nil hq (h item hitem)]
  exact .nil

mutual

/-- Without its source an attribute that was read is printed without any word. -/
theorem Attribute.isWordless_of_placed (hq : q.source = []) :
    (a : Attribute) → a.layout.span.isSome → a.Placed p → IsWordless (q.attributeText a)
  | ⟨_, _, ⟨some span, _, _⟩, none⟩, _, _ => Printer.isWordless_text hq span
  | ⟨_, .flag, ⟨some span, _, _⟩, some _⟩, _, _ => Printer.isWordless_text hq span
  | ⟨_, .values _, ⟨some _, _, _⟩, some _⟩, _, ⟨hseats, _⟩ =>
    Printer.isWordless_framed hq (isWordless_items hq (Frame.Seats.spans hseats))
  | ⟨_, .block as, ⟨some _, _, _⟩, some _⟩, _, ⟨hseats, hplaced⟩ =>
    Printer.isWordless_framed hq
      (isWordless_of_allPlaced hq as (Frame.Seats.spans hseats) hplaced)

/-- Without their source attributes that were read are printed without any word. -/
theorem isWordless_of_allPlaced (hq : q.source = []) :
    (as : List Attribute) → (∀ a ∈ p.attributePieces as, a.layout.span.isSome) →
      AllPlaced p as → ∀ a ∈ q.attributePieces as, IsWordless a.text
  | [], _, _ => by simp [Printer.attributePieces]
  | a :: as, hspans, ⟨ha, has⟩ => by
    rw [Printer.attributePieces, List.forall_mem_cons] at hspans ⊢
    exact ⟨Attribute.isWordless_of_placed hq a hspans.1 ha,
      isWordless_of_allPlaced hq as hspans.2 has⟩

end

/-- Without its source a union that was read is printed without any word. -/
theorem Union.isWordless_of_placed (hq : q.source = []) (u : Union) (h : u.Placed p) :
    IsWordless (q.unionText u) := by
  rw [Union.Placed] at h
  rw [Printer.unionText]
  split at h
  · next span frame hspan hframe =>
    rw [hspan, hframe]
    exact Printer.isWordless_framed hq (isWordless_items hq h.spans)
  · exact h.elim

/-- Without its source a rule that was read is printed without any word. -/
theorem Rule.isWordless_of_placed (hq : q.source = []) (r : Rule) (h : r.Placed p) :
    IsWordless (q.ruleText r) := by
  have hseats := h.seats
  rw [Printer.ruleText]
  split at hseats
  · next span frame hspan hframe =>
    rw [hspan, hframe]
    refine Printer.isWordless_framed hq ?_
    have hspans := hseats.spans
    simp only [Printer.rulePieces, List.forall_mem_append, List.forall_mem_cons,
      List.forall_mem_map, Printer.unionPiece, Printer.attributePiece,
      Option.mem_toList] at hspans ⊢
    exact ⟨⟨r.src.isWordless_of_placed hq h.src, r.dst.isWordless_of_placed hq h.dst,
      r.prt.isWordless_of_placed hq hspans.1.2.2.1 h.prt, by simp⟩,
      fun a ha => a.isWordless_of_placed hq (hspans.2 a ha) (h.log a ha)⟩
  · exact hseats.elim

/-- Without its source a body that was read has pieces without any word. -/
theorem Body.isWordless_of_placed (hq : q.source = []) (b : Body) (h : b.Placed p)
    (hspans : ∀ item ∈ p.bodyPieces b, item.layout.span.isSome) :
    ∀ item ∈ q.bodyPieces b, IsWordless item.text := by
  cases b with
  | struct b => exact isWordless_of_allPlaced hq _ hspans h
  | network b => exact isWordless_of_allPlaced hq _ hspans h
  | group g => exact isWordless_items hq hspans
  | protocol values => exact isWordless_items hq hspans
  | service s =>
    obtain ⟨hattributes, huser, hrules⟩ := h
    simp only [Printer.bodyPieces, List.forall_mem_append, List.forall_mem_cons,
      List.forall_mem_map, Printer.unionPiece] at hspans ⊢
    exact ⟨isWordless_of_allPlaced hq _ hspans.1 hattributes, s.user.isWordless_of_placed hq huser,
      fun r hr => r.isWordless_of_placed hq (hrules r hr)⟩

/-- The number of pieces of a body does not depend on the source. -/
theorem Printer.length_bodyPieces (p q : Printer) (b : Body) :
    (q.bodyPieces b).length = (p.bodyPieces b).length := by
  cases b <;> simp [bodyPieces, attributePieces_eq_map, members, values]

/-- Without its source a definition that was read is printed without any word. -/
theorem Definition.isWordless_of_placed (hq : q.source = []) (d : Definition) (h : d.Placed p) :
    IsWordless (q.definitionText d) := by
  have hseats := h.seats
  rw [Printer.definitionText]
  split at hseats
  · next span frame hspan hframe =>
    rw [hspan, hframe]
    dsimp only
    -- A definition that has no more items than it had is not unfolded.
    rw [hseats.count_eq, p.length_bodyPieces q, if_neg (by simp)]
    exact Printer.isWordless_framed hq (d.body.isWordless_of_placed hq h.body hseats.spans)
  · exact hseats.elim

end PolicyEditor
