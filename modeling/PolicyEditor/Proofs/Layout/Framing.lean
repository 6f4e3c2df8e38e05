import PolicyEditor.Proofs.Layout.Tiling

/-!
# The text of a container

A container prints its header, the text in front of its first item, its items with their leads and
separators, and its footer.  Two facts about this text carry everything else.  As long as the items
are those of the source, the text is that of the source.  And for any items, whichever were
removed, added or moved, the text is a list of the grammar, provided that no separator ends in a
comment that the text behind it does not close.

## Main definitions

* `Printer.joined`, `Printer.framedJoined` : no comment at the end of a separator reaches the text
  behind it.
* `Frame.Holds` : the frame of a container whose items are laid in the source.
* `Frame.Seats` : the items of a container stand in their places.
* `Frame.Frames` : what remains of it when the items are edited.

## Main results

* `Frame.Holds.framed_eq` : items that take the places of those of the source are printed there.
* `Frame.Frames.framed_separated`, `Frame.Frames.framed_strung` : the printed items are a list of
  the grammar.
-/

namespace PolicyEditor

open Text

/-! ### Joints between items -/

namespace Printer

/-- The text in front of the next item, or behind the last one. -/
def nextText (lead : Piece → List Char) (close : List Char) : List Piece → List Char
  | [] => close
  | item :: _ => lead item

/-- No separator ends in a comment that the text behind it leaves open. -/
def joined (lead : Piece → List Char) (separator : Bool → Piece → List Char) (trailing : Bool)
    (close : List Char) : List Piece → Bool
  | [] => true
  | item :: items =>
    (!commentAfter false (separator (items.isEmpty && !trailing) item) ||
      (nextText lead close items).contains '\n') && joined lead separator trailing close items

variable (p : Printer) (span : Span) (frame : Frame) (style : ListStyle) (items : List Piece)

/-- The items stand in front of the line break in the gap. -/
def unfolds : Bool :=
  frame.wasEmpty && (p.text frame.gap).contains '\n'

/-- There is a comma behind the last item. -/
def hasTrailing : Bool :=
  if frame.wasEmpty then style.trailing && p.unfolds frame else frame.trailingSep

/-- The text between the header and the first item. -/
def front : List Char :=
  if p.unfolds frame then
    match items with
    | [] => p.text frame.gap
    | item :: _ => p.lead (p.newLead span frame items) item
  else p.opening frame items

/-- The joints of the text `Printer.framed`. -/
def framedJoined : Bool :=
  joined (p.lead (p.newLead span frame items)) (p.separator span frame style)
    (p.hasTrailing frame style)
    ((if p.unfolds frame then p.text frame.gap else []) ++ p.text (frame.close span)) items

end Printer

/-! ### Containers of the source -/

/-- The frame of a container whose items `qs` are laid in the source, with the text `gap` in front
of them and the text `closing` behind them, up to the position `stop`. -/
structure Frame.Holds (p : Printer) (comma : Bool) (frame : Frame) (stop : Nat) (qs : List Piece)
    (gap text closing : List Char) : Prop where
  gap_eq : p.text frame.gap = gap
  closing_eq : p.text ⟨frame.closeStart, stop⟩ = closing
  laid : Laid p comma closing qs text
  wasEmpty_eq : frame.wasEmpty = qs.isEmpty
  trailing_eq : comma = true → ∀ q ∈ qs.getLast?, frame.trailingSep = q.layout.sep.isSome
  head : ∀ q ∈ qs.head?, q.layout.lead = none
  tail : ∀ q ∈ qs.tail, q.layout.lead.isSome
  seps : ∀ q ∈ qs, ∀ s ∈ q.layout.sep, IsReadSeparator comma (p.text s)

/-- The items of a container stand in their places in the source, and items of the same layouts are
printed there. -/
structure Frame.Seats (p : Printer) (comma : Bool) (frame : Frame) (span : Span) (qs : List Piece) :
    Prop where
  holds : ∃ text, frame.Holds p comma span.stop qs (p.text frame.gap) text
    (p.text (frame.close span))
  ofLayouts_eq : ∃ terminator, frame = .ofLayouts
    (span.start + byteLength (p.text (frame.header span))) terminator comma (qs.map (·.layout))
  placed : p.Placed (span.start + byteLength (p.text (frame.header span) ++ p.text frame.gap)) qs
  framed_eq : ∀ style : ListStyle, style.comma = comma → ∀ rs : List Piece,
    rs.map (·.layout) = qs.map (·.layout) → p.framed span frame style rs =
      p.text (frame.header span) ++
        (p.text frame.gap ++ (rs.flatMap p.place ++ p.text (frame.close span)))

theorem Frame.Seats.count_eq {p : Printer} {comma : Bool} {frame : Frame} {span : Span}
    {qs : List Piece} (h : frame.Seats p comma span qs) : frame.count = qs.length := by
  obtain ⟨terminator, hframe⟩ := h.ofLayouts_eq
  rw [hframe]
  cases qs <;> simp [Frame.ofLayouts]

section Source

variable {p : Printer} {comma : Bool} {closing : List Char} {style : ListStyle} {span : Span}
  {frame : Frame} {trailing : Bool}

/-- The separator of an item that is printed in its old place is that of the source. -/
theorem Printer.separator_eq_textOf (hstyle : style.comma = comma) {q : Piece} {qs : List Piece}
    (hlast : comma = true → q.layout.sep = none → qs = [])
    (htrailing : comma = true → ∀ r ∈ (q :: qs).getLast?, trailing = r.layout.sep.isSome) :
    p.separator span frame style (qs.isEmpty && !trailing) q = p.textOf q.layout.sep := by
  rw [separator, hstyle]
  cases comma with
  | false => rfl
  | true =>
    cases hsep : q.layout.sep with
    | none =>
      obtain rfl := hlast rfl hsep
      have : trailing = false := by simpa [hsep] using htrailing rfl q rfl
      simp [this, textOf, from?]
    | some sep =>
      have hfinal : (qs.isEmpty && !trailing) = false := by
        cases qs with
        | nil =>
          have : trailing = true := by simpa [hsep] using htrailing rfl q rfl
          simp [this]
        | cons r qs => rfl
      simp [hfinal, textOf]

/-- The separator of an item depends on its layout only. -/
theorem Printer.separator_congr {final : Bool} {q r : Piece} (h : r.layout = q.layout) :
    p.separator span frame style final r = p.separator span frame style final q := by
  simp only [separator, h]

/-- The gap is printed in front of an item that has no lead. -/
theorem Printer.opening_eq_gap {rs : List Piece} (h : ∀ q ∈ rs.head?, q.layout.lead = none) :
    p.opening frame rs = p.text frame.gap := by
  have hlead : rs.head?.bind (·.layout.lead) = none := Option.bind_eq_none_iff.2 h
  rw [opening, hlead]
  rfl

theorem getLast?_of_tail {α : Type} {P : α → Prop} {a : α} {as : List α}
    (h : ∀ b ∈ (a :: as).getLast?, P b) : ∀ b ∈ as.getLast?, P b := by
  cases as with
  | nil => simp
  | cons b as => simpa using h

theorem Laid.text_eq {qs : List Piece} {text : List Char} (h : Laid p comma closing qs text) :
    text = qs.flatMap p.place := by
  induction h with
  | nil => rfl
  | cons _ _ _ _ _ _ ih =>
    rw [List.flatMap_cons, ← ih, Printer.place, List.append_assoc, List.append_assoc]

theorem Laid.text_ne_nil {qs : List Piece} {text : List Char} (h : Laid p comma closing qs text) :
    ∀ q ∈ qs, q.text ≠ [] := by
  induction h with
  | nil => simp
  | cons _ _ hopens _ _ _ ih =>
    obtain ⟨c, hc, -⟩ := hopens
    exact List.forall_mem_cons.2 ⟨List.ne_nil_of_mem (List.mem_of_mem_head? hc), ih⟩

/-- A comment in the separator of an item of the source goes on up to the end of its line. -/
theorem Laid.line {qs before behind : List Piece} {q : Piece} {text : List Char}
    (h : Laid p comma closing qs text) (hqs : qs = before ++ q :: behind)
    (hopen : commentAfter false (p.textOf q.layout.sep) = true) :
    (behind.flatMap p.place ++ closing).head? = some '\n' := by
  induction h generalizing before with
  | nil => simp at hqs
  | cons _ _ _ _ hline h ih =>
    cases before with
    | nil =>
      obtain ⟨rfl, rfl⟩ := List.cons.inj hqs
      exact h.text_eq ▸ hline hopen
    | cons r before => exact ih (List.cons.inj hqs).2

/-- Items that take the places of items of the source behind the first one are printed in these
places. -/
theorem Laid.further_eq {qs : List Piece} {text : List Char} (h : Laid p comma closing qs text)
    (hstyle : style.comma = comma) {new : List Char}
    (hleads : ∀ q ∈ qs, q.layout.lead.isSome)
    (htrailing : comma = true → ∀ q ∈ qs.getLast?, trailing = q.layout.sep.isSome) {rs : List Piece}
    (hlayouts : rs.map (·.layout) = qs.map (·.layout)) :
    Printer.further (p.lead new) (p.separator span frame style) trailing rs =
      rs.flatMap p.place := by
  induction h generalizing rs with
  | nil =>
    obtain rfl := List.map_eq_nil_iff.1 hlayouts
    rfl
  | @cons q qs text _ _ _ hlast _ _ ih =>
    obtain ⟨r, rs, rfl, hr, hrs⟩ := List.map_eq_cons_iff.1 hlayouts
    obtain ⟨lead, hlead⟩ := Option.isSome_iff_exists.1 (hleads q List.mem_cons_self)
    have hsep : p.separator span frame style (qs.isEmpty && !trailing) q = p.textOf q.layout.sep :=
      Printer.separator_eq_textOf hstyle hlast htrailing
    have hempty : rs.isEmpty = qs.isEmpty := by
      rw [← List.isEmpty_map (f := Piece.layout), hrs, List.isEmpty_map]
    rw [Printer.further, hempty, Printer.separator_congr hr, hsep,
      ih (fun r hr => hleads r (List.mem_cons_of_mem _ hr))
        (fun hc => getLast?_of_tail (htrailing hc)) hrs,
      Printer.lead, hr, hlead, List.flatMap_cons, Printer.place, hr, hlead]
    simp [Printer.textOf]

/-- Items of the source are joined as they stand there. -/
theorem Laid.joined {qs : List Piece} {text : List Char} (h : Laid p comma closing qs text)
    (hstyle : style.comma = comma) {new : List Char}
    (hleads : ∀ q ∈ qs.tail, q.layout.lead.isSome)
    (htrailing : comma = true → ∀ q ∈ qs.getLast?, trailing = q.layout.sep.isSome) :
    Printer.joined (p.lead new) (p.separator span frame style) trailing closing qs = true := by
  induction h with
  | nil => rfl
  | @cons q qs text _ _ _ hlast hline hrest ih =>
    rw [Printer.joined, Printer.separator_eq_textOf hstyle hlast htrailing, Bool.and_eq_true,
      Bool.or_eq_true, Bool.not_eq_true']
    refine ⟨?_, ih (fun r hr => hleads r (List.mem_of_mem_tail hr))
      fun hc => getLast?_of_tail (htrailing hc)⟩
    cases hopen : commentAfter false (p.textOf q.layout.sep) with
    | false => exact .inl rfl
    | true =>
      have hhead := hline hopen
      refine .inr ?_
      cases hrest with
      | nil =>
        obtain ⟨closing, rfl⟩ := List.head?_eq_some_iff.1 hhead
        rfl
      | @cons r rs text _ _ htoken _ _ _ =>
        obtain ⟨lead, hlead⟩ := Option.isSome_iff_exists.1 (hleads r List.mem_cons_self)
        obtain ⟨c, hc, htoken⟩ := htoken
        obtain ⟨t, ht⟩ := List.head?_eq_some_iff.1 hc
        rw [hlead, show p.textOf (some lead) = p.text lead from rfl] at hhead
        simp only [Printer.nextText, Printer.lead, hlead]
        cases hl : p.text lead with
        | nil =>
          rw [hl, ht] at hhead
          obtain rfl : c = '\n' := Option.some.inj hhead
          exact absurd htoken (by decide)
        | cons d l =>
          rw [hl] at hhead
          obtain rfl : d = '\n' := Option.some.inj hhead
          rfl

namespace Frame.Holds

variable {stop : Nat} {qs : List Piece} {gap text : List Char}

/-- Items that take the places of items of the source are printed in these places. -/
theorem framed_eq (h : frame.Holds p comma stop qs gap text closing)
    (hstyle : style.comma = comma) (hstop : span.stop = stop) {rs : List Piece}
    (hlayouts : rs.map (·.layout) = qs.map (·.layout)) :
    p.framed span frame style rs =
      p.text (frame.header span) ++ (gap ++ (rs.flatMap p.place ++ closing)) := by
  have hclosing : p.text (frame.close span) = closing := by
    rw [Frame.close, hstop]
    exact h.closing_eq
  have hgap := h.gap_eq
  have hempty := h.wasEmpty_eq
  have hlaid := h.laid
  cases hlaid with
  | nil =>
    obtain rfl := List.map_eq_nil_iff.1 hlayouts
    have hopening : p.opening frame [] = gap := hgap
    rw [Printer.framed, hgap, hclosing, hopening]
    cases (frame.wasEmpty && gap.contains '\n') <;> simp
  | @cons q qs text _ _ _ hlast _ hrest =>
    obtain ⟨r, rs, rfl, hr, hrs⟩ := List.map_eq_cons_iff.1 hlayouts
    have hhead : q.layout.lead = none := h.head q rfl
    have hopening : p.opening frame (r :: rs) = gap := by
      rw [Printer.opening_eq_gap, hgap]
      rintro _ ⟨⟩
      rw [hr, hhead]
    have hfurther : Printer.further (p.lead (p.newLead span frame (r :: rs)))
        (p.separator span frame style) frame.trailingSep rs = rs.flatMap p.place :=
      hrest.further_eq hstyle h.tail (fun hc => getLast?_of_tail (h.trailing_eq hc)) hrs
    have hsep : p.separator span frame style (qs.isEmpty && !frame.trailingSep) q =
        p.textOf q.layout.sep := Printer.separator_eq_textOf hstyle hlast h.trailing_eq
    have hlength : rs.isEmpty = qs.isEmpty := by
      rw [← List.isEmpty_map (f := Piece.layout), hrs, List.isEmpty_map]
    rw [List.isEmpty_cons] at hempty
    rw [Printer.framed, hgap, hclosing, hempty]
    simp only [Bool.false_and, Bool.false_eq_true, if_false, hopening, hlength,
      Printer.separator_congr hr, hsep, hfurther, List.flatMap_cons, Printer.place, hr, hhead,
      List.nil_append, List.append_nil, List.append_assoc, Printer.textOf]

/-- The items of the source are joined as they stand there. -/
theorem framedJoined (h : frame.Holds p comma stop qs gap text closing)
    (hstyle : style.comma = comma) (hstop : span.stop = stop) :
    p.framedJoined span frame style qs = true := by
  have hclosing : p.text (frame.close span) = closing := by
    rw [Frame.close, hstop]
    exact h.closing_eq
  cases hqs : qs with
  | nil => rfl
  | cons q qs' =>
    have hempty : frame.wasEmpty = false := by rw [h.wasEmpty_eq, hqs]; rfl
    rw [← hqs, Printer.framedJoined, Printer.hasTrailing, Printer.unfolds, hempty, hclosing]
    exact h.laid.joined hstyle h.tail h.trailing_eq

end Frame.Holds

end Source

/-! ### Comments that are kept -/

theorem Text.from?_eq_some {d : Char} {text piece : List Char} (h : from? d text = some piece) :
    ∃ before, text = before ++ piece ∧ d ∉ before := by
  refine ⟨text.takeWhile (· != d), ?_, fun hmem => by simpa using List.mem_takeWhile_imp hmem⟩
  rw [from?] at h
  split at h
  · cases h
  · next rest hrest =>
    cases h
    exact (List.takeWhile_append_dropWhile).symm

/-- A quiet text from its first comment on. -/
theorem Text.isQuiet_from? {text comment : List Char} (hquiet : isQuiet false text = true)
    (h : from? '#' text = some comment) :
    isQuiet false comment = true ∧ commentAfter false comment = commentAfter false text := by
  obtain ⟨before, rfl, hnot⟩ := from?_eq_some h
  rw [isQuiet_append, commentAfter_of_not_mem hnot, Bool.and_eq_true] at hquiet
  rw [commentAfter_append, commentAfter_of_not_mem hnot]
  exact ⟨hquiet.2, rfl⟩

theorem IsTrivia.from? {text comment : List Char} (h : IsTrivia text)
    (hfrom : from? '#' text = some comment) : IsTrivia comment := by
  obtain ⟨hquiet, hopen⟩ := isQuiet_from? h.quiet hfrom
  exact ⟨hquiet, hopen.trans h.closed⟩

theorem Text.from?_append_of_not_mem {d : Char} {a : List Char} (h : d ∉ a) (b : List Char) :
    from? d (a ++ b) = from? d b := by
  rw [from?, List.dropWhile_append_of_pos fun c hc => by
    simpa using fun heq : c = d => h (heq ▸ hc), from?]

theorem Text.from?_append_of_mem {d : Char} {a : List Char} (h : d ∈ a) (b : List Char) :
    ∃ piece, from? d a = some piece ∧ from? d (a ++ b) = some (piece ++ b) := by
  induction a with
  | nil => cases h
  | cons c a ih =>
    by_cases hc : c = d
    · subst hc
      exact ⟨c :: a, by simp [from?], by simp [from?]⟩
    · obtain ⟨piece, hpiece, happend⟩ := ih (List.mem_of_ne_of_mem (Ne.symm hc) h)
      refine ⟨piece, ?_, ?_⟩
      · rw [← hpiece, from?, from?, List.dropWhile_cons_of_pos (by simpa using hc)]
      · rw [← happend, List.cons_append, from?, from?,
          List.dropWhile_cons_of_pos (by simpa using hc)]

/-- A separator from its first comment on has its comma still if the comment stands before it. -/
theorem IsSeparator.from? {sep comment : List Char} (h : IsSeparator true sep)
    (hfrom : from? '#' sep = some comment) :
    IsSeparator true comment ∨ isQuiet false comment = true := by
  obtain ⟨trivia, tail, rfl, htrivia, htail⟩ := h
  by_cases hmem : '#' ∈ trivia
  · obtain ⟨piece, hpiece, happend⟩ := from?_append_of_mem hmem (',' :: tail)
    rw [hfrom, Option.some.injEq] at happend
    exact .inl ⟨piece, tail, happend, htrivia.from? hpiece, htail⟩
  · have hcomma : '#' ∉ trivia ++ [','] := by simpa using hmem
    rw [show trivia ++ ',' :: tail = (trivia ++ [',']) ++ tail by simp,
      from?_append_of_not_mem hcomma] at hfrom
    exact .inr (isQuiet_from? htail hfrom).1

/-! ### The printed leads and separators -/

namespace Printer

variable (p : Printer)

theorem lineIndent_isTrivia (offset : Nat) : IsTrivia (p.lineIndent offset) :=
  isTrivia_of_isSpaceOrTab fun _ hc => List.mem_takeWhile_imp hc

theorem indentation_isTrivia (i : Indentation) (level : Nat) : IsTrivia (i.text level) :=
  .of_blank fun c hc => by
    rw [Indentation.text] at hc
    split at hc <;> rw [List.eq_of_mem_replicate hc] <;> rfl

theorem isTrivia_newline {text : List Char} (h : IsTrivia text) : IsTrivia ('\n' :: text) :=
  (show IsTrivia ['\n'] from ⟨rfl, rfl⟩).append h

theorem indentAfterNewline?_isTrivia {text indent : List Char}
    (h : indentAfterNewline? text = some indent) : IsTrivia indent := by
  obtain ⟨line, -, rfl⟩ := Option.map_eq_some_iff.1 h
  exact isTrivia_of_isSpaceOrTab fun _ hc => List.mem_takeWhile_imp hc

theorem newLead_isTrivia (span : Span) (frame : Frame) (items : List Piece) :
    IsTrivia (p.newLead span frame items) := by
  have hsiblings : ∀ indent ∈ items.filterMap fun item => item.layout.lead.bind fun lead =>
      indentAfterNewline? (p.text lead), IsTrivia indent := by
    intro indent hmem
    obtain ⟨item, -, hbind⟩ := List.mem_filterMap.1 hmem
    obtain ⟨lead, -, hindent⟩ := Option.bind_eq_some_iff.1 hbind
    exact indentAfterNewline?_isTrivia hindent
  rw [newLead]
  split
  · next _ indent hlast => exact isTrivia_newline (hsiblings _ (List.mem_of_getLast? hlast))
  · next indent _ hgap =>
    split at hgap
    · cases hgap
    · exact isTrivia_newline (indentAfterNewline?_isTrivia hgap)
  · split
    · exact isTrivia_newline ((p.lineIndent_isTrivia _).append (indentation_isTrivia _ _))
    · exact ⟨rfl, rfl⟩

/-- A new item of a container that was empty and has a line break stands on a line of its own. -/
theorem newLead_head? {span : Span} {frame : Frame} {items : List Piece}
    (hempty : frame.wasEmpty = true) (hleads : ∀ item ∈ items, item.layout.lead = none)
    (hbreak : (p.text span).contains '\n' = true) :
    (p.newLead span frame items).head? = some '\n' := by
  have hsiblings : (items.filterMap fun item => item.layout.lead.bind fun lead =>
      indentAfterNewline? (p.text lead)) = [] :=
    List.filterMap_eq_nil_iff.2 fun item hitem => by rw [hleads item hitem]; rfl
  simp only [newLead, hsiblings, hempty, if_true, List.getLast?_nil, hbreak]
  rfl

variable {p} {span : Span} {frame : Frame} {style : ListStyle} {items : List Piece}

theorem lead_isTrivia {comma : Bool} {new : List Char} (hnew : IsTrivia new) {q : Piece}
    (h : q.layout.Fits p comma) : IsTrivia (p.lead new q) := by
  have hlead := h.lead
  rw [lead]
  cases hq : q.layout.lead with
  | none => exact hnew
  | some lead =>
    rw [hq] at hlead
    exact hlead

theorem opening_isTrivia {comma : Bool} (hgap : IsTrivia (p.text frame.gap))
    (h : ∀ q ∈ items, q.layout.Fits p comma) : IsTrivia (p.opening frame items) := by
  have hlead : IsTrivia (p.textOf (items.head?.bind (·.layout.lead))) := by
    cases items with
    | nil => exact .nil
    | cons q qs => exact (h q List.mem_cons_self).lead
  rw [opening]
  split
  · exact hgap
  · next comment hcomment =>
    split
    · exact hgap.append (hlead.from? hcomment)
    · exact hlead

/-- The separator behind an item of a comma list has the comma, unless the item is the last one. -/
theorem separator_shape (hstyle : style.comma = true) {q : Piece} (h : q.layout.Fits p true)
    (final : Bool) :
    IsSeparator true (p.separator span frame style final q) ∨
      final = true ∧ isQuiet false (p.separator span frame style final q) = true := by
  rw [separator, hstyle]
  cases final with
  | false =>
    left
    cases hsep : q.layout.sep with
    | none => exact ⟨[], [], rfl, .nil, rfl⟩
    | some sep => exact h.sep sep hsep
  | true =>
    cases hfrom : from? '#' (p.textOf q.layout.sep) with
    | none => exact .inr ⟨rfl, rfl⟩
    | some comment =>
      have hsep : IsSeparator true (p.textOf q.layout.sep) := by
        cases hq : q.layout.sep with
        | none =>
          rw [hq] at hfrom
          cases hfrom
        | some sep => exact h.sep sep hq
      have hkept : ∀ nl, IsTrivia nl → IsSeparator true (' ' :: comment ++ nl) ∨
          true = true ∧ isQuiet false (' ' :: comment ++ nl) = true := by
        intro nl hnl
        have hspace : IsTrivia [' '] := ⟨rfl, rfl⟩
        rcases hsep.from? hfrom with ⟨a, b, rfl, ha, hb⟩ | hquiet
        · refine .inl ⟨' ' :: a, b ++ nl, by simp, hspace.append ha, ?_⟩
          rw [isQuiet_append, hb, Bool.true_and]
          exact isQuiet_of_comment hnl.quiet _
        · refine .inr ⟨rfl, ?_⟩
          rw [isQuiet_append, isQuiet_of_comment hnl.quiet, Bool.and_true]
          exact hquiet
      refine hkept _ ?_
      split
      · exact .nil
      · exact isTrivia_newline (p.lineIndent_isTrivia _)

/-! ### Containers with any items -/

section Entries

variable {lead : Piece → List Char} {separator : Bool → Piece → List Char} {trailing : Bool}
  {close closing : List Char}

theorem joined_cons {q : Piece} {qs : List Piece}
    (h : joined lead separator trailing close (q :: qs) = true) :
    (commentAfter false (separator (qs.isEmpty && !trailing) q) = true →
        '\n' ∈ nextText lead close qs) ∧
      joined lead separator trailing close qs = true := by
  rw [joined, Bool.and_eq_true, Bool.or_eq_true, Bool.not_eq_true', List.contains_iff_mem] at h
  exact ⟨fun hopen => h.1.resolve_left (by rw [hopen]; exact Bool.noConfusion), h.2⟩

theorem joined_singleton (hclose : close.contains '\n' = true → '\n' ∈ closing) {q : Piece}
    (h : joined lead separator trailing close [q] = true)
    (hopen : commentAfter false (separator (([] : List Piece).isEmpty && !trailing) q) = true) :
    '\n' ∈ closing :=
  hclose (List.contains_iff_mem.2 ((joined_cons h).1 hopen))

/-- Joined entries are a comma list. -/
theorem separated_entries (hclosing : IsTrivia closing)
    (hclose : close.contains '\n' = true → '\n' ∈ closing) {qs : List Piece} {q : Piece}
    {front : List Char} (hfront : IsTrivia front) (hlead : ∀ r ∈ q :: qs, IsTrivia (lead r))
    (hsep : ∀ r ∈ q :: qs, ∀ final, IsSeparator true (separator final r) ∨
      final = true ∧ isQuiet false (separator final r) = true)
    (hjoined : joined lead separator trailing close (q :: qs) = true) :
    Separated ((q :: qs).map (·.text)) (front ++ (q.text ++
      (separator (qs.isEmpty && !trailing) q ++
        (further lead separator trailing qs ++ closing)))) := by
  induction qs generalizing q front with
  | nil =>
    have hjoint := joined_singleton hclose hjoined
    rcases hsep q List.mem_cons_self ([].isEmpty && !trailing) with
      ⟨a, b, heq, ha, hb⟩ | ⟨-, hquiet⟩
    · rw [heq, commentAfter_append, ha.closed] at hjoint
      have hend : IsTrivia (b ++ closing) := .append_of_newline hb hclosing hjoint
      rw [heq]
      simpa [further] using Separated.cons (t := q.text) hfront ha (.nil hend)
    · have hend := IsTrivia.append_of_newline hquiet hclosing hjoint
      simpa [further] using Separated.last (t := q.text) hfront hend
  | cons r qs ih =>
    obtain ⟨hjoint, hjoined⟩ := joined_cons hjoined
    have hnext := hlead r (by simp)
    rcases hsep q List.mem_cons_self ((r :: qs).isEmpty && !trailing) with
      ⟨a, b, heq, ha, hb⟩ | ⟨hfinal, -⟩
    · rw [heq, commentAfter_append, ha.closed] at hjoint
      have hrest := ih (.append_of_newline hb hnext hjoint)
        (fun s hs => hlead s (List.mem_cons_of_mem _ hs))
        (fun s hs => hsep s (List.mem_cons_of_mem _ hs)) hjoined
      rw [heq]
      simpa [further] using Separated.cons (t := q.text) hfront ha hrest
    · simp at hfinal

/-- Joined statements stand one after the other. -/
theorem strung_entries (hclosing : IsTrivia closing)
    (hclose : close.contains '\n' = true → '\n' ∈ closing) {qs : List Piece} {q : Piece}
    {front : List Char} (hfront : IsTrivia front) (hlead : ∀ r ∈ q :: qs, IsTrivia (lead r))
    (hsep : ∀ r ∈ q :: qs, ∀ final, isQuiet false (separator final r) = true)
    (hjoined : joined lead separator trailing close (q :: qs) = true) :
    ∃ body rest, front ++ (q.text ++ (separator (qs.isEmpty && !trailing) q ++
        (further lead separator trailing qs ++ closing))) = front ++ (q.text ++ body) ++ rest ∧
      Strung ((q :: qs).map (·.text)) (front ++ (q.text ++ body)) ∧ IsTrivia rest := by
  induction qs generalizing q front with
  | nil =>
    have hend := IsTrivia.append_of_newline (hsep q List.mem_cons_self _) hclosing
      (joined_singleton hclose hjoined)
    exact ⟨[], _, by simp [further], .cons hfront .nil, hend⟩
  | cons r qs ih =>
    obtain ⟨hjoint, hjoined⟩ := joined_cons hjoined
    have hnext := hlead r (by simp)
    obtain ⟨body, rest, heq, hstrung, hrest⟩ :=
      ih (.append_of_newline (hsep q List.mem_cons_self _) hnext hjoint)
        (fun s hs => hlead s (List.mem_cons_of_mem _ hs))
        (fun s hs => hsep s (List.mem_cons_of_mem _ hs)) hjoined
    refine ⟨_, rest, ?_, .cons hfront hstrung, hrest⟩
    rw [further, List.append_assoc, List.append_assoc front, List.append_assoc q.text, ← heq]
    simp

end Entries

section Framed

variable (p span frame style)

theorem framed_nil : p.framed span frame style [] =
    p.text (frame.header span) ++ (p.front span frame [] ++ p.text (frame.close span)) := by
  have hopening : p.opening frame [] = p.text frame.gap := rfl
  simp only [framed, front, unfolds, hopening]
  cases (frame.wasEmpty && (p.text frame.gap).contains '\n') <;> simp

theorem framed_cons (q : Piece) (qs : List Piece) : p.framed span frame style (q :: qs) =
    p.text (frame.header span) ++ (p.front span frame (q :: qs) ++ (q.text ++
      (p.separator span frame style (qs.isEmpty && !p.hasTrailing frame style) q ++
        (further (p.lead (p.newLead span frame (q :: qs))) (p.separator span frame style)
            (p.hasTrailing frame style) qs ++
          ((if p.unfolds frame then p.text frame.gap else []) ++
            p.text (frame.close span)))))) := by
  simp only [framed, front, hasTrailing, unfolds]
  by_cases h : (frame.wasEmpty && (p.text frame.gap).contains '\n') = true
  · simp only [h, if_true, List.append_nil, List.append_assoc]
  · rw [Bool.not_eq_true] at h
    simp only [h, Bool.false_eq_true, if_false, List.nil_append, List.append_nil, List.append_assoc]

end Framed

end Printer

/-- The frame of a container in the source, whose header has the text `header` and whose closing
token has the text `sign`. -/
structure Frame.Frames (p : Printer) (span : Span) (frame : Frame) (header sign : List Char) :
    Prop where
  header_eq : p.text (frame.header span) = header
  gap : IsTrivia (p.text frame.gap)
  closing : ∃ closing, IsTrivia closing ∧ p.text (frame.close span) = closing ++ sign

namespace Frame.Frames

variable {p : Printer} {span : Span} {frame : Frame} {header sign : List Char} {style : ListStyle}
  {items : List Piece}

theorem front_isTrivia (h : frame.Frames p span header sign) {comma : Bool}
    (hfits : ∀ q ∈ items, q.layout.Fits p comma) : IsTrivia (p.front span frame items) := by
  unfold Printer.front
  split
  · cases items with
    | nil => exact h.gap
    | cons q qs =>
      exact Printer.lead_isTrivia (p.newLead_isTrivia _ _ _) (hfits q List.mem_cons_self)
  · exact Printer.opening_isTrivia h.gap hfits

/-- The text behind the items up to the closing token. -/
theorem closing_eq (h : frame.Frames p span header sign) (hsign : '\n' ∉ sign) :
    ∃ closing, IsTrivia closing ∧
      (if p.unfolds frame then p.text frame.gap else []) ++ p.text (frame.close span) =
        closing ++ sign ∧
      (((if p.unfolds frame then p.text frame.gap else []) ++
        p.text (frame.close span)).contains '\n' = true → '\n' ∈ closing) := by
  obtain ⟨closing, hclosing, heq⟩ := h.closing
  have hgap : IsTrivia (if p.unfolds frame then p.text frame.gap else []) := by
    split
    · exact h.gap
    · exact .nil
  refine ⟨_, hgap.append hclosing, by rw [heq, List.append_assoc], fun hmem => ?_⟩
  rw [heq, ← List.append_assoc, List.contains_iff_mem, List.mem_append] at hmem
  exact hmem.resolve_right hsign

/-- The printed items are a comma list if they are joined. -/
theorem framed_separated (h : frame.Frames p span header sign) (hsign : '\n' ∉ sign)
    (hstyle : style.comma = true) (hfits : ∀ q ∈ items, q.layout.Fits p true)
    (hjoined : p.framedJoined span frame style items = true) :
    ∃ rest, p.framed span frame style items =
        header ++ ((p.front span frame items ++ rest) ++ sign) ∧
      Separated (items.map (·.text)) (p.front span frame items ++ rest) ∧
      ∀ q ∈ items.head?, ∃ text, rest = q.text ++ text := by
  have hfront := h.front_isTrivia hfits
  cases items with
  | nil =>
    obtain ⟨closing, hclosing, heq⟩ := h.closing
    exact ⟨closing, by rw [Printer.framed_nil, h.header_eq, heq, List.append_assoc],
      .nil (hfront.append hclosing), by simp⟩
  | cons q qs =>
    obtain ⟨closing, hclosing, heq, hclose⟩ := h.closing_eq hsign
    refine ⟨_, ?_, Printer.separated_entries hclosing hclose hfront
      (fun r hr => Printer.lead_isTrivia (p.newLead_isTrivia _ _ _) (hfits r hr))
      (fun r hr => Printer.separator_shape hstyle (hfits r hr)) hjoined, ?_⟩
    · rw [Printer.framed_cons, h.header_eq, heq]
      simp only [List.append_assoc]
    · rintro r hr
      cases hr
      exact ⟨_, rfl⟩

/-- The printed items stand one after the other if they are joined. -/
theorem framed_strung (h : frame.Frames p span header sign) (hsign : '\n' ∉ sign)
    (hstyle : style.comma = false) (hfits : ∀ q ∈ items, q.layout.Fits p false)
    (hjoined : p.framedJoined span frame style items = true) :
    ∃ body rest, p.framed span frame style items = header ++ (body ++ (rest ++ sign)) ∧
      Strung (items.map (·.text)) body ∧ IsTrivia rest ∧
      ∃ text, body ++ rest = p.front span frame items ++ text := by
  have hfront := h.front_isTrivia hfits
  cases items with
  | nil =>
    obtain ⟨closing, hclosing, heq⟩ := h.closing
    exact ⟨[], _, by simp [Printer.framed_nil, h.header_eq, heq], .nil,
      hfront.append hclosing, closing, rfl⟩
  | cons q qs =>
    obtain ⟨closing, hclosing, heq, hclose⟩ := h.closing_eq hsign
    have hsep : ∀ r ∈ q :: qs, ∀ final,
        isQuiet false (p.separator span frame style final r) = true := by
      intro r hr final
      rw [Printer.separator, hstyle, Bool.not_false, if_pos rfl]
      cases hq : r.layout.sep with
      | none => rfl
      | some sep => exact (hfits r hr).sep sep hq
    obtain ⟨body, rest, htext, hstrung, hrest⟩ := Printer.strung_entries hclosing hclose hfront
      (fun r hr => Printer.lead_isTrivia (p.newLead_isTrivia _ _ _) (hfits r hr)) hsep hjoined
    refine ⟨_, rest, ?_, hstrung, hrest, _, by rw [List.append_assoc]⟩
    rw [Printer.framed_cons, h.header_eq, heq, ← List.append_assoc _ rest sign, ← htext]
    simp only [List.append_assoc]

end Frame.Frames

end PolicyEditor
