import PolicyEditor.Proofs.Editing.Constructs
import PolicyEditor.Proofs.Grammar.Comments

/-!
# Comments survive the edits of a list

The comments of a construct stand in its header, in the gap in front of its items, in the leads, the
texts and the separators of the items, and in front of its closing token.  Another list of items may
take the place of the items, made of some of the old items in any order and of any new ones.  Then
every comment is still printed, but for those of the items that were dropped.

## Main definitions

* `Layout.Covers` : a range lies in the lead, the text or the separator of a node.
* `Piece.Has` : a comment stands in the lead, the text or the separator of an item.

## Main results

* `Laid.locate` : a comment among laid items belongs to one of them.
* `Printer.infix_framed` : a container prints the comments of all its items.
* `infix_render_of_refills` : comments survive in every file that was read.
-/

namespace PolicyEditor

open Text

/-- The range lies in the span. -/
def Span.Contains (s range : Span) : Prop :=
  s.start ≤ range.start ∧ range.stop ≤ s.stop

/-- The range of a token. -/
def Token.span (t : Token) : Span :=
  ⟨t.offset, t.stop⟩

/-- The range lies in the lead, the text or the separator of a node. -/
def Layout.Covers (l : Layout) (range : Span) : Prop :=
  ∃ s, (l.lead = some s ∨ l.span = some s ∨ l.sep = some s) ∧ s.Contains range

instance (s range : Span) : Decidable (s.Contains range) :=
  inferInstanceAs (Decidable (_ ∧ _))

instance (l : Layout) (range : Span) : Decidable (l.Covers range) :=
  decidable_of_iff ((∃ s ∈ l.lead, s.Contains range) ∨ (∃ s ∈ l.span, s.Contains range) ∨
    ∃ s ∈ l.sep, s.Contains range) <| by simp [Layout.Covers, or_and_right, exists_or]

/-- The comment stands in the lead, the text or the separator of the item. -/
def Piece.Has (p : Printer) (q : Piece) (comment : List Char) : Prop :=
  comment <:+: p.textOf q.layout.lead ∨ comment <:+: q.text ∨ comment <:+: p.textOf q.layout.sep

/-! ### Where a comment stands -/

/-- A comment in the text of a span is in the span. -/
theorem Text.IsComment.exists_span {p : Printer} {span : Option Span} {comment : List Char}
    (h : IsComment comment) (hpart : comment <:+: p.textOf span) : ∃ s, span = some s := by
  rcases span with - | s
  · exact (h.ne_nil (List.infix_nil.1 hpart)).elim
  · exact ⟨s, rfl⟩

theorem Text.HasAt.contains {start stop position : Nat} {text comment : List Char}
    (h : HasAt start text position comment) (hstop : stop = start + byteLength text) :
    Span.Contains ⟨start, stop⟩ ⟨position, position + byteLength comment⟩ :=
  ⟨h.start_le, hstop ▸ h.stop_le⟩

/-- A comment in an item in its place belongs to the item. -/
theorem Printer.Sits.locate {p : Printer} {start position : Nat} {q : Piece}
    {rest comment : List Char} (h : p.Sits start q) (hlead : IsTrivia (p.textOf q.layout.lead))
    (hclosed : commentAfter false q.text = false)
    (hline : commentAfter false (p.textOf q.layout.sep) = true → rest.head? = some '\n')
    (hcomment : IsComment comment) (hat : HasAt start (p.place q ++ rest) position comment) :
    q.Has p comment ∧ q.layout.Covers ⟨position, position + byteLength comment⟩ ∨
      HasAt (start + byteLength (p.place q)) rest position comment := by
  rw [place, List.append_assoc, List.append_assoc] at hat
  rcases hat.cut hcomment (by simp [hlead.closed]) with hat | hat
  · obtain ⟨s, hs⟩ := hcomment.exists_span hat.isInfix
    refine .inl ⟨.inl hat.isInfix, s, .inl hs, ?_⟩
    rw [h.lead s hs]
    exact hat.contains rfl
  rcases hat.cut hcomment (by simp [hclosed]) with hat | hat
  · refine .inl ⟨.inr (.inl hat.isInfix), _, .inr (.inl h.span), hat.contains ?_⟩
    rw [byteLength_append, Nat.add_assoc]
  rcases hat.cut hcomment hline with hat | hat
  · obtain ⟨s, hs⟩ := hcomment.exists_span hat.isInfix
    refine .inl ⟨.inr (.inr hat.isInfix), s, .inr (.inr hs), ?_⟩
    rw [h.sep s hs, byteLength_append, ← Nat.add_assoc]
    exact hat.contains (by simp only [place, byteLength_append, Nat.add_assoc])
  · right
    simpa [place, Nat.add_assoc] using hat

/-- A comment among laid items, or in the text behind them, belongs to one of the items or to that
text. -/
theorem Laid.locate {p : Printer} {comma : Bool} {next text comment : List Char} {qs : List Piece}
    {start position : Nat} (h : Laid p comma next qs text) (hplaced : p.Placed start qs)
    (hclosed : ∀ q ∈ qs, commentAfter false q.text = false) (hcomment : IsComment comment)
    (hat : HasAt start (qs.flatMap p.place ++ next) position comment) :
    (∃ q ∈ qs, q.Has p comment ∧ q.layout.Covers ⟨position, position + byteLength comment⟩) ∨
      comment <:+: next := by
  induction h generalizing start with
  | nil => exact .inr hat.isInfix
  | @cons q qs text hfits _ _ _ hline hlaid ih =>
    obtain ⟨hsits, hplaced⟩ := hplaced
    rw [List.forall_mem_cons] at hclosed
    rw [hlaid.text_eq] at hline
    rw [List.flatMap_cons, List.append_assoc] at hat
    rcases hsits.locate hfits.lead hclosed.1 hline hcomment hat with hq | hat
    · exact .inl ⟨q, List.mem_cons_self, hq⟩
    · rcases ih hplaced hclosed.2 hat with ⟨r, hr, hhas⟩ | hnext
      · exact .inl ⟨r, List.mem_cons_of_mem q hr, hhas⟩
      · exact .inr hnext

/-! ### Comments that are printed -/

theorem Text.infix_append_left {a b comment : List Char} (h : comment <:+: a) :
    comment <:+: a ++ b :=
  h.trans (List.prefix_append a b).isInfix

theorem Text.infix_append_right {a b comment : List Char} (h : comment <:+: b) :
    comment <:+: a ++ b :=
  h.trans (List.suffix_append a b).isInfix

/-- A text with a comment in it still has the comment if it is cut at its first `#`. -/
theorem Text.IsComment.infix_from? {comment text : List Char} (h : IsComment comment)
    (hpart : comment <:+: text) : ∃ piece, from? '#' text = some piece ∧ comment <:+: piece := by
  obtain ⟨before, behind, rfl⟩ := hpart
  rw [List.append_assoc]
  by_cases hmem : '#' ∈ before
  · obtain ⟨piece, -, hpiece⟩ := from?_append_of_mem hmem (comment ++ behind)
    exact ⟨_, hpiece, piece, behind, by simp⟩
  · obtain ⟨rest, hrest⟩ := List.head?_eq_some_iff.1 h.head
    rw [from?_append_of_not_mem hmem, hrest]
    exact ⟨_, rfl, [], behind, rfl⟩

namespace Printer

variable {p : Printer} {span : Span} {frame : Frame} {style : ListStyle} {items qs : List Piece}
  {comment : List Char} {q : Piece}

/-- The lead of an item is printed with its comments. -/
theorem infix_lead (hcomment : IsComment comment) (h : comment <:+: p.textOf q.layout.lead)
    (new : List Char) : comment <:+: p.lead new q := by
  obtain ⟨s, hs⟩ := hcomment.exists_span h
  rw [hs] at h
  rw [lead, hs]
  exact h

/-- The separator of an item is printed with its comments, also behind the last item. -/
theorem infix_separator (hcomment : IsComment comment) (h : comment <:+: p.textOf q.layout.sep)
    (final : Bool) : comment <:+: p.separator span frame style final q := by
  obtain ⟨s, hs⟩ := hcomment.exists_span h
  obtain ⟨piece, hpiece, hpart⟩ := hcomment.infix_from? h
  rw [separator, hpiece, hs]
  rw [hs] at h
  split
  · exact h
  · split
    · exact h
    · exact hpart.trans ⟨[' '], _, rfl⟩

/-- The gap of a container is printed with its comments, in front of the items or behind them. -/
theorem infix_front_gap (hcomment : IsComment comment) (hgap : IsTrivia (p.text frame.gap))
    (h : comment <:+: p.text frame.gap) (hunfolds : p.unfolds frame = false) :
    comment <:+: p.front span frame items := by
  have hline := hcomment.newline_mem hgap.closed h
  unfold front
  rw [hunfolds, if_neg Bool.false_ne_true, opening]
  split
  · exact h
  · rw [if_pos (List.contains_iff_mem.2 hline)]
    exact infix_append_left h

/-- The lead of the first item is printed with its comments. -/
theorem infix_front_lead (hcomment : IsComment comment) (h : comment <:+: p.textOf q.layout.lead) :
    comment <:+: p.front span frame (q :: qs) := by
  unfold front
  split
  · exact infix_lead hcomment h _
  · obtain ⟨piece, hpiece, hpart⟩ := hcomment.infix_from? h
    rw [opening, List.head?_cons, Option.bind_some, hpiece]
    dsimp only
    split
    · exact infix_append_right hpart
    · exact h

/-- An item that brings the comments of its lead and of its separator is printed with its
comments. -/
theorem infix_item {front sep : List Char} (h : q.Has p comment)
    (hlead : comment <:+: p.textOf q.layout.lead → comment <:+: front)
    (hsep : comment <:+: p.textOf q.layout.sep → comment <:+: sep) (rest : List Char) :
    comment <:+: front ++ (q.text ++ (sep ++ rest)) := by
  rcases h with h | h | h
  · exact infix_append_left (hlead h)
  · exact infix_append_right (infix_append_left h)
  · exact infix_append_right (infix_append_right (infix_append_left (hsep h)))

/-- The items of a container behind the first one are printed with their comments. -/
theorem infix_further (hcomment : IsComment comment) (new : List Char) (trailing : Bool)
    (hq : q ∈ qs) (h : q.Has p comment) :
    comment <:+: further (p.lead new) (p.separator span frame style) trailing qs := by
  induction qs with
  | nil => cases hq
  | cons r qs ih =>
    rw [further, List.append_assoc, List.append_assoc]
    rcases List.mem_cons.1 hq with rfl | hq
    · exact infix_item h (infix_lead hcomment · new) (infix_separator hcomment · _) _
    · exact infix_append_right (infix_append_right (infix_append_right (ih hq)))

/-- A container is printed with the comments of all its items. -/
theorem infix_framed (hcomment : IsComment comment) (hq : q ∈ items) (h : q.Has p comment) :
    comment <:+: p.framed span frame style items := by
  rcases items with - | ⟨r, qs⟩
  · cases hq
  rw [framed_cons]
  refine infix_append_right ?_
  rcases List.mem_cons.1 hq with rfl | hq
  · exact infix_item h (infix_front_lead hcomment) (infix_separator hcomment · _) _
  · exact infix_append_right (infix_append_right (infix_append_right (infix_append_left
      (infix_further hcomment _ _ hq h))))

/-- A container is printed with the comments of its gap, in front of its items or behind them. -/
theorem infix_framed_gap (hcomment : IsComment comment) (hgap : IsTrivia (p.text frame.gap))
    (h : comment <:+: p.text frame.gap) : comment <:+: p.framed span frame style items := by
  have hfront (hunfolds : ¬p.unfolds frame = true) : comment <:+: p.front span frame items :=
    infix_front_gap hcomment hgap h (Bool.eq_false_iff.2 hunfolds)
  rcases items with - | ⟨q, qs⟩
  · rw [framed_nil]
    refine infix_append_right (infix_append_left ?_)
    by_cases hunfolds : p.unfolds frame = true
    · unfold front
      rwa [if_pos hunfolds]
    · exact hfront hunfolds
  · rw [framed_cons]
    refine infix_append_right ?_
    by_cases hunfolds : p.unfolds frame = true
    · rw [if_pos hunfolds]
      exact infix_append_right (infix_append_right (infix_append_right (infix_append_right
        (infix_append_left h))))
    · exact infix_append_left (hfront hunfolds)

theorem infix_framed_header (h : comment <:+: p.text (frame.header span)) :
    comment <:+: p.framed span frame style items := by
  rcases items with - | ⟨q, qs⟩
  · rw [framed_nil]
    exact infix_append_left h
  · rw [framed_cons]
    exact infix_append_left h

theorem infix_framed_close (h : comment <:+: p.text (frame.close span)) :
    comment <:+: p.framed span frame style items :=
  infix_append_right h

end Printer

/-! ### Constructs with other items -/

namespace Construct

variable {p : Printer} {n n' : Construct}

/-- A definition on several lines does not unfold. -/
theorem unfolds_of_line {span : Span} (h : '\n' ∈ p.text span) (frame : Frame) :
    n.unfolds p span frame = false := by
  cases n with
  | definition d => simp [unfolds, Definition.unfolds, h]
  | _ => rfl

/-- If another list of items takes the place of the items of a construct, every comment in the text
of the construct is printed that does not belong to a dropped item. -/
theorem Refills.infix_text (h : n.Refills n') (hn : n.Stands p) {span : Span}
    (hspan : n.layout.span = some span) (htext : p.text span = n.text p) {position : Nat}
    {comment : List Char} (hcomment : IsComment comment)
    (hat : HasAt span.start (n.text p) position comment)
    (hkept : ∀ k ∈ n.items, k ∉ n'.items →
      ¬k.layout.Covers ⟨position, position + byteLength comment⟩) : comment <:+: n'.text p := by
  obtain ⟨span', frame, hframed⟩ := hn.framed h
  obtain rfl : span = span' := Option.some.inj (hspan.symm.trans hframed.span_eq)
  have hseats := hframed.seats
  -- The text has a comment and does not end in it, so it has a line feed.
  have hline := hcomment.newline_mem hn.closed hat.isInfix
  rw [h.symm.text_eq (h.layout_eq ▸ hspan) (h.frame_eq ▸ hframed.frame_eq)
    (unfolds_of_line (htext ▸ hline) frame)]
  rw [h.refl_left.text_eq_framed hframed rfl, hseats.framed_eq _ rfl _ rfl] at hat
  have hheader : commentAfter false (p.text (frame.header span)) = true →
      (p.text frame.gap ++ ((n.pieces p).flatMap p.place ++ p.text (frame.close span))).head? =
        some '\n' := fun hopen => by
    rw [List.head?_append, hframed.line hopen]
    rfl
  rcases hat.cut hcomment hheader with hat | hat
  · exact Printer.infix_framed_header hat.isInfix
  rcases hat.cut hcomment (by simp [hframed.gap.closed]) with hat | hat
  · exact Printer.infix_framed_gap hcomment hframed.gap hat.isInfix
  have hplaced := hseats.placed
  rw [byteLength_append, ← Nat.add_assoc] at hplaced
  obtain ⟨text, hholds⟩ := hseats.holds
  have hclosed : ∀ q ∈ n.pieces p, commentAfter false q.text = false :=
    List.forall_mem_map.2 fun k hk => (hn.items k hk).closed
  rcases hholds.laid.locate hplaced hclosed hcomment hat with ⟨q, hq, hhas, hcovers⟩ | hclose
  · obtain ⟨k, hk, rfl⟩ := List.mem_map.1 hq
    have hk' : k ∈ n'.items := by
      by_contra hdropped
      exact hkept k hk hdropped hcovers
    exact Printer.infix_framed hcomment (List.mem_map_of_mem hk') hhas
  · exact Printer.infix_framed_close hclose

end Construct

/-- A comment in a construct is printed in its file, unless it belongs to a dropped item. -/
theorem Forest.Swaps.infix_forestText {p : Printer} {f g : Forest} {n n' : Construct}
    (h : f.Swaps n n' g) (hf : f.Stands p) (hrefill : n.Refills n') {span : Span}
    (hspan : n.layout.span = some span) {position : Nat} {comment : List Char}
    (hcomment : IsComment comment) (hat : HasAt 0 p.source position comment)
    (hin : span.Contains ⟨position, position + byteLength comment⟩)
    (hkept : ∀ k ∈ n.items, k ∉ n'.items →
      ¬k.layout.Covers ⟨position, position + byteLength comment⟩) :
    comment <:+: p.forestText g := by
  obtain ⟨hn, a, b, hsource, hrender, hspan'⟩ := h.around hf hrefill.layout_eq
  obtain rfl := Option.some.inj (hspan.symm.trans hspan')
  have htext : p.text ⟨byteLength a, byteLength a + byteLength (n.text p)⟩ = n.text p := by
    rw [Printer.text, hsource, slice_append]
  rw [hsource] at hat
  have hinside := hat.of_bounds (by simpa using hin.1) (by simpa using hin.2)
  rw [Nat.zero_add] at hinside
  rw [hrender]
  exact infix_append_right (infix_append_left
    (hrefill.infix_text hn hspan htext hcomment hinside hkept))

/-- If the items of a construct of a file that was read are replaced by any others, among them some
of the old ones in any order, every comment of the construct that does not lie in the lead, the text
or the separator of a dropped item is still a piece of the text of the file. -/
theorem infix_render_of_refills {source file : String} {f g : Forest} {n n' : Construct}
    (h : parseFile source file = .ok f) (hswaps : f.Swaps n n' g) (hrefill : n.Refills n')
    {span : Span} (hspan : n.layout.span = some span) {t : Token}
    (ht : t ∈ comments source.toList) (hin : span.Contains t.span)
    (hkept : ∀ k ∈ n.items, k ∉ n'.items → ¬k.layout.Covers t.span) (indentation : Indentation) :
    t.text.toList <:+: (g.render source indentation).toList := by
  obtain ⟨hat, hcomment⟩ := Token.hasAt_of_mem_commentsFrom ht
  rw [Forest.render, String.toList_ofList]
  exact hswaps.infix_forestText (stands_of_parseFile h indentation) hrefill hspan hcomment hat hin
    hkept

/-! ### Hosts with comments -/

/-- A group whose hosts have comments. -/
def commentedHosts : String :=
  "group:g =\n # hosts\n host:a, # one\n # two\n host:b, # three\n host:c # four\n;\n"

/-- The host that comes last. -/
def hostA : Member :=
  ⟨.named "host" "a", { span := some ⟨20, 26⟩, sep := some ⟨26, 33⟩ }⟩

/-- The host that is taken away. -/
def hostB : Member :=
  ⟨.named "host" "b", { span := some ⟨42, 48⟩, lead := some ⟨33, 42⟩, sep := some ⟨48, 57⟩ }⟩

/-- The host that comes first. -/
def hostC : Member :=
  ⟨.named "host" "c", { span := some ⟨59, 65⟩, lead := some ⟨57, 59⟩ }⟩

/-- The group with the given elements. -/
def groupOfHosts (elements : List Member) : Definition where
  name := "group:g"
  body := .group { elements }
  layout := { span := some ⟨0, 74⟩ }
  frame := some ⟨9, 20, 65, false, 3⟩

/-- Without the second host, with a new one and in another order, the comment of the first host is
still there. -/
theorem infix_render_of_refills_hosts :
    ∃ f g n n' t, parseFile commentedHosts "group" = .ok f ∧ Forest.Swaps n n' f g ∧ n.Refills n' ∧
      n.layout.span = some ⟨0, 74⟩ ∧ t ∈ comments commentedHosts.toList ∧ t.text = "# one" ∧
      g.render commentedHosts =
        "group:g =\n # hosts\n host:c,\n host:d,\n host:a # one\n # four\n;\n" ∧
      t.text.toList <:+: (g.render commentedHosts).toList := by
  have hparse : parseFile commentedHosts "group" =
      .ok ⟨[groupOfHosts [hostA, hostB, hostC]], some ⟨0, 0, 74, false, 1⟩⟩ := rfl
  have hrefill : (Construct.definition (groupOfHosts [hostA, hostB, hostC])).Refills
      (.definition (groupOfHosts [hostC, ⟨.named "host" "d", {}⟩, hostA])) :=
    .definition _ (.group ..)
  have hswaps : Forest.Swaps _ _ ⟨[groupOfHosts [hostA, hostB, hostC]], some ⟨0, 0, 74, false, 1⟩⟩
      ⟨[groupOfHosts [hostC, ⟨.named "host" "d", {}⟩, hostA]], some ⟨0, 0, 74, false, 1⟩⟩ :=
    @Forest.Swaps.mk _ _ _ [] [] _ _ rfl .here
  have hmem : (⟨.comment, "# one", 28⟩ : Token) ∈ comments commentedHosts.toList := by
    decide +kernel
  refine ⟨_, _, _, _, ⟨.comment, "# one", 28⟩, hparse, hswaps, hrefill, rfl, hmem, rfl, rfl, ?_⟩
  refine infix_render_of_refills hparse hswaps hrefill rfl hmem ⟨by decide, by decide⟩ ?_ {}
  rintro k hk hdropped ⟨s, hs, hstart, -⟩
  -- Of the hosts of the group only the second one is dropped.
  obtain rfl : k = .member hostB := by
    obtain rfl | rfl | rfl : k = .member hostA ∨ k = .member hostB ∨ k = .member hostC := by
      simpa [Construct.items, Construct.bodyItems, groupOfHosts] using hk
    · exact (hdropped (by simp [Construct.items, Construct.bodyItems, groupOfHosts])).elim
    · rfl
    · exact (hdropped (by simp [Construct.items, Construct.bodyItems, groupOfHosts])).elim
  -- The second host and what belongs to it stand behind the comment.
  obtain rfl | rfl | rfl : s = ⟨33, 42⟩ ∨ s = ⟨42, 48⟩ ∨ s = ⟨48, 57⟩ := by
    simpa [Construct.layout, hostB, eq_comm] using hs
  all_goals exact absurd hstart (by decide)

end PolicyEditor
