import PolicyEditor.Proofs.Editing.Locality

/-!
# Definitions that come and go

A new definition is put between the definitions of a file that was read, or one of them is taken
away.  Then the text of the file gains one piece or loses one range, wherever the definition stands:
in front of the others, between them, behind them or alone in the file.  What is lost is the
definition itself with blanks and comments around it.

## Main definitions

* `Frame.Drops` : a file is printed without one piece and without blanks behind it.
* `Text.Gains` : one piece is put into a text.
* `Text.Loses` : a text loses a range around a span.

## Main results

* `Frame.Wraps.gains`, `Frame.Wraps.loses` : the text of a file with a new definition, and without
  one of its definitions.
* `render_of_insert_erase` : so it is for every file that was read and every place in it.
-/

namespace PolicyEditor

open Text

/-- The text `t'` is the text `t` with one piece put in. -/
def Text.Gains (t t' : List Char) : Prop :=
  ∃ before new behind, t = before ++ behind ∧ t' = before ++ (new ++ behind)

/-- The text `t'` is the text `t` without one range.  The range has the text of `span` in it, and
otherwise blanks and comments, but no byte of the nodes with the layouts `others`. -/
def Text.Loses (span : Span) (others : List Layout) (t t' : List Char) : Prop :=
  ∃ before lead text trail behind, t = before ++ (lead ++ (text ++ (trail ++ behind))) ∧
    t' = before ++ behind ∧ IsTrivia lead ∧ IsTrivia trail ∧
    span = ⟨byteLength (before ++ lead), byteLength (before ++ lead ++ text)⟩ ∧
    ∀ l ∈ others, ∃ s, l.span = some s ∧
      (s.stop ≤ byteLength before ∨ byteLength (before ++ lead ++ text ++ trail) ≤ s.start)

/-- Trivia consist of trivia without a comment and of the text from the first comment on. -/
theorem IsTrivia.eq_append_from? {text : List Char} (h : IsTrivia text) :
    ∃ blank, IsTrivia blank ∧ '#' ∉ blank ∧ text = blank ++ (Text.from? '#' text).getD [] := by
  cases hfrom : Text.from? '#' text with
  | none =>
    refine ⟨text, h, fun hmem => ?_, by simp⟩
    obtain ⟨piece, hpiece, -⟩ := from?_append_of_mem hmem []
    cases hfrom.symm.trans hpiece
  | some comment =>
    obtain ⟨blank, htext, hnot⟩ := from?_eq_some hfrom
    have hquiet := h.quiet
    rw [htext, isQuiet_append, Bool.and_eq_true] at hquiet
    exact ⟨blank, ⟨hquiet.1, commentAfter_of_not_mem hnot⟩, hnot, by simpa using htext⟩

namespace Printer

variable {p : Printer}

/-- The spans of pieces in their places lie behind the first lead and in front of the end. -/
theorem Placed.spans {start : Nat} {qs : List Piece} (h : p.Placed start qs) :
    ∀ q ∈ qs, ∃ s, q.layout.span = some s ∧ start ≤ s.start ∧
      s.stop ≤ start + byteLength (qs.flatMap p.place) := by
  induction qs generalizing start with
  | nil => simp
  | cons q qs ih =>
    obtain ⟨hq, hqs⟩ := h
    rw [List.forall_mem_cons]
    refine ⟨⟨_, hq.span, by simp, ?_⟩, fun r hr => ?_⟩
    · simp only [List.flatMap_cons, place, byteLength_append]
      omega
    · obtain ⟨s, hs, hstart, hstop⟩ := ih hqs r hr
      refine ⟨s, hs, by omega, ?_⟩
      rw [List.flatMap_cons, byteLength_append]
      omega

theorem definitions_append (q : Piece) (qs rs : List Piece) :
    p.definitions p.frontLead (q :: (qs ++ rs)) =
      p.definitions p.frontLead (q :: qs) ++ p.furtherDefinitions rs := by
  simp [definitions, furtherDefinitions]

theorem definitions_cons {q : Piece} (qs : List Piece) (h : q.layout.lead = none) :
    p.definitions p.frontLead (q :: qs) = q.text ++ p.furtherDefinitions qs := by
  have hfront : p.frontLead q = [] := by
    rw [frontLead, h]
    rfl
  rw [definitions, hfront, List.nil_append]

/-- Behind other definitions a blank line stands in front of a definition without a lead. -/
theorem furtherDefinitions_cons {q : Piece} (qs : List Piece) (h : q.layout.lead = none) :
    p.furtherDefinitions (q :: qs) = "\n\n".toList ++ p.definitions p.frontLead (q :: qs) := by
  rw [definitions_cons qs h, furtherDefinitions, List.flatMap_cons, Printer.lead, h,
    List.append_assoc]
  rfl

/-- The text behind the definitions of a file starts with a new line at most, which only a new
definition at the end needs. -/
theorem footer_eq (frame : Frame) (qs : List Piece) :
    ∃ line, p.footer frame qs = line ++ suffix frame.closeStart p.source ∧
      ((∀ q ∈ qs.getLast?, q.layout.span.isSome) → line = []) := by
  rw [footer]
  cases hlast : qs.getLast? with
  | none => exact ⟨[], rfl, fun _ => rfl⟩
  | some q =>
    dsimp only
    split
    · next hnew =>
      refine ⟨['\n'], rfl, fun hspan => ?_⟩
      obtain ⟨span, hspan⟩ := Option.isSome_iff_exists.1 (hspan q rfl)
      simp [Layout.isSynthesized, hspan] at hnew
    · exact ⟨[], rfl, fun _ => rfl⟩

end Printer

/-- What is printed is the source without the piece `q`, which stands behind the pieces `qs` and in
front of the pieces `rs`, and without blanks behind it. -/
structure Frame.Drops (p : Printer) (frame : Frame) (qs : List Piece) (q : Piece) (rs : List Piece)
    (blank behind printed : List Char) : Prop where
  source_eq : p.source =
    p.text frame.gap ++ (qs.flatMap p.place ++ (p.place q ++ (blank ++ behind)))
  printed_eq : printed = p.text frame.gap ++ (qs.flatMap p.place ++ behind)
  trivia : IsTrivia blank
  comment : '#' ∉ blank
  back : ∀ r ∈ rs, ∃ s, r.layout.span = some s ∧
    byteLength (p.text frame.gap ++ (qs.flatMap p.place ++ (p.place q ++ blank))) ≤ s.start

/-! ### Files with a new definition, and without one -/

namespace Frame.Wraps

variable {p : Printer} {frame : Frame} {q : Piece} {qs rs : List Piece}

/-- Definitions that were read are printed in their places. -/
theorem definitions_eq (h : frame.Wraps p qs) (hseps : ∀ r ∈ qs, r.layout.sep = none) :
    p.definitions p.frontLead qs = qs.flatMap p.place := by
  cases qs with
  | nil => rfl
  | cons q qs =>
    rw [List.forall_mem_cons] at hseps
    exact Printer.definitions_eq (h.head q rfl) hseps.1 hseps.2 h.tail

/-- Some of the definitions that were read are printed in their places, with any others behind
them. -/
theorem definitions_append (h : frame.Wraps p (q :: (qs ++ rs)))
    (hseps : ∀ r ∈ q :: (qs ++ rs), r.layout.sep = none) (more : List Piece) :
    p.definitions p.frontLead (q :: (qs ++ more)) =
      (q :: qs).flatMap p.place ++ p.furtherDefinitions more := by
  rw [List.forall_mem_cons, List.forall_mem_append] at hseps
  rw [Printer.definitions_append, Printer.definitions_eq (h.head q rfl) hseps.1 hseps.2.1
    fun r hr => h.tail r (List.mem_append_left rs hr)]

/-- Behind other definitions, those that were read are printed in their places too. -/
theorem furtherDefinitions_eq (h : frame.Wraps p (q :: (qs ++ rs)))
    (hseps : ∀ r ∈ q :: (qs ++ rs), r.layout.sep = none) :
    p.furtherDefinitions rs = rs.flatMap p.place := by
  rw [List.forall_mem_cons, List.forall_mem_append] at hseps
  exact Printer.furtherDefinitions_eq hseps.2.2
    fun r hr => h.tail r (List.mem_append_right qs hr)

/-- With a new definition in front, the text of a file has one more piece behind its gap. -/
theorem gains_front (h : frame.Wraps p rs)
    (hread : ∀ r ∈ rs, r.layout.sep = none ∧ r.layout.span.isSome) (hq : q.layout = {}) :
    Gains p.source (p.text frame.gap ++
      (p.definitions p.frontLead (q :: rs) ++ p.footer frame (q :: rs))) := by
  have hlead : q.layout.lead = none := by rw [hq]
  obtain ⟨line, hfooter, hline⟩ := p.footer_eq frame (q :: rs)
  rw [Printer.definitions_cons rs hlead, hfooter]
  cases rs with
  | nil =>
    have hsource := h.text_eq
    refine ⟨p.text frame.gap, q.text ++ line, suffix frame.closeStart p.source, ?_, ?_⟩
    · exact hsource.symm
    · simp [Printer.furtherDefinitions]
  | cons r rs =>
    obtain rfl : line = [] := hline fun last hlast =>
      (hread last (List.mem_of_getLast? hlast)).2
    refine ⟨p.text frame.gap, q.text ++ "\n\n".toList, _, h.text_eq.symm, ?_⟩
    rw [Printer.furtherDefinitions_cons rs (h.head r rfl),
      h.definitions_eq fun r hr => (hread r hr).1]
    simp

/-- With a new definition behind others, the text of a file has one more piece behind them. -/
theorem gains_behind {e : Piece} (h : frame.Wraps p (e :: (qs ++ rs)))
    (hread : ∀ r ∈ e :: (qs ++ rs), r.layout.sep = none ∧ r.layout.span.isSome)
    (hq : q.layout = {}) :
    Gains p.source (p.text frame.gap ++ (p.definitions p.frontLead (e :: (qs ++ q :: rs)) ++
      p.footer frame (e :: (qs ++ q :: rs)))) := by
  have hseps : ∀ r ∈ e :: (qs ++ rs), r.layout.sep = none := fun r hr => (hread r hr).1
  have hlead : q.layout.lead = none := by rw [hq]
  obtain ⟨line, hfooter, hline⟩ := p.footer_eq frame (e :: (qs ++ q :: rs))
  -- A new line comes only behind the last definition of the file.
  have hclosed : rs.flatMap p.place ++ line = line ++ rs.flatMap p.place := by
    rcases List.eq_nil_or_concat rs with rfl | ⟨front, last, rfl⟩
    · simp
    · have hlist : e :: (qs ++ q :: front.concat last) = (e :: (qs ++ q :: front)) ++ [last] := by
        simp
      rw [hlist, List.getLast?_concat] at hline
      obtain rfl : line = [] := hline fun r hr => by
        cases hr
        exact (hread last (by simp)).2
      simp
  have hsource := h.text_eq
  refine ⟨p.text frame.gap ++ (e :: qs).flatMap p.place, "\n\n".toList ++ (q.text ++ line),
    rs.flatMap p.place ++ suffix frame.closeStart p.source, ?_, ?_⟩
  · simpa using hsource.symm
  · rw [h.definitions_append hseps, Printer.furtherDefinitions_cons rs hlead,
      Printer.definitions_cons rs hlead, h.furtherDefinitions_eq hseps, hfooter]
    simp only [List.append_assoc]
    rw [← List.append_assoc _ line, hclosed, List.append_assoc]

/-! ### Files without one of their definitions -/

/-- The footer behind definitions that were read is the rest of the source. -/
theorem footer_eq_suffix (hread : ∀ r ∈ qs, r.layout.sep = none ∧ r.layout.span.isSome) :
    p.footer frame qs = suffix frame.closeStart p.source := by
  obtain ⟨line, hfooter, hline⟩ := p.footer_eq frame qs
  rw [hfooter, hline fun r hr => (hread r (List.mem_of_getLast? hr)).2, List.nil_append]

/-- Without its first definition, the text of a file drops the blanks in front of the next one too,
up to a comment. -/
theorem drops_front (h : frame.Wraps p (q :: rs))
    (hread : ∀ r ∈ q :: rs, r.layout.sep = none ∧ r.layout.span.isSome) :
    ∃ blank behind, frame.Drops p [] q rs blank behind
      (p.text frame.gap ++ (p.definitions p.frontLead rs ++ p.footer frame rs)) := by
  have hsource := h.text_eq
  have hread' := hread
  rw [List.forall_mem_cons] at hread'
  obtain ⟨hsits, hplaced⟩ := h.placed
  rw [footer_eq_suffix hread'.2]
  rcases rs with - | ⟨r, rs⟩
  · refine ⟨[], suffix frame.closeStart p.source, ?_, rfl, .nil, by simp, by simp⟩
    simpa using hsource.symm
  have htrivia : IsTrivia (p.textOf r.layout.lead) := (h.fits r (by simp)).lead
  obtain ⟨blank, hblank, hcomment, hlead⟩ : ∃ blank, IsTrivia blank ∧ '#' ∉ blank ∧
      p.textOf r.layout.lead = blank ++ p.frontLead r := htrivia.eq_append_from?
  obtain ⟨hr, hrplaced⟩ := hplaced
  have hplace : p.place r = blank ++ (p.frontLead r ++ r.text) := by
    rw [Printer.place, hlead, (hread'.2 r (by simp)).1, List.append_assoc]
    simp [Printer.textOf]
  have hplaces : p.place q ++ (blank ++ p.definitions p.frontLead (r :: rs)) =
      (q :: r :: rs).flatMap p.place := by
    have hwraps : frame.Wraps p (q :: ([r] ++ rs)) := h
    rw [Printer.definitions, hwraps.furtherDefinitions_eq fun r hr => (hread r hr).1,
      List.flatMap_cons, List.flatMap_cons, hplace]
    simp only [List.append_assoc]
  refine ⟨blank, p.definitions p.frontLead (r :: rs) ++ suffix frame.closeStart p.source, ?_, rfl,
    hblank, hcomment, ?_⟩
  · simpa [← hplaces] using hsource.symm
  rw [List.forall_mem_cons]
  refine ⟨⟨_, hr.span, ?_⟩, fun s hs => ?_⟩
  · simp only [hlead, List.flatMap_nil, List.nil_append, byteLength_append]
    omega
  · obtain ⟨span, hspan, hstart, -⟩ := hrplaced.spans s hs
    refine ⟨span, hspan, le_trans ?_ hstart⟩
    simp only [hplace, List.flatMap_nil, List.nil_append, byteLength_append]
    omega

/-- Without a definition behind others, the text of a file drops nothing else. -/
theorem drops_behind {e : Piece} (h : frame.Wraps p (e :: (qs ++ q :: rs)))
    (hread : ∀ r ∈ e :: (qs ++ q :: rs), r.layout.sep = none ∧ r.layout.span.isSome) :
    frame.Drops p (e :: qs) q rs [] (rs.flatMap p.place ++ suffix frame.closeStart p.source)
      (p.text frame.gap ++ (p.definitions p.frontLead (e :: (qs ++ rs)) ++
        p.footer frame (e :: (qs ++ rs)))) := by
  have hseps : ∀ r ∈ e :: (qs ++ q :: rs), r.layout.sep = none := fun r hr => (hread r hr).1
  have hplaced := h.placed
  rw [← List.cons_append, Printer.placed_append] at hplaced
  obtain ⟨-, -, hback⟩ := hplaced
  refine ⟨by simpa using h.text_eq.symm, ?_, .nil, by simp, fun r hr => ?_⟩
  · have hdefinitions : p.definitions p.frontLead (e :: (qs ++ rs)) =
        (e :: qs).flatMap p.place ++ rs.flatMap p.place := by
      have hwraps : frame.Wraps p (e :: ((qs ++ [q]) ++ rs)) := by simpa using h
      rw [h.definitions_append hseps, hwraps.furtherDefinitions_eq (by simpa using hseps)]
    rw [hdefinitions, footer_eq_suffix fun r hr => hread r ?_, List.append_assoc]
    simp only [List.mem_cons, List.mem_append] at hr ⊢
    tauto
  · obtain ⟨span, hspan, hstart, -⟩ := hback.spans r hr
    refine ⟨span, hspan, le_trans ?_ hstart⟩
    simp only [byteLength_append, byteLength_nil]
    omega

/-- Without any of its definitions, the text of a file drops the definition and blanks. -/
theorem drops (h : frame.Wraps p (qs ++ q :: rs))
    (hread : ∀ r ∈ qs ++ q :: rs, r.layout.sep = none ∧ r.layout.span.isSome) :
    ∃ blank behind, frame.Drops p qs q rs blank behind
      (p.text frame.gap ++
        (p.definitions p.frontLead (qs ++ rs) ++ p.footer frame (qs ++ rs))) := by
  cases qs with
  | nil => exact h.drops_front hread
  | cons e qs => exact ⟨_, _, h.drops_behind hread⟩

/-- With a new definition anywhere, the text of a file gains one piece. -/
theorem gains (h : frame.Wraps p (qs ++ rs))
    (hread : ∀ r ∈ qs ++ rs, r.layout.sep = none ∧ r.layout.span.isSome) (hq : q.layout = {}) :
    Gains p.source (p.text frame.gap ++ (p.definitions p.frontLead (qs ++ q :: rs) ++
      p.footer frame (qs ++ q :: rs))) := by
  cases qs with
  | nil => exact h.gains_front hread hq
  | cons e qs => exact h.gains_behind hread hq

/-- Without any of its definitions, the text of a file loses one range. -/
theorem loses (h : frame.Wraps p (qs ++ q :: rs))
    (hread : ∀ r ∈ qs ++ q :: rs, r.layout.sep = none ∧ r.layout.span.isSome) :
    ∃ span, q.layout.span = some span ∧
      Loses span ((qs ++ rs).map (·.layout)) p.source
        (p.text frame.gap ++ (p.definitions p.frontLead (qs ++ rs) ++
          p.footer frame (qs ++ rs))) := by
  obtain ⟨blank, behind, hdrops⟩ := h.drops hread
  have hplaced := h.placed
  rw [Printer.placed_append] at hplaced
  obtain ⟨hfront, hsits, -⟩ := hplaced
  have hq : q ∈ qs ++ q :: rs := by simp
  have hplace : p.place q = p.textOf q.layout.lead ++ q.text := by
    simp [Printer.place, (hread q hq).1, Printer.textOf]
  refine ⟨_, hsits.span, p.text frame.gap ++ qs.flatMap p.place, p.textOf q.layout.lead, q.text,
    blank, behind, ?_, ?_, (h.fits q hq).lead, hdrops.trivia, ?_, ?_⟩
  · simpa [hplace] using hdrops.source_eq
  · simpa using hdrops.printed_eq
  · simp [Nat.add_assoc]
  · rw [List.forall_mem_map, List.forall_mem_append]
    refine ⟨fun r hr => ?_, fun r hr => ?_⟩
    · obtain ⟨span, hspan, -, hstop⟩ := hfront.spans r hr
      exact ⟨span, hspan, .inl (by simpa using hstop)⟩
    · obtain ⟨span, hspan, hstart⟩ := hdrops.back r hr
      exact ⟨span, hspan, .inr (by simpa [hplace] using hstart)⟩

end Frame.Wraps

/-- The text of a file with the frame of a source. -/
theorem Printer.forestText_framed (p : Printer) (ds : List Definition) (frame : Frame) :
    p.forestText ⟨ds, some frame⟩ = p.text frame.gap ++
      (p.definitions p.frontLead (ds.map p.definitionPiece) ++
        p.footer frame (ds.map p.definitionPiece)) :=
  List.append_assoc _ _ _

/-- Without any of its definitions, the text of a file that was read drops the definition. -/
theorem Frame.Wraps.drops_forestText {p : Printer} {ds : List Definition} {frame : Frame}
    (h : frame.Wraps p (ds.map p.definitionPiece))
    (hread : ∀ d ∈ ds, d.layout.sep = none ∧ d.layout.span.isSome) {k : Nat} (hk : k < ds.length) :
    ∃ blank behind, frame.Drops p ((ds.take k).map p.definitionPiece) (p.definitionPiece ds[k])
      ((ds.drop (k + 1)).map p.definitionPiece) blank behind
      (p.forestText ⟨ds.eraseIdx k, some frame⟩) := by
  have hsplit : ds.take k ++ ds[k] :: ds.drop (k + 1) = ds := by
    rw [← List.drop_eq_getElem_cons hk, List.take_append_drop]
  rw [← hsplit, List.map_append, List.map_cons] at h
  rw [List.eraseIdx_eq_take_drop_succ, Printer.forestText_framed, List.map_append]
  refine h.drops ?_
  rw [← List.map_cons, ← List.map_append, hsplit]
  exact List.forall_mem_map.2 hread

/-- A new definition at any place of a file that was read puts one piece into its text.  Without the
definition at any place, the text loses one range, which has the definition in it and otherwise only
blanks and comments. -/
theorem render_of_insert_erase {source file : String} {f : Forest}
    (h : parseFile source file = .ok f) (indentation : Indentation) :
    (∀ (k : Nat) (d : Definition), k ≤ f.definitions.length → d.layout = {} →
      Gains source.toList
        (Forest.render { f with definitions := f.definitions.insertIdx k d } source
          indentation).toList) ∧
    ∀ (k : Nat) (hk : k < f.definitions.length), ∃ span,
      f.definitions[k].layout.span = some span ∧
        Loses span ((f.definitions.eraseIdx k).map (·.layout)) source.toList
          (Forest.render { f with definitions := f.definitions.eraseIdx k } source
            indentation).toList := by
  let p : Printer := { source := source.toList, indentation }
  obtain ⟨frame, hframe, hwraps, hds⟩ := Forest.parse_wraps (p := p) (parse_of_parseFile h)
  obtain ⟨ds, _⟩ := f
  cases hframe
  have hread : ∀ r ∈ ds.map p.definitionPiece, r.layout.sep = none ∧ r.layout.span.isSome :=
    List.forall_mem_map.2 fun d hd => (hds d hd).2.2.2
  have hrender (es : List Definition) :
      (Forest.render ⟨es, some frame⟩ source indentation).toList =
        p.forestText ⟨es, some frame⟩ := String.toList_ofList
  simp only [hrender, Printer.forestText_framed]
  refine ⟨fun k d hk hd => ?_, fun k hk => ?_⟩
  · obtain ⟨front, back, rfl, rfl, hinsert⟩ := List.exists_of_modifyTailIdx (List.cons d) hk
    rw [List.map_append] at hwraps hread
    rw [List.insertIdx, hinsert, List.map_append, List.map_cons]
    exact hwraps.gains hread hd
  · obtain ⟨front, d, back, rfl, rfl⟩ : ∃ front d back, ds = front ++ d :: back ∧
        front.length = k :=
      ⟨ds.take k, ds[k], ds.drop (k + 1), by simp, List.length_take_of_le hk.le⟩
    have herase : (front ++ d :: back).eraseIdx front.length = front ++ back := by
      rw [List.eraseIdx_append_of_length_le le_rfl, Nat.sub_self, List.eraseIdx_cons_zero]
    have hlayouts : ((front ++ back).map p.definitionPiece).map (·.layout) =
        (front ++ back).map (·.layout) := by
      rw [List.map_map]
      rfl
    rw [List.map_append, List.map_cons] at hwraps hread
    have hloses := hwraps.loses hread
    rw [← List.map_append, hlayouts] at hloses
    simp only [herase, List.getElem_append_right le_rfl, Nat.sub_self, List.getElem_cons_zero]
    exact hloses

/-! ### Two owners -/

/-- Two owners with a comment in front of the second one. -/
def twoOwners : String :=
  "owner:a = \x7b\n\x7d\n\n# second\nowner:b = \x7b\n\x7d\n"

/-- Without the first owner the comment of the second one stays, and the blank line is lost.  A new
owner goes between the two. -/
theorem render_of_insert_erase_twoOwners :
    ∃ f d, parseFile twoOwners "owner" = .ok f ∧ f.definitions.length = 2 ∧
      Definition.layout d = {} ∧
      Forest.render { f with definitions := f.definitions.eraseIdx 0 } twoOwners =
        "# second\nowner:b = \x7b\n\x7d\n" ∧
      Loses ⟨0, 13⟩ ((f.definitions.eraseIdx 0).map (·.layout)) twoOwners.toList
        (Forest.render { f with definitions := f.definitions.eraseIdx 0 } twoOwners).toList ∧
      Gains twoOwners.toList
        (Forest.render { f with definitions := f.definitions.insertIdx 1 d } twoOwners).toList := by
  obtain ⟨f, hparse, hlength, hspan, hrender⟩ : ∃ f, parseFile twoOwners "owner" = .ok f ∧
      f.definitions.length = 2 ∧ f.definitions[0]?.bind (·.layout.span) = some ⟨0, 13⟩ ∧
      Forest.render { f with definitions := f.definitions.eraseIdx 0 } twoOwners =
        "# second\nowner:b = \x7b\n\x7d\n" :=
    ⟨_, rfl, rfl, rfl, rfl⟩
  obtain ⟨hgains, hloses⟩ := render_of_insert_erase hparse {}
  obtain ⟨span, hspan', hloses⟩ := hloses 0 (by omega)
  obtain rfl : span = ⟨0, 13⟩ := by
    rw [List.getElem?_eq_getElem (by omega), Option.bind_some, hspan'] at hspan
    exact Option.some.inj hspan
  exact ⟨f, { name := "owner:n", body := .struct {} }, hparse, hlength, rfl, hrender, hloses,
    hgains 1 _ (by omega) rfl⟩

end PolicyEditor
