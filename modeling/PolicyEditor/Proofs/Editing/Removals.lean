import PolicyEditor.Proofs.Editing.Comments
import PolicyEditor.Proofs.Editing.Definitions

/-!
# Comments around a removed definition

The comments between two definitions belong to the lead of the second one, also those on the line on
which the first one ends.  So a definition that is removed takes them along, unless it is the first
one of the file.  All other comments stay.

## Main definitions

* `Layout.EndsOnLineOf` : the text of a node ends on the line of a token.

## Main results

* `Frame.Drops.texts_comments` : the comments of a file without a piece.
* `comments_of_eraseIdx` : the comments of a file that was read without one of its definitions.
* `not_infix_of_eraseIdx_notedOwner` : the comment on the last line of another definition is lost.
-/

namespace PolicyEditor

open Text

/-- The text of the node ends in front of the token, on its line. -/
def Layout.EndsOnLineOf (source : List Char) (l : Layout) (t : Token) : Prop :=
  ∃ s, l.span = some s ∧ s.stop ≤ t.offset ∧ '\n' ∉ slice s.stop t.offset source

/-! ### Comments in a place -/

namespace Printer

variable {p : Printer} {start : Nat} {q : Piece} {qs : List Piece}

/-- What belongs to an item lies in its place. -/
theorem Sits.bounds (h : p.Sits start q) {range : Span} (hcovers : q.layout.Covers range) :
    start ≤ range.start ∧ range.stop ≤ start + byteLength (p.place q) := by
  obtain ⟨s, hs, hstart, hstop⟩ := hcovers
  simp only [place, byteLength_append]
  rcases hs with hs | hs | hs
  · obtain rfl := h.lead s hs
    dsimp only at hstart hstop
    omega
  · obtain rfl := Option.some.inj (h.span.symm.trans hs)
    simp only [byteLength_append] at hstart hstop
    omega
  · obtain rfl := h.sep s hs
    simp only [place, byteLength_append] at hstart hstop
    omega

/-- The place of an item without a separator does not end in a comment. -/
theorem commentAfter_place (hlead : IsTrivia (p.textOf q.layout.lead))
    (hclosed : commentAfter false q.text = false) (hsep : q.layout.sep = none) :
    commentAfter false (p.place q) = false := by
  rw [place, commentAfter_append, hlead.closed, commentAfter_append, hclosed, hsep]
  rfl

/-- Places that do not end in a comment, one after the other, do not either. -/
theorem commentAfter_places (h : ∀ q ∈ qs, commentAfter false (p.place q) = false) :
    commentAfter false (qs.flatMap p.place) = false := by
  induction qs with
  | nil => rfl
  | cons q qs ih =>
    rw [List.forall_mem_cons] at h
    rw [List.flatMap_cons, commentAfter_append, h.1, ih h.2]

/-- The spans of items in their places have their ends in order. -/
theorem Placed.start_le_stop (h : p.Placed start qs) :
    ∀ q ∈ qs, ∀ s ∈ q.layout.span, s.start ≤ s.stop := by
  induction qs generalizing start with
  | nil => simp
  | cons q qs ih =>
    obtain ⟨hsits, hplaced⟩ := h
    rw [List.forall_mem_cons]
    refine ⟨fun s hs => ?_, ih hplaced⟩
    obtain rfl := Option.some.inj (hsits.span.symm.trans hs)
    simp

/-- The comments in the place of an item belong to it. -/
theorem Sits.covers (h : p.Sits start q) (hlead : IsTrivia (p.textOf q.layout.lead))
    (hclosed : commentAfter false q.text = false) (hsep : q.layout.sep = none) {t : Token}
    (ht : t ∈ Token.commentsFrom start (p.place q)) : q.layout.Covers t.span := by
  obtain ⟨hat, hcomment⟩ := Token.hasAt_of_mem_commentsFrom ht
  have hopen : commentAfter false (p.textOf q.layout.sep) = true → [].head? = some '\n' := by
    simp [hsep, textOf]
  rcases h.locate hlead hclosed hopen hcomment (hat.append_left []) with ⟨-, hcovers⟩ | hat
  · exact hcovers
  · exact (hcomment.ne_nil (List.infix_nil.1 hat.isInfix)).elim

end Printer

/-! ### Files without one of their definitions -/

namespace Frame.Drops

variable {p : Printer} {frame : Frame} {q : Piece} {qs rs : List Piece}
  {blank behind printed : List Char}

/-- Without a piece, a file has the comments that do not belong to the piece. -/
theorem texts_comments (h : frame.Drops p qs q rs blank behind printed)
    (hsits : p.Sits (byteLength (p.text frame.gap ++ qs.flatMap p.place)) q)
    (hfront : commentAfter false (p.text frame.gap ++ qs.flatMap p.place) = false)
    (hlead : IsTrivia (p.textOf q.layout.lead)) (hclosed : commentAfter false q.text = false)
    (hsep : q.layout.sep = none) :
    (comments printed).map (·.text) =
      ((comments p.source).filter fun t => ¬q.layout.Covers t.span).map (·.text) := by
  obtain ⟨front, hfront_eq⟩ : ∃ front, p.text frame.gap ++ qs.flatMap p.place = front := ⟨_, rfl⟩
  have hprinted : printed = front ++ behind := by rw [h.printed_eq, ← hfront_eq, List.append_assoc]
  have hsource : p.source = front ++ (p.place q ++ (blank ++ behind)) := by
    rw [h.source_eq, ← hfront_eq, List.append_assoc]
  rw [hfront_eq] at hsits hfront
  have hsplit := Token.commentsFrom_append hfront 0 behind
  have hsplit' := Token.commentsFrom_append hfront 0 (p.place q ++ (blank ++ behind))
  rw [Token.commentsFrom_append (Printer.commentAfter_place hlead hclosed hsep),
    Token.commentsFrom_append (commentAfter_of_not_mem h.comment),
    Token.commentsFrom_eq_nil h.comment, List.nil_append, Nat.zero_add] at hsplit'
  have hcomments : comments printed = Token.commentsFrom 0 front ++
      Token.commentsFrom (0 + byteLength front) behind := hprinted ▸ hsplit
  have hcomments' : comments p.source = _ := hsource ▸ hsplit'
  -- The comments in front of the piece and behind it do not belong to it, and its own ones do.
  have hbefore : (Token.commentsFrom 0 front).filter (¬q.layout.Covers ·.span) = _ :=
    List.filter_eq_self.2 fun t ht => by
      have hbounds := Token.bounds_of_mem_commentsFrom ht
      refine decide_eq_true fun hcovers => ?_
      have hstart : _ ≤ t.offset := (hsits.bounds hcovers).1
      omega
  have hwithin : (Token.commentsFrom (byteLength front) (p.place q)).filter
      (¬q.layout.Covers ·.span) = [] :=
    List.filter_eq_nil_iff.2 fun t ht => by simpa using hsits.covers hlead hclosed hsep ht
  have hbehind : (Token.commentsFrom (byteLength front + byteLength (p.place q) +
      byteLength blank) behind).filter (¬q.layout.Covers ·.span) = _ :=
    List.filter_eq_self.2 fun t ht => by
      have hbounds := Token.bounds_of_mem_commentsFrom ht
      refine decide_eq_true fun hcovers => ?_
      have hstop : t.stop ≤ _ := (hsits.bounds hcovers).2
      omega
  rw [hcomments, hcomments', List.filter_append, List.filter_append, hbefore, hwithin, hbehind,
    List.nil_append, List.map_append, List.map_append, List.append_cancel_left_eq]
  exact (Token.texts_commentsFrom _ behind).trans (Token.texts_commentsFrom _ behind).symm

/-- A comment behind the text of a later piece does not belong to the piece. -/
theorem not_covers (h : frame.Drops p qs q rs blank behind printed)
    (hsits : p.Sits (byteLength (p.text frame.gap ++ qs.flatMap p.place)) q) {r : Piece}
    (hr : r ∈ rs) {s : Span} (hs : r.layout.span = some s) (horder : s.start ≤ s.stop) {t : Token}
    (ht : t.offset < t.stop) (hstop : s.stop ≤ t.offset) : ¬q.layout.Covers t.span := by
  intro hcovers
  obtain ⟨s', hs', hstart⟩ := h.back r hr
  obtain rfl := Option.some.inj (hs.symm.trans hs')
  have hbounds : t.stop ≤ _ := (hsits.bounds hcovers).2
  simp only [byteLength_append] at hstart hbounds
  omega

end Frame.Drops

/-- The text in front of a definition that was read does not end in a comment. -/
theorem Frame.Wraps.commentAfter_front {p : Printer} {frame : Frame} {ds : List Definition}
    (h : frame.Wraps p (ds.map p.definitionPiece)) (hne : ds ≠ [])
    (hds : ∀ d ∈ ds, commentAfter false (p.definitionText d) = false ∧ d.layout.sep = none)
    (k : Nat) : commentAfter false
      (p.text frame.gap ++ ((ds.take k).map p.definitionPiece).flatMap p.place) = false := by
  have hgap : commentAfter false (p.text frame.gap) = false := by simpa [hne] using h.front
  rw [commentAfter_append, hgap]
  refine Printer.commentAfter_places (List.forall_mem_map.2 fun d hd => ?_)
  have hmem := List.mem_of_mem_take hd
  exact Printer.commentAfter_place (h.fits _ (List.mem_map_of_mem hmem)).lead (hds d hmem).1
    (hds d hmem).2

/-- If one of the definitions of a file that was read is removed, exactly the comments in its lead
and in its text are lost.  So every comment on the line on which another definition ends stays if
that definition stands behind the removed one, or if the comment belongs to neither the lead nor
the text of the removed one. -/
theorem comments_of_eraseIdx {source file : String} {f : Forest}
    (h : parseFile source file = .ok f) {k : Nat} (hk : k < f.definitions.length)
    (indentation : Indentation) :
    (comments (Forest.render { f with definitions := f.definitions.eraseIdx k } source
        indentation).toList).map (·.text) =
      ((comments source.toList).filter
        fun t => ¬f.definitions[k].layout.Covers t.span).map (·.text) ∧
    ∀ t ∈ comments source.toList, ∀ (i : Nat) (hi : i < f.definitions.length), i ≠ k →
      f.definitions[i].layout.EndsOnLineOf source.toList t →
      (k < i ∨ ¬f.definitions[k].layout.Covers t.span) →
      t.text.toList <:+: (Forest.render { f with definitions := f.definitions.eraseIdx k } source
        indentation).toList := by
  let p : Printer := { source := source.toList, indentation }
  obtain ⟨frame, hframe, hwraps, hds⟩ := Forest.parse_wraps (p := p) (parse_of_parseFile h)
  obtain ⟨ds, _⟩ := f
  cases hframe
  obtain ⟨blank, behind, hdrops⟩ := hwraps.drops_forestText (fun d hd => (hds d hd).2.2.2) hk
  have hclosed : ∀ d ∈ ds, commentAfter false (p.definitionText d) = false ∧ d.layout.sep = none :=
    fun d hd => ⟨((hds d hd).1.spells (hds d hd).2.1).closed, (hds d hd).2.2.2.1⟩
  have hd := List.getElem_mem hk
  have hfits := hwraps.fits (p.definitionPiece ds[k]) (List.mem_map_of_mem hd)
  have hsits := hwraps.placed
  rw [← List.take_append_drop k ds, List.drop_eq_getElem_cons hk, List.map_append, List.map_cons,
    Printer.placed_append, ← byteLength_append] at hsits
  have htexts := hdrops.texts_comments hsits.2.1
    (hwraps.commentAfter_front (List.ne_nil_of_mem hd) hclosed k) hfits.lead (hclosed _ hd).1
    (hclosed _ hd).2
  have hrender : (Forest.render ⟨ds.eraseIdx k, some frame⟩ source indentation).toList =
      p.forestText ⟨ds.eraseIdx k, some frame⟩ := String.toList_ofList
  rw [hrender]
  refine ⟨htexts, fun t ht i hi hne hends hkept => ?_⟩
  have hcovers : ¬ds[k].layout.Covers t.span := by
    refine hkept.elim (fun hki => ?_) id
    obtain ⟨s, hs, hstop, -⟩ := hends
    have hback : ds[i] ∈ ds.drop (k + 1) :=
      List.mem_drop_iff_getElem.2 ⟨i - (k + 1), by dsimp only at hi; omega, by congr 1; omega⟩
    exact hdrops.not_covers hsits.2.1 (List.mem_map_of_mem hback) hs
      (hwraps.placed.start_le_stop _ (List.mem_map_of_mem (List.getElem_mem hi)) _ hs)
      (Token.bounds_of_mem_commentsFrom ht).2.1 hstop
  have hmem : t.text ∈ (comments (p.forestText ⟨ds.eraseIdx k, some frame⟩)).map (·.text) := by
    rw [htexts]
    exact List.mem_map_of_mem (List.mem_filter.2 ⟨ht, decide_eq_true hcovers⟩)
  obtain ⟨t', ht', htext⟩ := List.mem_map.1 hmem
  rw [← htext]
  exact (Token.hasAt_of_mem_commentsFrom ht').1.isInfix

/-! ### Owners with notes -/

/-- Three owners with a comment behind each of them. -/
def notedOwners : String :=
  "owner:a = \x7b\n\x7d # one\nowner:b = \x7b\n\x7d # two\nowner:c = \x7b\n\x7d # three\n"

/-- Without the second owner, the comments behind it and behind the third one stay. -/
theorem comments_of_eraseIdx_notedOwners :
    ∃ f, parseFile notedOwners "owner" = .ok f ∧ f.definitions.length = 3 ∧
      (comments (Forest.render { f with definitions := f.definitions.eraseIdx 1 }
        notedOwners).toList).map (·.text) = ["# two", "# three"] ∧
      "# three".toList <:+: (Forest.render { f with definitions := f.definitions.eraseIdx 1 }
        notedOwners).toList := by
  obtain ⟨f, hparse, hlength, hremoved, hlast⟩ : ∃ f, parseFile notedOwners "owner" = .ok f ∧
      ∃ h : f.definitions.length = 3,
        f.definitions[1].layout = { span := some ⟨20, 33⟩, lead := some ⟨13, 20⟩ } ∧
        f.definitions[2].layout.span = some ⟨40, 53⟩ := ⟨_, rfl, rfl, rfl, rfl⟩
  have hcomments : comments notedOwners.toList =
      [⟨.comment, "# one", 14⟩, ⟨.comment, "# two", 34⟩, ⟨.comment, "# three", 54⟩] := by
    decide +kernel
  obtain ⟨htexts, hkept⟩ := comments_of_eraseIdx hparse (by omega : 1 < f.definitions.length) {}
  rw [hcomments, hremoved] at htexts
  refine ⟨f, hparse, hlength, htexts.trans (by decide), ?_⟩
  exact hkept ⟨.comment, "# three", 54⟩ (by simp [hcomments]) 2 (by omega) (by decide)
    ⟨_, hlast, by decide, by decide +kernel⟩ (.inl (by decide))

/-- Two owners with a comment behind the first one. -/
def notedOwner : String :=
  "owner:a = \x7b\n\x7d # one\nowner:b = \x7b\n\x7d\n"

/-- Without the second owner, the comment on the line on which the first one ends is lost. -/
theorem not_infix_of_eraseIdx_notedOwner :
    ∃ f, parseFile notedOwner "owner" = .ok f ∧ ∃ (_ : 1 < f.definitions.length),
      ∃ t ∈ comments notedOwner.toList, t.text = "# one" ∧
        f.definitions[0].layout.EndsOnLineOf notedOwner.toList t ∧
        ¬t.text.toList <:+: (Forest.render { f with definitions := f.definitions.eraseIdx 1 }
          notedOwner).toList := by
  have hmem : (⟨.comment, "# one", 14⟩ : Token) ∈ comments notedOwner.toList := by decide +kernel
  obtain ⟨f, hparse, hlength, hspan, hrender⟩ : ∃ f, parseFile notedOwner "owner" = .ok f ∧
      ∃ h : f.definitions.length = 2, f.definitions[0].layout.span = some ⟨0, 13⟩ ∧
      Forest.render { f with definitions := f.definitions.eraseIdx 1 } notedOwner =
        "owner:a = \x7b\n\x7d\n" := ⟨_, rfl, rfl, rfl, rfl⟩
  refine ⟨f, hparse, by omega, _, hmem, rfl, ⟨_, hspan, by decide, by decide +kernel⟩, ?_⟩
  rw [hrender]
  decide +kernel

end PolicyEditor
