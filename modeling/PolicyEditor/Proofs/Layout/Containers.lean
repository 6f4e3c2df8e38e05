import Mathlib.Data.List.Chain
import PolicyEditor.Proofs.Concatenation
import PolicyEditor.Proofs.Editing.Constructs

/-!
# The layouts of a container

The frame of a container that was read and the layouts of its items cut the text of the container
without gaps: the header, the gap in front of the first item, then each item with its separator and
the lead of the next one, and the footer.  This holds for the file and for every construct in it
that has items, at any depth.

## Main definitions

* `Span.Covers` : a span is the range of a text in the source.
* `Layout.Lies` : what is known about the layout of an item.
* `Frame.Encloses` : what is known about the frame of a container and the layouts of its items.
* `Forest.Contains` : a construct lies in a file.
* `Forest.IsTiled` : every container of a file encloses its items.

## Main results

* `Frame.Spread.encloses` : items in their places are enclosed by their frame.
* `isTiled_of_parseFile` : every file that was read is tiled.
-/

namespace PolicyEditor

open Text

/-! ### Ranges of the source -/

/-- The span is the range of a text in the source. -/
def Span.Covers (source : List Char) (s : Span) (text : List Char) : Prop :=
  ∃ front back, source = front ++ (text ++ back) ∧
    s = ⟨byteLength front, byteLength (front ++ text)⟩

/-- The span is the range of a separator.  A comment in it goes on up to the end of its line. -/
def Span.Separates (source : List Char) (comma : Bool) (s : Span) : Prop :=
  ∃ front text back, source = front ++ (text ++ back) ∧
    s = ⟨byteLength front, byteLength (front ++ text)⟩ ∧ IsReadSeparator comma text ∧
    (commentAfter false text = true → back.head? = some '\n')

/-- An item of a container has a text, which is not empty and lies within the container.  Its lead
is blanks and comments, and its separator stands directly behind it. -/
structure Layout.Lies (source : List Char) (comma : Bool) (container : Span) (l : Layout) :
    Prop where
  span : ∃ s text, l.span = some s ∧ s.Covers source text ∧ text ≠ [] ∧
    container.start ≤ s.start ∧ s.start < s.stop ∧ s.stop ≤ container.stop
  lead : ∀ s ∈ l.lead, ∃ text, s.Covers source text ∧ IsTrivia text
  sep : ∀ s ∈ l.sep, s.Separates source comma ∧ l.span.map Span.stop = some s.start

/-- The frame of a container over `container` with items of the given layouts. -/
structure Frame.Encloses (source : List Char) (comma : Bool) (frame : Frame) (container : Span)
    (items : List Layout) : Prop where
  count_eq : frame.count = items.length
  header : container.start ≤ frame.headerEnd
  gap : ∃ text, frame.gap.Covers source text ∧ IsTrivia text
  head : ∀ l ∈ items.head?, l.lead = none ∧ l.start = frame.first
  leads : items.IsChain fun l l' => l'.lead = some ⟨l.finish, l'.start⟩
  last : ∀ l ∈ items.getLast?, l.finish = frame.closeStart
  footer : frame.closeStart ≤ container.stop
  lies : ∀ l ∈ items, l.Lies source comma container
  trailing : ∀ l ∈ items.getLast?, ∀ s ∈ l.span, frame.trailingSep = true ↔
    kindAhead? (slice s.stop container.stop source) = some .comma

/-! ### Items in their places -/

namespace Printer

variable {p : Printer} {start : Nat} {base rest : List Char} {q : Piece} {qs : List Piece}

theorem Sits.start_eq (h : p.Sits start q) :
    q.layout.start = start + byteLength (p.textOf q.layout.lead) := by
  rw [Layout.start, h.span]

theorem Sits.finish_eq (h : p.Sits start q) :
    q.layout.finish = start + byteLength (p.place q) := by
  cases hsep : q.layout.sep with
  | none =>
    rw [Layout.finish, hsep, h.span, place, hsep]
    simp [textOf]
  | some sep => rw [Layout.finish, hsep, h.sep sep hsep]

/-- The span of an item that sits in the source is the range of its text. -/
theorem Sits.span_covers (h : p.Sits (byteLength base) q)
    (hsource : p.source = base ++ (p.place q ++ rest)) :
    ∃ s, q.layout.span = some s ∧ s.Covers p.source q.text ∧
      s.start = byteLength (base ++ p.textOf q.layout.lead) ∧
      s.stop = byteLength (base ++ (p.textOf q.layout.lead ++ q.text)) := by
  refine ⟨_, h.span, ⟨base ++ p.textOf q.layout.lead, p.textOf q.layout.sep ++ rest, ?_, ?_⟩,
    (byteLength_append _ _).symm, (byteLength_append _ _).symm⟩
  · rw [hsource, place]
    simp
  · simp

theorem Sits.lead_covers (h : p.Sits (byteLength base) q)
    (hsource : p.source = base ++ (p.place q ++ rest)) :
    ∀ s ∈ q.layout.lead, s.Covers p.source (p.textOf q.layout.lead) := by
  intro s hs
  refine ⟨base, q.text ++ (p.textOf q.layout.sep ++ rest), ?_, ?_⟩
  · rw [hsource, place]
    simp
  · rw [h.lead s hs, byteLength_append]

/-- The separator of an item that sits in the source stands directly behind it. -/
theorem Sits.sep_covers (h : p.Sits (byteLength base) q)
    (hsource : p.source = base ++ (p.place q ++ rest)) :
    ∀ s ∈ q.layout.sep, ∃ front, p.source = front ++ (p.textOf q.layout.sep ++ rest) ∧
      s = ⟨byteLength front, byteLength (front ++ p.textOf q.layout.sep)⟩ ∧
      q.layout.span.map Span.stop = some s.start := by
  intro s hs
  refine ⟨base ++ (p.textOf q.layout.lead ++ q.text), ?_, ?_, ?_⟩
  · rw [hsource, place]
    simp
  · rw [h.sep s hs, place]
    simp
  · rw [h.span, h.sep s hs]
    rfl

/-- The leads of items in their places go from one item to the next one. -/
theorem Placed.isChain (h : p.Placed start qs) (htail : ∀ q ∈ qs.tail, q.layout.lead.isSome) :
    qs.IsChain fun q r => r.layout.lead = some ⟨q.layout.finish, r.layout.start⟩ := by
  induction qs generalizing start with
  | nil => exact .nil
  | cons q qs ih =>
    obtain ⟨hq, hqs⟩ := h
    cases qs with
    | nil => exact .singleton q
    | cons r qs =>
      rw [List.tail_cons, List.forall_mem_cons] at htail
      refine .cons_cons ?_ (ih hqs htail.2)
      obtain ⟨lead, hlead⟩ := Option.isSome_iff_exists.1 htail.1
      rw [hlead, hqs.1.lead lead hlead, hq.finish_eq, hqs.1.start_eq]

end Printer

/-- The items `qs` of a container stand in their places between the texts of the source in front of
them and behind them. -/
structure Frame.Spread (p : Printer) (comma : Bool) (frame : Frame) (qs : List Piece)
    (front header gap close back : List Char) : Prop where
  source_eq : p.source = front ++ (header ++ (gap ++ (qs.flatMap p.place ++ (close ++ back))))
  frame_eq : ∃ terminator, frame =
    .ofLayouts (byteLength (front ++ header)) terminator comma (qs.map (·.layout))
  placed : p.Placed (byteLength (front ++ (header ++ gap))) qs
  gap : IsTrivia gap
  head : ∀ q ∈ qs.head?, q.layout.lead = none
  tail : ∀ q ∈ qs.tail, q.layout.lead.isSome
  leads : ∀ q ∈ qs, IsTrivia (p.textOf q.layout.lead)
  texts : ∀ q ∈ qs, q.text ≠ []
  seps : ∀ q ∈ qs, ∀ s ∈ q.layout.sep, IsReadSeparator comma (p.text s)
  lines : ∀ before q behind, qs = before ++ q :: behind →
    commentAfter false (p.textOf q.layout.sep) = true →
      (behind.flatMap p.place ++ close).head? = some '\n'
  closing : kindAhead? close ≠ some .comma

/-- A comment on the rest of a line stands in front of the same token as the text behind it. -/
theorem IsLineComment.kindAhead?_append {text rest : List Char} (h : IsLineComment text)
    (hline : rest.head? = some '\n') : kindAhead? (text ++ rest) = kindAhead? rest := by
  obtain ⟨rest, rfl⟩ := List.head?_eq_some_iff.1 hline
  rw [show text ++ '\n' :: rest = (text ++ ['\n']) ++ rest by simp,
    Text.kindAhead?_append (.line_of_quiet h.quiet.1)]
  exact (Text.kindAhead?_append (⟨rfl, rfl⟩ : IsTrivia ['\n']) rest).symm

namespace Frame.Spread

variable {p : Printer} {comma : Bool} {frame : Frame} {qs before behind : List Piece} {q : Piece}
  {front header gap close back : List Char}

/-- Where an item of the container stands in the source. -/
theorem sits (h : frame.Spread p comma qs front header gap close back)
    (hqs : qs = before ++ q :: behind) :
    p.Sits (byteLength (front ++ (header ++ (gap ++ before.flatMap p.place)))) q ∧
      p.source = (front ++ (header ++ (gap ++ before.flatMap p.place))) ++
        (p.place q ++ (behind.flatMap p.place ++ (close ++ back))) := by
  constructor
  · have hplaced := h.placed
    rw [hqs, Printer.placed_append] at hplaced
    have hsits := hplaced.2.1
    rw [← byteLength_append] at hsits
    simpa only [List.append_assoc] using hsits
  · rw [h.source_eq, hqs]
    simp

/-- The layout of an item lies within the container. -/
theorem lies (h : frame.Spread p comma qs front header gap close back)
    (hqs : qs = before ++ q :: behind) :
    q.layout.Lies p.source comma ⟨byteLength front,
      byteLength (front ++ (header ++ (gap ++ (qs.flatMap p.place ++ close))))⟩ := by
  obtain ⟨hsits, hsource⟩ := h.sits hqs
  have hq : q ∈ qs := by simp [hqs]
  refine ⟨?_, fun s hs => ⟨_, hsits.lead_covers hsource s hs, h.leads q hq⟩, fun s hs => ?_⟩
  · obtain ⟨s, hspan, hcovers, hstart, hstop⟩ := hsits.span_covers hsource
    obtain ⟨c, text, htext⟩ := List.exists_cons_of_ne_nil (h.texts q hq)
    have hpos : 0 < byteLength q.text := by
      have := c.utf8Size_pos
      rw [htext, byteLength_cons]
      omega
    refine ⟨s, q.text, hspan, hcovers, h.texts q hq, ?_, ?_, ?_⟩
    · rw [hstart]
      simp only [byteLength_append]
      omega
    · rw [hstart, hstop]
      simp only [byteLength_append]
      omega
    · rw [hstop, hqs]
      simp only [byteLength_append, List.flatMap_append, List.flatMap_cons, Printer.place]
      omega
  · obtain ⟨front', hsource', hs', hstop⟩ := hsits.sep_covers hsource s hs
    have hseparator := h.seps q hq s hs
    refine ⟨⟨front', _, _, hsource', hs', ?_, fun hopen => ?_⟩, hstop⟩
    · rwa [hs]
    · rw [← List.append_assoc, List.head?_append, h.lines _ _ _ hqs hopen]
      rfl

/-- A comma stands behind the last item if its separator has one. -/
theorem trailing_iff (h : frame.Spread p comma qs front header gap close back)
    (hqs : qs = before ++ [q]) : (comma && q.layout.sep.isSome) = true ↔
      kindAhead? (p.textOf q.layout.sep ++ close) = some .comma := by
  have hclosing := h.closing
  cases hsep : q.layout.sep with
  | none => simpa [Printer.textOf] using hclosing
  | some s =>
    have hread := h.seps q (by simp [hqs]) s hsep
    -- Between statements a separator is a comment, and the next token is that of the footer.
    cases comma with
    | true =>
      obtain ⟨trivia, tail, htext, htrivia, -⟩ := hread
      rw [Printer.textOf, htext, List.append_assoc, kindAhead?_append htrivia]
      exact iff_of_true rfl (kindAhead?_sign (κ := .comma) rfl _)
    | false =>
      have hread : IsLineComment (p.text s) := hread
      have hline := h.lines before q [] hqs
      rw [hsep, List.flatMap_nil, List.nil_append] at hline
      rw [Printer.textOf, hread.kindAhead?_append (hline hread.quiet.2)]
      exact iff_of_false Bool.false_ne_true hclosing

/-- What stands behind the last item of the container. -/
theorem slice_behind (h : frame.Spread p comma qs front header gap close back)
    (hqs : qs = before ++ [q]) {s : Span} (hs : q.layout.span = some s) :
    slice s.stop (byteLength (front ++ (header ++ (gap ++ (qs.flatMap p.place ++ close)))))
      p.source = p.textOf q.layout.sep ++ close := by
  obtain ⟨hsits, hsource⟩ := h.sits hqs
  obtain ⟨s', hs', -, -, hstop⟩ := hsits.span_covers hsource
  obtain rfl := Option.some.inj (hs.symm.trans hs')
  have hcut := slice_append
    (front ++ (header ++ (gap ++ before.flatMap p.place)) ++ (p.textOf q.layout.lead ++ q.text))
    (p.textOf q.layout.sep ++ close) back
  rw [← byteLength_append] at hcut
  rw [hstop]
  convert hcut using 2
  · rw [hqs]
    simp [Printer.place]
  · rw [hsource]
    simp [Printer.place]

/-- Items in their places are enclosed by their frame. -/
theorem encloses (h : frame.Spread p comma qs front header gap close back) (hne : qs ≠ []) :
    frame.Encloses p.source comma ⟨byteLength front,
      byteLength (front ++ (header ++ (gap ++ (qs.flatMap p.place ++ close))))⟩
      (qs.map (·.layout)) := by
  obtain ⟨q, behind, hq⟩ := List.exists_cons_of_ne_nil hne
  obtain ⟨init, r, hr⟩ := (List.eq_nil_or_concat' qs).resolve_left hne
  have hfront : qs = [] ++ q :: behind := hq
  obtain ⟨hfirst, -⟩ := h.sits hfront
  obtain ⟨hlast, -⟩ := h.sits hr
  obtain ⟨terminator, hframe⟩ := h.frame_eq
  rw [hq, Frame.ofLayouts_cons _ _ _ (by rw [← hq, hr, List.getLast?_concat])] at hframe
  have hlead : q.layout.lead = none := h.head q (by rw [hq]; rfl)
  have hstart : q.layout.start = byteLength (front ++ (header ++ gap)) := by
    rw [hfirst.start_eq, hlead, List.flatMap_nil, List.append_nil]
    rfl
  exact
    { count_eq := by rw [hframe, List.length_map, hq]
      header := by simp [hframe]
      gap := by
        refine ⟨gap, ⟨front ++ header, qs.flatMap p.place ++ (close ++ back), ?_, ?_⟩, h.gap⟩
        · simp [h.source_eq]
        · simp [hframe, Frame.gap, hstart]
      head := by
        rw [hframe, hq]
        rintro _ ⟨⟩
        exact ⟨hlead, rfl⟩
      leads := (List.isChain_map _).2 (h.placed.isChain h.tail)
      last := by simp [hframe, hr]
      footer := by
        show frame.closeStart ≤ byteLength _
        rw [hframe, hlast.finish_eq, hr]
        simp
        omega
      lies := by
        refine List.forall_mem_map.2 fun r hr => ?_
        obtain ⟨before, behind, hsplit⟩ := List.append_of_mem hr
        exact h.lies hsplit
      trailing := by
        rw [hr, List.map_append, List.map_singleton, List.getLast?_concat]
        rintro _ ⟨⟩ s hs
        rw [← hr, h.slice_behind hr hs, ← h.trailing_iff hr, hframe] }

end Frame.Spread

/-! ### Containers that were read -/

/-- The definitions of a file that was read stand in their places. -/
theorem Frame.Wraps.spread {p : Printer} {frame : Frame} {qs : List Piece} (h : frame.Wraps p qs)
    (hseps : ∀ q ∈ qs, q.layout.sep = none) (hne : qs ≠ []) :
    frame.Spread p false qs [] [] (p.text frame.gap) (suffix frame.closeStart p.source) [] where
  source_eq := by
    rw [List.append_nil]
    exact h.text_eq.symm
  frame_eq := h.ofLayouts_eq
  placed := h.placed
  gap := by
    have hclosed := h.front
    rw [if_neg hne] at hclosed
    exact ⟨h.gap_quiet, hclosed⟩
  head := h.head
  tail := h.tail
  leads := fun q hq => (h.fits q hq).lead
  texts := h.texts
  seps := fun q hq s hs => by
    rw [hseps q hq] at hs
    cases hs
  lines := fun before q behind hqs hopen => by
    rw [hseps q (by simp [hqs])] at hopen
    cases hopen
  closing := by
    rw [kindAhead?_of_isQuiet h.footer_quiet]
    nofun

namespace Construct

variable {p : Printer} {n n' : Construct} {a b : List Char}

/-- The text of a construct that was read. -/
theorem Framed.text_eq {span : Span} {frame : Frame} (h : n.Framed p span frame)
    (hrefill : n.Refills n) : n.text p = p.text (frame.header span) ++
      (p.text frame.gap ++ ((n.pieces p).flatMap p.place ++ p.text (frame.close span))) :=
  (hrefill.text_eq_framed h rfl).trans (h.seats.framed_eq _ rfl _ rfl)

/-- The items of a construct that was read stand in their places. -/
theorem Framed.spread {span : Span} {frame : Frame} (h : n.Framed p span frame)
    (hrefill : n.Refills n) (hsource : p.source = a ++ (n.text p ++ b))
    (hspan : n.layout.span = some ⟨byteLength a, byteLength a + byteLength (n.text p)⟩) :
    frame.Spread p n.style.comma (n.pieces p) a (p.text (frame.header span)) (p.text frame.gap)
      (p.text (frame.close span)) b := by
  have hstart : span.start = byteLength a :=
    congrArg Span.start (Option.some.inj (h.span_eq.symm.trans hspan))
  obtain ⟨text, hholds⟩ := h.seats.holds
  obtain ⟨terminator, hframe⟩ := h.seats.ofLayouts_eq
  exact
    { source_eq := by
        rw [hsource, h.text_eq hrefill]
        simp
      frame_eq := ⟨terminator, by rw [byteLength_append, ← hstart]; exact hframe⟩
      placed := by
        rw [byteLength_append, ← hstart]
        exact h.seats.placed
      gap := h.gap
      head := hholds.head
      tail := hholds.tail
      leads := fun q hq => (hholds.laid.fits q hq).lead
      texts := hholds.laid.text_ne_nil
      seps := hholds.seps
      lines := fun _ _ _ hqs => hholds.laid.line hqs
      closing := h.closing }

/-- The construct `m` is the construct itself or lies in it, at any depth. -/
inductive Contains (m : Construct) : Construct → Prop
  | here : Contains m m
  | inside {n k : Construct} (hmem : k ∈ n.items) (h : Contains m k) : Contains m n

/-- A construct with items may have other ones. -/
theorem Refills.refl (hne : n.items ≠ []) : n.Refills n := by
  cases n with
  | value | member => exact (hne rfl).elim
  | attr a =>
    obtain ⟨name, - | values | attributes, layout, frame⟩ := a
    · exact (hne rfl).elim
    · exact .values ..
    · exact .block ..
  | union u => exact .union u u.elements
  | rule r => exact .rule r r.src r.dst r.prt r.log
  | definition d =>
    refine .definition d ?_
    obtain ⟨name, body, layout, frame⟩ := d
    cases body <;> constructor

/-- A construct in another one may be exchanged for itself. -/
theorem Contains.swaps {m : Construct} (h : Contains m n) : Swaps m m n n := by
  induction h with
  | here => exact .here
  | inside hmem _ ih =>
    obtain ⟨before, behind, hitems⟩ := List.append_of_mem hmem
    exact .inside (.refl (List.ne_nil_of_mem hmem)) hitems hitems ih

end Construct

namespace Forest

/-- The construct lies in the file, at any depth. -/
def Contains (f : Forest) (n : Construct) : Prop :=
  ∃ d ∈ f.definitions, n.Contains (.definition d)

variable {p : Printer} {f : Forest} {n : Construct}

/-- A construct in a file that was read was read from the range of its span. -/
theorem Contains.around (h : f.Contains n) (hf : f.Stands p) :
    n.Stands p ∧ ∃ a b, p.source = a ++ (n.text p ++ b) ∧
      n.layout.span = some ⟨byteLength a, byteLength a + byteLength (n.text p)⟩ := by
  obtain ⟨d, hd, h⟩ := h
  obtain ⟨before, behind, hitems⟩ := List.append_of_mem hd
  obtain ⟨hn, a, b, hsource, -, hspan⟩ := Swaps.around (.mk hitems h.swaps) hf rfl
  exact ⟨hn, a, b, hsource, hspan⟩

/-- The layouts of a file cut the source without gaps, in the file itself and in every construct
that has items.  The values in it are the texts of their spans. -/
structure IsTiled (f : Forest) (source : List Char) : Prop where
  file : f.definitions ≠ [] → ∃ frame, f.frame = some frame ∧
    frame.Encloses source false ⟨0, byteLength source⟩ (f.definitions.map (·.layout))
  items : ∀ n, f.Contains n → n.items ≠ [] → ∃ span frame, n.layout.span = some span ∧
    n.frame = some frame ∧ frame.Encloses source n.style.comma span (n.items.map (·.layout))
  values : ∀ v, f.Contains (.value v) →
    ∃ span, v.layout.span = some span ∧ span.Covers source v.content.toList

end Forest

/-- The layouts of every file that was read cut the source without gaps. -/
theorem isTiled_of_parseFile {source file : String} {f : Forest}
    (h : parseFile source file = .ok f) : f.IsTiled source.toList where
  file := by
    intro hne
    let p : Printer := { source := source.toList }
    obtain ⟨frame, hframe, hwraps, hds⟩ := Forest.parse_wraps (p := p) (parse_of_parseFile h)
    have hseps : ∀ q ∈ f.definitions.map p.definitionPiece, q.layout.sep = none :=
      List.forall_mem_map.2 fun d hd => (hds d hd).2.2.2.1
    have hne : f.definitions.map p.definitionPiece ≠ [] := mt List.map_eq_nil_iff.1 hne
    have hencloses := (hwraps.spread hseps hne).encloses hne
    rw [List.map_map, List.nil_append, List.nil_append, hwraps.text_eq] at hencloses
    exact ⟨frame, hframe, hencloses⟩
  items := by
    intro n hn hne
    obtain ⟨hstands, a, b, hsource, hspan⟩ := hn.around (stands_of_parseFile h {})
    obtain ⟨span, frame, hframed⟩ := hstands.framed (.refl hne)
    have hencloses := (hframed.spread (.refl hne) hsource hspan).encloses
      (mt List.map_eq_nil_iff.1 hne)
    rw [← hframed.text_eq (.refl hne), Construct.pieces, List.map_map, byteLength_append,
      Option.some.inj (hspan.symm.trans hframed.span_eq)] at hencloses
    exact ⟨span, frame, hframed.span_eq, hframed.frame_eq, hencloses⟩
  values := by
    intro v hv
    obtain ⟨hstands, a, b, hsource, hspan⟩ := hv.around (stands_of_parseFile h {})
    have htext : Construct.text { source := source.toList } (.value v) = v.content.toList := by
      rw [hstands.spells.eq, String.toList_ofList]
      rfl
    rw [htext] at hsource hspan
    exact ⟨_, hspan, a, b, hsource, by rw [byteLength_append]⟩

/-- A group with comments behind its elements. -/
def annotatedGroup : String :=
  "group:g =\n host:a, # first\n host:b, # last\n;\n"

/-- The comment behind the first element belongs to its separator, and the line break behind this
comment is the lead of the second element.  The line break behind the last comment belongs to the
footer. -/
theorem isTiled_of_parseFile_annotatedGroup :
    ∃ f, parseFile annotatedGroup "f" = .ok f ∧ f.IsTiled annotatedGroup.toList ∧
      ∀ d ∈ f.definitions, d.frame = some ⟨9, 11, 42, true, 2⟩ ∧
        (Construct.definition d).items.map (·.layout) =
          [{ span := some ⟨11, 17⟩, sep := some ⟨17, 26⟩ },
            { span := some ⟨28, 34⟩, lead := some ⟨26, 28⟩, sep := some ⟨34, 42⟩ }] := by
  refine ⟨_, rfl, @isTiled_of_parseFile _ "f" _ rfl, ?_⟩
  exact List.forall_mem_singleton.2 ⟨rfl, rfl⟩

end PolicyEditor
