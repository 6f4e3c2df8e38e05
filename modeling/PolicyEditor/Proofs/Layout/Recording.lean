import PolicyEditor.Proofs.Layout.Soundness

/-!
# Containers that were read

A reader of a container reads its header, its items and its closing token, and records the frame of
the container from the layouts of the items.  Whatever the container is, the recorded frame is that
of the source, and the items are printed and joined as they stand there.

## Main definitions

* `Frame.Records` : the frame of a container that was read.

## Main results

* `Tiles.records` : items that were read between a header and a closing token.
-/

namespace PolicyEditor

open Text

/-- The laid items stay so in front of a longer text. -/
theorem Laid.extend {p : Printer} {comma : Bool} {next : List Char} {qs : List Piece}
    {text : List Char} (h : Laid p comma next qs text) (more : List Char) :
    Laid p comma (next ++ more) qs text := by
  induction h with
  | nil => exact .nil
  | cons hfits hspan hopens hlast hline _ ih =>
    refine .cons hfits hspan hopens hlast (fun hopen => ?_) ih
    rw [← List.append_assoc, List.head?_append, hline hopen]
    rfl

theorem Laid.fits {p : Printer} {comma : Bool} {next : List Char} {qs : List Piece}
    {text : List Char} (h : Laid p comma next qs text) : ∀ q ∈ qs, q.layout.Fits p comma := by
  induction h with
  | nil => simp
  | cons hfits _ _ _ _ _ ih => exact List.forall_mem_cons.2 ⟨hfits, ih⟩

theorem Laid.eq_nil {p : Printer} {comma : Bool} {next text : List Char}
    (h : Laid p comma next [] text) : text = [] := by
  cases h
  rfl

/-- The frame of a container over `span` whose items `qs` were read from the place `c` on, between
its header and its closing token. -/
structure Frame.Records (p : Printer) (comma : Bool) (frame : Frame) (span : Span) (c : Cursor)
    (qs : List Piece) (header sign rest : List Char) : Prop where
  frames : frame.Frames p span header sign
  seats : frame.Seats p comma span qs
  framed_eq : ∀ style : ListStyle, style.comma = comma → p.framed span frame style qs = p.text span
  joined : ∀ style : ListStyle, style.comma = comma → p.framedJoined span frame style qs = true
  fits : ∀ q ∈ qs, q.layout.Fits p comma
  wasEmpty_eq : frame.wasEmpty = qs.isEmpty
  front_eq : p.front span frame qs = p.text frame.gap
  text_eq : ∃ text, p.text span = header ++ (p.text frame.gap ++ text)
  ahead_nil : qs = [] → c.rest = p.text frame.gap ++ (sign ++ rest)
  ahead_cons : ∀ q ∈ qs.head?, (∃ d ∈ q.text.head?, (Token.Kind.ofChar d).isTrivia = false) ∧
    ∃ text, c.rest = p.text frame.gap ++ (q.text ++ text)

/-- The frame that is recorded for items, of which there is at least one. -/
theorem Frame.ofLayouts_cons (headerEnd terminator : Nat) (comma : Bool) {q last : Piece}
    {qs : List Piece} (h : (q :: qs).getLast? = some last) :
    ofLayouts headerEnd terminator comma ((q :: qs).map (·.layout)) =
      ⟨headerEnd, q.layout.start, last.layout.finish, comma && last.layout.sep.isSome,
        (q :: qs).length⟩ := by
  have hgetLastD : (qs.map (·.layout)).getLastD q.layout = last.layout := by
    rw [List.getLast?_cons, Option.some.injEq] at h
    rw [← h, List.getLastD_eq_getLast?, List.getLast?_map]
    cases qs.getLast? <;> rfl
  simp only [List.map_cons, ofLayouts, hgetLastD, List.length_cons, List.length_map]

theorem Frame.closeStart_ofLayouts (headerEnd terminator : Nat) (comma : Bool) {last : Piece}
    {qs : List Piece} (h : qs.getLast? = some last) :
    (ofLayouts headerEnd terminator comma (qs.map (·.layout))).closeStart = last.layout.finish := by
  cases qs with
  | nil => cases h
  | cons q qs => rw [ofLayouts_cons _ _ _ h]

/-- The frame of a container without items holds: all the trivia in it is its gap. -/
theorem LaidOut.holds_nil {p : Printer} {comma : Bool} {c : Cursor} {previous' : Option Nat}
    {skipped gap text closing sign rest : List Char} {terminator stop : Nat}
    (h : LaidOut p comma none c [] previous' skipped gap text closing (sign ++ rest))
    (hat : p.At c) (hterminator : terminator = c.offset + byteLength closing)
    (hstop : stop = c.offset + byteLength (closing ++ sign)) :
    (Frame.ofLayouts c.offset terminator comma []).Holds p comma stop [] closing [] sign := by
  have hrest : c.rest = closing ++ (sign ++ rest) := by
    rw [h.rest_eq, h.skipped_eq_nil rfl, h.gap_of_nil rfl, h.laid.eq_nil]
    rfl
  refine
    { gap_eq := hat.text_eq (a := []) hrest rfl hterminator
      closing_eq := hat.text_eq (a := closing) hrest hterminator ?_
      laid := .nil
      wasEmpty_eq := by simp [Frame.wasEmpty, Frame.ofLayouts]
      trailing_eq := by simp
      head := by simp
      tail := by simp
      seps := by simp }
  rw [hstop, byteLength_append, ← Nat.add_assoc, ← hterminator]
  rfl

/-- The frame of items that are laid out holds. -/
theorem LaidOut.holds_cons {p : Printer} {comma : Bool} {c : Cursor} {q : Piece} {qs : List Piece}
    {previous' : Option Nat} {skipped gap text closing sign rest : List Char}
    {terminator stop : Nat}
    (h : LaidOut p comma none c (q :: qs) previous' skipped gap text closing (sign ++ rest))
    (hlast : ∀ r ∈ (q :: qs).getLast?, previous' = some r.layout.finish) (hat : p.At c)
    (hstop : stop = c.offset + byteLength (gap ++ (text ++ (closing ++ sign)))) :
    (Frame.ofLayouts c.offset terminator comma ((q :: qs).map (·.layout))).Holds p comma stop
      (q :: qs) gap text (closing ++ sign) := by
  obtain rfl : skipped = [] := h.skipped_eq_nil rfl
  have hrest : c.rest = gap ++ (text ++ (closing ++ (sign ++ rest))) := h.rest_eq
  obtain ⟨hlead, hfirst⟩ := h.head q rfl
  rw [Option.map_none] at hlead
  rw [hlead, List.nil_append, Printer.textOf, List.append_nil] at hfirst
  obtain ⟨last, hgetLast⟩ : ∃ last, (q :: qs).getLast? = some last := ⟨_, List.getLast?_cons⟩
  have hfinish := h.stop _ (hlast last hgetLast)
  rw [List.nil_append] at hfinish
  have hpos : 0 < byteLength text := by
    cases h.laid with
    | cons _ _ hopens =>
      obtain ⟨d, hd, -⟩ := hopens
      obtain ⟨t, ht⟩ := List.head?_eq_some_iff.1 hd
      have := d.utf8Size_pos
      simp only [byteLength_append, ht, byteLength_cons]
      omega
  rw [Frame.ofLayouts_cons c.offset terminator comma hgetLast]
  refine
    { gap_eq := hat.text_eq (a := []) hrest rfl hfirst
      closing_eq := hat.text_eq (a := gap ++ text) (b := rest) (by simpa using hrest) hfinish ?_
      laid := h.laid.extend sign
      wasEmpty_eq := ?_
      trailing_eq := ?_
      head := by simpa using hlead
      tail := h.tail
      seps := h.seps }
  · rw [hstop, hfinish]
    simp only [byteLength_append]
    omega
  · rw [Frame.wasEmpty, List.isEmpty_cons, beq_eq_false_iff_ne]
    rw [byteLength_append] at hfinish
    show q.layout.start ≠ last.layout.finish
    omega
  · intro hcomma r hr
    rw [hgetLast, Option.mem_some_iff] at hr
    rw [hcomma, Bool.true_and, hr]

/-- The frame of a container holds, with the trivia of the container where its printer has it. -/
theorem LaidOut.holds {p : Printer} {comma : Bool} {c : Cursor} {qs : List Piece}
    {previous' : Option Nat} {skipped gap text closing sign rest : List Char}
    {terminator stop : Nat}
    (h : LaidOut p comma none c qs previous' skipped gap text closing (sign ++ rest))
    (hlast : ∀ q ∈ qs.getLast?, previous' = some q.layout.finish) (hat : p.At c)
    (hterminator : qs = [] → terminator = c.offset + byteLength closing)
    (hstop : stop = c.offset + byteLength (gap ++ (text ++ (closing ++ sign)))) :
    ∃ gap' closing', IsTrivia gap' ∧ IsTrivia closing' ∧
      gap' ++ (text ++ closing') = gap ++ (text ++ closing) ∧ (qs = [] → closing' = []) ∧
      (Frame.ofLayouts c.offset terminator comma (qs.map (·.layout))).Holds p comma stop qs gap'
        text (closing' ++ sign) ∧ p.Placed (c.offset + byteLength gap') qs := by
  cases qs with
  | nil =>
    obtain rfl : text = [] := h.laid.eq_nil
    obtain rfl : gap = [] := h.gap_of_nil rfl
    exact ⟨closing, [], h.closing_isTrivia, .nil, by simp, fun _ => rfl,
      h.holds_nil hat (hterminator rfl) hstop, trivial⟩
  | cons q qs =>
    have hplaced := h.placed
    rw [h.skipped_eq_nil rfl, List.nil_append] at hplaced
    exact ⟨gap, closing, h.gap_isTrivia, h.closing_isTrivia, rfl, (fun hnil => by cases hnil),
      h.holds_cons hlast hat hstop, hplaced⟩

/-- A frame that holds behind a header is that of the source. -/
theorem Frame.Holds.records {p : Printer} {comma : Bool} {frame : Frame} {c : Cursor}
    {qs : List Piece} {gap text closing header sign rest : List Char} {start stop : Nat}
    (h : frame.Holds p comma stop qs gap text (closing ++ sign)) (hgap : IsTrivia gap)
    (hclosing : IsTrivia closing) (hnone : qs = [] → closing = [])
    (hplaced : p.Placed (c.offset + byteLength gap) qs)
    (hframe : ∃ terminator, frame = .ofLayouts c.offset terminator comma (qs.map (·.layout)))
    (hoffset : c.offset = start + byteLength header)
    (hheader : p.text (frame.header ⟨start, stop⟩) = header)
    (htext : p.text ⟨start, stop⟩ = header ++ (gap ++ (text ++ (closing ++ sign))))
    (hrest : c.rest = gap ++ (text ++ (closing ++ (sign ++ rest)))) :
    frame.Records p comma ⟨start, stop⟩ c qs header sign rest := by
  have hclose : p.text (frame.close ⟨start, stop⟩) = closing ++ sign := h.closing_eq
  refine
    { frames := ⟨hheader, h.gap_eq.symm ▸ hgap, closing, hclosing, hclose⟩
      seats := ⟨⟨text, by rwa [hclose, h.gap_eq]⟩, by rwa [hheader, ← hoffset], ?_,
        fun style hstyle rs hrs => ?_⟩
      framed_eq := fun style hstyle => ?_
      joined := fun style hstyle => h.framedJoined hstyle rfl
      fits := h.laid.fits
      wasEmpty_eq := h.wasEmpty_eq
      front_eq := ?_
      text_eq := ⟨_, by rw [htext, h.gap_eq]⟩
      ahead_nil := fun hnil => ?_
      ahead_cons := fun q hq => ?_ }
  · rw [hheader, h.gap_eq, byteLength_append, ← Nat.add_assoc, ← hoffset]
    exact hplaced
  · rw [h.framed_eq hstyle rfl hrs, h.gap_eq, hclose]
  · rw [h.framed_eq hstyle rfl rfl, hheader, htext, h.laid.text_eq]
  · cases qs with
    | nil =>
      unfold Printer.front
      split <;> rfl
    | cons q qs =>
      have hunfolds : p.unfolds frame = false := by
        rw [Printer.unfolds, h.wasEmpty_eq]
        rfl
      rw [Printer.front, hunfolds, if_neg Bool.false_ne_true, Printer.opening, List.head?_cons,
        Option.bind_some, h.head q rfl]
      rfl
  · obtain rfl := hnil
    rw [hrest, h.gap_eq, h.laid.eq_nil, hnone rfl]
    rfl
  · have hhead := h.head q hq
    rw [hrest, h.gap_eq]
    cases h.laid with
    | nil => cases hq
    | cons _ _ hopens =>
      obtain rfl := Option.some.inj hq
      rw [hhead]
      exact ⟨hopens, _, by simp [Printer.textOf]; rfl⟩

/-- The recorded frame of items that are laid out between a header and a closing token. -/
theorem LaidOut.records {p : Printer} {comma : Bool} {c₀ c : Cursor} {qs : List Piece}
    {previous' : Option Nat} {skipped gap text closing lead header sign rest : List Char}
    {terminator start stop : Nat}
    (h : LaidOut p comma none c qs previous' skipped gap text closing (sign ++ rest))
    (hlast : ∀ q ∈ qs.getLast?, previous' = some q.layout.finish) (hat : p.At c₀)
    (hheader : c₀.Reads (lead ++ header) c) (hstart : start = c₀.offset + byteLength lead)
    (hterminator : qs = [] → terminator = c.offset + byteLength closing)
    (hstop : stop = c.offset + byteLength (gap ++ (text ++ (closing ++ sign)))) :
    (Frame.ofLayouts c.offset terminator comma (qs.map (·.layout))).Records p comma ⟨start, stop⟩ c
      qs header sign rest := by
  obtain ⟨gap', closing', hgap, hclosing, heq, hnone, hholds, hplaced⟩ :=
    h.holds hlast (hat.reads hheader) hterminator hstop
  have heq' : gap ++ (text ++ (closing ++ sign)) = gap' ++ (text ++ (closing' ++ sign)) := by
    rw [← List.append_assoc text, ← List.append_assoc gap, ← heq]
    simp
  have hrest : c.rest = gap' ++ (text ++ (closing' ++ (sign ++ rest))) := by
    have hrest := h.rest_eq
    rw [h.skipped_eq_nil rfl, List.nil_append] at hrest
    rw [hrest, ← List.append_assoc text, ← List.append_assoc gap, ← heq]
    simp
  have hsource : c₀.rest = lead ++ (header ++ c.rest) := by
    rw [hheader.rest, List.append_assoc]
  have hoffset : c.offset = start + byteLength header := by
    rw [hheader.offset, byteLength_append, hstart, Nat.add_assoc]
  refine hholds.records hgap hclosing hnone hplaced ⟨terminator, rfl⟩ hoffset ?_ ?_ hrest
  · have hheaderEnd :
        (Frame.ofLayouts c.offset terminator comma (qs.map (·.layout))).headerEnd = c.offset := by
      cases qs <;> rfl
    rw [Frame.header, hheaderEnd]
    exact hat.text_eq hsource hstart hoffset
  · refine hat.text_eq (b := rest) ?_ hstart ?_
    · rw [hsource, hrest]
      simp
    · rw [hstop, hoffset, heq', byteLength_append header, Nat.add_assoc]

/-! ### Readers of containers -/

theorem Tiles.reads {comma : Bool} {previous previous' : Option Nat} {c c' : Cursor}
    {qs : List Piece} (h : Tiles comma previous c qs previous' c') : ∃ t, c.Reads t c' := by
  induction h with
  | nil => exact ⟨[], .refl _⟩
  | cons _ _ hreads hon _ _ ih =>
    obtain ⟨t, ht⟩ := ih
    cases hon with
    | bare | tail => exact ⟨_, hreads.trans ht⟩
    | comma _ hreads' => exact ⟨_, hreads.trans (hreads'.trans ht)⟩

theorem areItems_layouts {α : Type} {p : Printer} {S : Span → List Char → α → Prop}
    {items : List (α × Layout)} {qs : List Piece} (h : AreItems p S items qs) :
    items.map (·.2) = qs.map (·.layout) := by
  rw [← List.forall₂_eq_eq_eq, List.forall₂_map_left_iff, List.forall₂_map_right_iff]
  exact h.imp fun x q hx => hx.1

section Readers

variable {p : Printer} {comma : Bool} {c₀ c c₁ c' : Cursor} {qs : List Piece}
  {previous' : Option Nat} {lead header : List Char} {start : Nat}

/-- The recorded frame of items that are followed by a closing token. -/
theorem Tiles.records (h : Tiles comma none c qs previous' c₁) (hat : p.At c₀)
    (hheader : c₀.Reads (lead ++ header) c) (hstart : start = c₀.offset + byteLength lead)
    {trivia : List Char} {s : Char} (htrivia : IsTrivia trivia)
    (hs : (Token.Kind.ofChar s).isTrivia = false) (hclose : c₁.Reads (trivia ++ [s]) c') :
    (Frame.ofLayouts c.offset c₁.start comma (qs.map (·.layout))).Records p comma
        ⟨start, c'.offset⟩ c qs header [s] c'.rest ∧
      ∃ inner, c.Reads inner c' := by
  obtain ⟨t, ht⟩ := h.reads
  have hrest : c₁.rest = trivia ++ s :: c'.rest := by
    rw [hclose.rest]
    simp
  obtain ⟨closing, hoff, hnone⟩ := (h.cutsAt (.inl rfl)).cutsOff htrivia hs hrest
  obtain ⟨skipped, gap, text, hout⟩ := h.laidOut (.inl rfl) (hat.reads hheader) hoff
  have hinner := ht.trans hclose
  have htext : t ++ (trivia ++ [s]) = gap ++ (text ++ (closing ++ [s])) := by
    have hrest' := hout.rest_eq
    rw [hinner.rest, hout.skipped_eq_nil rfl] at hrest'
    suffices t ++ (trivia ++ [s]) ++ c'.rest = gap ++ (text ++ (closing ++ [s])) ++ c'.rest from
      List.append_cancel_right this
    rw [hrest']
    simp
  refine ⟨hout.records h.finish_eq hat hheader hstart (fun hnil => ?_) ?_, _, hinner⟩
  · obtain rfl := hnil
    cases h
    rw [hnone rfl]
    exact Cursor.start_eq htrivia hs hrest
  · rw [← htext]
    exact hinner.offset

/-- The recorded frame of statements without separators and without a closing token. -/
theorem Tiles.records_here (h : Tiles false none c qs previous' c') (hne : qs ≠ [])
    (hprevious : previous' = some c'.offset) (hat : p.At c₀)
    (hheader : c₀.Reads (lead ++ header) c) (hstart : start = c₀.offset + byteLength lead)
    (terminator : Nat) :
    (Frame.ofLayouts c.offset terminator false (qs.map (·.layout))).Records p false
        ⟨start, c'.offset⟩ c qs header [] c'.rest ∧
      ∃ inner, c.Reads inner c' := by
  obtain ⟨t, ht⟩ := h.reads
  obtain ⟨skipped, gap, text, hout⟩ := h.laidOut (.inl rfl) (hat.reads hheader)
    (CutsOff.here (by rw [hprevious, Option.getD_some]))
  have htext : t = gap ++ (text ++ ([] ++ [])) := by
    have hrest := hout.rest_eq
    rw [ht.rest, hout.skipped_eq_nil rfl] at hrest
    suffices t ++ c'.rest = gap ++ (text ++ ([] ++ [])) ++ c'.rest from
      List.append_cancel_right this
    rw [hrest]
    simp
  refine ⟨hout.records h.finish_eq hat hheader hstart (fun hnil => (hne hnil).elim) ?_,
    t, ht⟩
  rw [← htext]
  exact ht.offset

/-- The recorded frame of a comma list. -/
theorem Layout.readList_records {α : Type} {item : Cursor → Reading (α × Cursor)}
    {S : Span → List Char → α → Prop} {close : Token.Kind} {s : Char} (hs : close.sign? = some s)
    (hitem : p.Recovers item (fun _ => True) (EndsEntry close) S) (hat : p.At c₀)
    (hheader : c₀.Reads (lead ++ header) c) (hstart : start = c₀.offset + byteLength lead)
    {items : List (α × Layout)} {frame : Frame}
    (h : readList item close c = .ok ((items, frame), c')) :
    ∃ qs, AreItems p S items qs ∧
      frame.Records p true ⟨start, c'.offset⟩ c qs header [s] c'.rest ∧
      ∃ inner, c.Reads inner c' := by
  obtain ⟨⟨items', c₁⟩, h₁, h⟩ := Except.bind_eq_ok.1 h
  obtain ⟨⟨t, c₂⟩, h₂, h⟩ := Except.bind_eq_ok.1 h
  cases h
  obtain ⟨qs, previous', htiles, hall⟩ := readItems_tiles hitem (hat.reads hheader) h₁
  obtain ⟨trivia, htrivia, -, hclose⟩ := Cursor.reads_of_expect h₂ hs
  rw [areItems_layouts hall]
  exact ⟨qs, hall, htiles.records hat hheader hstart htrivia
    (Token.Kind.isTrivia_ofChar_sign? hs) hclose⟩

end Readers

/-! ### Entries of comma lists -/

/-- The pieces of entries that were read are those of the source. -/
theorem Printer.items_of_areItems {α : Type} {p : Printer} {canonical : α → List Char}
    {S : List Char → α → Prop} {items : List (α × Layout)} {qs : List Piece}
    (h : AreItems p (fun _ => S) items qs) (hfits : ∀ q ∈ qs, q.layout.Fits p true) :
    ((items.map fun x => (⟨x.1, x.2⟩ : Item α)).map fun x =>
        (⟨x.layout, p.item canonical x⟩ : Piece)) = qs ∧
      ∀ x ∈ items.map fun x => (⟨x.1, x.2⟩ : Item α), x.Sound p canonical S := by
  induction h with
  | nil => exact ⟨rfl, by simp⟩
  | @cons x q items qs hx _ ih =>
    obtain ⟨hlayout, span, hspan, htext, hS⟩ := hx
    rw [List.forall_mem_cons] at hfits
    obtain ⟨hpieces, hsound⟩ := ih hfits.2
    obtain ⟨content, layout⟩ := x
    obtain rfl : layout = q.layout := hlayout
    have hitem : p.item canonical ⟨content, q.layout⟩ = q.text := by
      rw [item, hspan]
      exact htext
    refine ⟨?_, List.forall_mem_cons.2 ⟨⟨hfits.1, ?_⟩, hsound⟩⟩
    · rw [List.map_cons, List.map_cons, hpieces, hitem]
    · rw [hitem]
      exact hS

end PolicyEditor
