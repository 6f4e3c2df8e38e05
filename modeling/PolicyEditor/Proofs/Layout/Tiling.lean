import PolicyEditor.Definition.Printer
import PolicyEditor.Proofs.Grammar.Lists

/-!
# Items tile their list

The layouts that a list reader records cut the text of the list into pieces without gaps: the
trivia in front of an item, its own text and the separator behind it, and then the same again for
the next item.  A separator that ends in a comment reaches up to the end of its line, so that the
next piece of text starts with a line feed.

A reader goes on directly behind a comma or a statement, while the next lead starts behind a comment
on the rest of the line.  `Tiles` follows the reader, and `Laid` is what the printer sees of it.

## Main definitions

* `Printer.At` : a cursor stands in the source of a printer.
* `Layout.Fits` : the lead and the separator of an item are what the readers take for them.
* `Tiles` : items that were read one after the other, with their layouts.
* `Laid` : pieces of the source that follow one another.

## Main results

* `Cursor.tail?_split` : a comment on the rest of the line ends in front of a line feed.
* `Tiles.laid` : items that were read one after the other are laid.
* `Layout.readItems_tiles`, `Layout.readStatements_tiles` : the list readers record a tiling.
-/

namespace PolicyEditor

open Text

/-! ### Places in the source -/

namespace Printer

/-- The cursor stands in the source of the printer. -/
def At (p : Printer) (c : Cursor) : Prop :=
  ∃ front, p.source = front ++ c.rest ∧ c.offset = byteLength front

variable {p : Printer} {c c' : Cursor}

theorem At.reads (h : p.At c) {t : List Char} (hreads : c.Reads t c') : p.At c' := by
  obtain ⟨front, hsource, hoffset⟩ := h
  refine ⟨front ++ t, by rw [hsource, hreads.rest, List.append_assoc], ?_⟩
  rw [hreads.offset, hoffset, byteLength_append]

/-- The source text between two positions behind a cursor. -/
theorem At.text_eq (h : p.At c) {a t b : List Char} (hrest : c.rest = a ++ (t ++ b))
    {start stop : Nat} (hstart : start = c.offset + byteLength a)
    (hstop : stop = start + byteLength t) : p.text ⟨start, stop⟩ = t := by
  obtain ⟨front, hsource, hoffset⟩ := h
  rw [text, hsource, hrest, hstop, hstart, hoffset, ← byteLength_append, ← List.append_assoc]
  exact slice_append _ t b

/-- The source text of what was read behind trivia. -/
theorem At.text_start (h : p.At c) {trivia t : List Char} (htrivia : IsTrivia trivia)
    (hopens : ∃ d ∈ t.head?, (Token.Kind.ofChar d).isTrivia = false)
    (hreads : c.Reads (trivia ++ t) c') :
    c.start = c.offset + byteLength trivia ∧ p.text ⟨c.start, c'.offset⟩ = t := by
  obtain ⟨d, hd, htoken⟩ := hopens
  obtain ⟨t', ht'⟩ := List.head?_eq_some_iff.1 hd
  have hstart : c.start = c.offset + byteLength trivia :=
    Cursor.start_eq htrivia htoken (r := t' ++ c'.rest) (by rw [hreads.rest, ht']; simp)
  refine ⟨hstart, h.text_eq (a := trivia) (by rw [hreads.rest, List.append_assoc]) hstart ?_⟩
  rw [hreads.offset, byteLength_append, hstart, Nat.add_assoc]

end Printer

/-! ### Comments on the rest of the line -/

/-- A comment with blanks in front of it, without a line feed. -/
def IsLineComment (text : List Char) : Prop :=
  ∃ blanks comment, text = blanks ++ '#' :: comment ∧ (∀ d ∈ blanks, isSpaceOrTab d = true) ∧
    '\n' ∉ comment

theorem isTrivia_of_isSpaceOrTab {text : List Char} (h : ∀ d ∈ text, isSpaceOrTab d = true) :
    IsTrivia text :=
  .of_blank fun d hd => by
    have hd : d = ' ' ∨ d = '\t' := by simpa [isSpaceOrTab] using h d hd
    rcases hd with rfl | rfl <;> rfl

/-- A comment on the rest of a line is quiet, and it is open at the end of the line. -/
theorem IsLineComment.quiet {text : List Char} (h : IsLineComment text) :
    isQuiet false text = true ∧ commentAfter false text = true := by
  obtain ⟨blanks, comment, rfl, hblanks, hline⟩ := h
  have htrivia := isTrivia_of_isSpaceOrTab hblanks
  obtain ⟨hquiet, hopen⟩ := isQuiet_comment_line hline
  rw [isQuiet_append, commentAfter_append, htrivia.quiet, htrivia.closed]
  exact ⟨hquiet, hopen⟩

/-- A line that starts with a comment is this comment. -/
theorem isLineComment_firstLine {text comment : List Char}
    (h : text.dropWhile isSpaceOrTab = '#' :: comment) : IsLineComment (firstLine text) := by
  have htext : text = text.takeWhile isSpaceOrTab ++ '#' :: comment := by
    rw [← h, List.takeWhile_append_dropWhile]
  have hblanks : ∀ d ∈ text.takeWhile isSpaceOrTab, isSpaceOrTab d = true := fun d hd =>
    List.mem_takeWhile_imp hd
  refine ⟨text.takeWhile isSpaceOrTab, comment.takeWhile (· != '\n'), ?_, hblanks,
    fun hmem => by simpa using List.mem_takeWhile_imp hmem⟩
  rw [firstLine]
  conv_lhs => rw [htext]
  rw [List.takeWhile_append_of_pos fun d hd => by
    have hd : d = ' ' ∨ d = '\t' := by simpa [isSpaceOrTab] using hblanks d hd
    rcases hd with rfl | rfl <;> rfl]
  rfl

namespace Cursor

/-- Trivia behind a place, from its beginning up to the position `stop`: if it ends in a comment,
the line ends there. -/
structure SplitsTrivia (c : Cursor) (trivia : List Char) (stop : Nat) (skipped lead : List Char) :
    Prop where
  eq : trivia = skipped ++ lead
  stop : stop = c.offset + byteLength skipped
  quiet : isQuiet false skipped = true
  isTrivia : IsTrivia lead
  line : commentAfter false skipped = true → lead.head? = some '\n'

theorem SplitsTrivia.start (c : Cursor) {trivia : List Char} (h : IsTrivia trivia) :
    c.SplitsTrivia trivia c.offset [] trivia :=
  ⟨rfl, rfl, rfl, h, fun hopen => by cases hopen⟩

/-- A line with an open comment at its end ends within the trivia in front of the next token,
because the token is outside of comments. -/
theorem firstLine_of_trivia {text trivia rest : List Char} {d : Char} (h : IsTrivia trivia)
    (hd : (Token.Kind.ofChar d).isTrivia = false) (htext : text = trivia ++ d :: rest)
    (hquiet : isQuiet false (firstLine text) = true)
    (hopen : commentAfter false (firstLine text) = true) :
    ∃ lead, trivia = firstLine text ++ '\n' :: lead := by
  have hsplit : trivia ++ d :: rest = firstLine text ++ text.dropWhile (· != '\n') := by
    rw [← htext, firstLine, List.takeWhile_append_dropWhile]
  obtain ⟨lead, hlead, hnext⟩ : ∃ lead, trivia = firstLine text ++ lead ∧
      text.dropWhile (· != '\n') = lead ++ d :: rest := by
    rcases List.append_eq_append_iff.1 hsplit with ⟨a, ha, hb⟩ | ⟨a, ha, hb⟩
    · cases a with
      | nil => exact ⟨[], by simpa using ha.symm, by simpa using hb.symm⟩
      | cons e a =>
        rw [List.cons_append, List.cons.injEq] at hb
        rw [ha, isQuiet_append, h.closed, isQuiet, Bool.and_eq_true, Bool.and_eq_true] at hquiet
        simp [← hb.1, hd] at hquiet
    · exact ⟨a, ha, hb⟩
  cases lead with
  | nil =>
    rw [hlead, List.append_nil] at h
    rw [h.closed] at hopen
    cases hopen
  | cons e lead =>
    have hline := List.head?_dropWhile_not (· != '\n') text
    rw [hnext] at hline
    obtain rfl : e = '\n' := by simpa using hline
    exact ⟨lead, hlead⟩

/-- A comment on the rest of the line is part of the trivia in front of the next token. -/
theorem tail?_split {c : Cursor} {trivia rest : List Char} {d : Char} (h : IsTrivia trivia)
    (hd : (Token.Kind.ofChar d).isTrivia = false) (hc : c.rest = trivia ++ d :: rest) :
    ∃ skipped lead, c.SplitsTrivia trivia (c.tail?.getD c.offset) skipped lead ∧
      (c.tail? = none → skipped = []) := by
  rw [tail?]
  split
  · next comment hcomment =>
    obtain ⟨hquiet, hopen⟩ := (isLineComment_firstLine hcomment).quiet
    obtain ⟨lead, hlead⟩ := firstLine_of_trivia h hd hc hquiet hopen
    refine ⟨firstLine c.rest, '\n' :: lead, ⟨hlead, rfl, hquiet, ?_, fun _ => rfl⟩,
      fun hnone => by cases hnone⟩
    have hq := h.quiet
    have hcl := h.closed
    rw [hlead, isQuiet_append, hquiet, hopen, Bool.true_and] at hq
    rw [hlead, commentAfter_append, hopen] at hcl
    exact ⟨hq, hcl⟩
  · exact ⟨[], trivia, .start c h, fun _ => rfl⟩

end Cursor

/-! ### Leads and separators -/

/-- A text behind an item: in a comma list it has the comma, possibly with a comment behind it, and
otherwise it is a comment. -/
def IsSeparator (comma : Bool) (text : List Char) : Prop :=
  if comma then ∃ trivia tail, text = trivia ++ ',' :: tail ∧ IsTrivia trivia ∧
    isQuiet false tail = true
  else isQuiet false text = true

/-- A text that a list reader takes for the separator behind an item: in a comma list it is the
comma with trivia in front of it and at most a comment on the rest of the line, and otherwise it is
such a comment. -/
def IsReadSeparator (comma : Bool) (text : List Char) : Prop :=
  if comma then ∃ trivia tail, text = trivia ++ ',' :: tail ∧ IsTrivia trivia ∧
    (tail = [] ∨ IsLineComment tail)
  else IsLineComment text

theorem IsReadSeparator.isSeparator {comma : Bool} {text : List Char}
    (h : IsReadSeparator comma text) : IsSeparator comma text := by
  cases comma with
  | false => exact IsLineComment.quiet h |>.1
  | true =>
    obtain ⟨trivia, tail, htext, htrivia, rfl | htail⟩ := h
    · exact ⟨trivia, [], htext, htrivia, rfl⟩
    · exact ⟨trivia, tail, htext, htrivia, htail.quiet.1⟩

/-- The lead and the separator of an item are what the readers take for them. -/
structure Layout.Fits (p : Printer) (comma : Bool) (l : Layout) : Prop where
  lead : IsTrivia (p.textOf l.lead)
  sep : ∀ span, l.sep = some span → IsSeparator comma (p.text span)

namespace Printer

variable (p : Printer)

/-- The text of an item with its lead and its separator. -/
def place (q : Piece) : List Char :=
  p.textOf q.layout.lead ++ (q.text ++ p.textOf q.layout.sep)

/-- The item stands at a position of the source: its lead, its text and its separator follow one
another from there on. -/
structure Sits (start : Nat) (q : Piece) : Prop where
  span : q.layout.span = some ⟨start + byteLength (p.textOf q.layout.lead),
    start + byteLength (p.textOf q.layout.lead ++ q.text)⟩
  lead : ∀ s ∈ q.layout.lead, s = ⟨start, start + byteLength (p.textOf q.layout.lead)⟩
  sep : ∀ s ∈ q.layout.sep,
    s = ⟨start + byteLength (p.textOf q.layout.lead ++ q.text), start + byteLength (p.place q)⟩

/-- The items stand one after the other from a position of the source on. -/
def Placed : (start : Nat) → List Piece → Prop
  | _, [] => True
  | start, q :: qs => p.Sits start q ∧ Placed (start + byteLength (p.place q)) qs

variable {p} in
theorem placed_append {start : Nat} {qs rs : List Piece} :
    p.Placed start (qs ++ rs) ↔
      p.Placed start qs ∧ p.Placed (start + byteLength (qs.flatMap p.place)) rs := by
  induction qs generalizing start with
  | nil => simp [Placed]
  | cons q qs ih =>
    rw [List.cons_append, Placed, Placed, ih, List.flatMap_cons, byteLength_append (p.place q),
      ← Nat.add_assoc start, and_assoc]

end Printer

/-- Pieces of the source that follow one another, in front of the text `next`.  The first lead is
part of the text, and each piece has its text from the source. -/
inductive Laid (p : Printer) (comma : Bool) (next : List Char) : List Piece → List Char → Prop
  | nil : Laid p comma next [] []
  | cons {q : Piece} {qs : List Piece} {text : List Char} (hfits : q.layout.Fits p comma)
    (hspan : ∃ span, q.layout.span = some span ∧ p.text span = q.text)
    (hopens : ∃ c ∈ q.text.head?, (Token.Kind.ofChar c).isTrivia = false)
    (hlast : comma = true → q.layout.sep = none → qs = [])
    (hline : commentAfter false (p.textOf q.layout.sep) = true →
      (text ++ next).head? = some '\n')
    (h : Laid p comma next qs text) :
    Laid p comma next (q :: qs)
      (p.textOf q.layout.lead ++ (q.text ++ (p.textOf q.layout.sep ++ text)))

/-! ### Items that were read -/

/-- How a reader goes on behind an item at `c`: what it takes for the end of the separator, and the
place where it reads the next item. -/
inductive GoesOn : Bool → Cursor → Option Nat → Cursor → Prop
  | bare (comma : Bool) (c : Cursor) : GoesOn comma c none c
  | tail (c : Cursor) : GoesOn false c c.tail? c
  | comma {c c' : Cursor} {trivia : List Char} (h : IsTrivia trivia)
    (hreads : c.Reads (trivia ++ [',']) c') : GoesOn true c (some (c'.tail?.getD c'.offset)) c'

/-- Items that were read one after the other from the place `c` on, behind the position `previous`,
and the position and the place behind them. -/
inductive Tiles (comma : Bool) : Option Nat → Cursor → List Piece → Option Nat → Cursor → Prop
  | nil (previous : Option Nat) (c : Cursor) : Tiles comma previous c [] previous c
  | cons {previous previous' : Option Nat} {c c₁ c₂ c' : Cursor} {trivia t : List Char}
    {sepStop : Option Nat} {qs : List Piece} (htrivia : IsTrivia trivia)
    (hopens : ∃ d ∈ t.head?, (Token.Kind.ofChar d).isTrivia = false)
    (hreads : c.Reads (trivia ++ t) c₁) (hon : GoesOn comma c₁ sepStop c₂)
    (hlast : comma = true → sepStop = none → qs = [])
    (h : Tiles comma (some (Layout.placed previous c.start c₁.offset sepStop).finish) c₂ qs
      previous' c') :
    Tiles comma previous c (⟨Layout.placed previous c.start c₁.offset sepStop, t⟩ :: qs)
      previous' c'

/-- The position `previous`, behind which the text at `c` is cut, is `c` itself or the end of a
comment on the rest of its line. -/
def CutsAt (c : Cursor) (previous : Option Nat) : Prop :=
  previous = none ∨ previous = some c.offset ∨ previous = some (c.tail?.getD c.offset)

namespace Tiles

variable {comma : Bool} {previous previous' previous'' : Option Nat} {c c' c'' : Cursor}
  {qs rs : List Piece}

/-- Statements that follow statements were read one after the other. -/
theorem append (h : Tiles false previous c qs previous' c')
    (h' : Tiles false previous' c' rs previous'' c'') :
    Tiles false previous c (qs ++ rs) previous'' c'' := by
  induction h with
  | nil => exact h'
  | cons htrivia hopens hreads hon _ _ ih =>
    exact .cons htrivia hopens hreads hon (fun hc => by cases hc) (ih h')

/-- A statement without a separator. -/
theorem single {q : Piece} {trivia : List Char} (htrivia : IsTrivia trivia)
    (hopens : ∃ d ∈ q.text.head?, (Token.Kind.ofChar d).isTrivia = false)
    (hreads : c.Reads (trivia ++ q.text) c')
    (hlayout : q.layout = .placed previous c.start c'.offset) :
    Tiles false previous c [q] (some c'.offset) c' := by
  obtain ⟨layout, t⟩ := q
  obtain rfl : layout = _ := hlayout
  exact .cons htrivia hopens hreads (.bare _ _) (fun hc => by cases hc) (.nil _ _)

theorem finish_eq (h : Tiles comma previous c qs previous' c') :
    ∀ q ∈ qs.getLast?, previous' = some q.layout.finish := by
  induction h with
  | nil => simp
  | @cons _ _ _ _ _ _ _ _ _ qs _ _ _ _ _ h ih =>
    cases qs with
    | nil =>
      cases h
      simp
    | cons r qs => simpa using ih

end Tiles

theorem GoesOn.cutsAt {comma : Bool} {c c' : Cursor} {sepStop : Option Nat}
    (h : GoesOn comma c sepStop c') (previous : Option Nat) (start : Nat) :
    CutsAt c' (some (Layout.placed previous start c.offset sepStop).finish) := by
  cases h with
  | bare => exact .inr (.inl rfl)
  | tail =>
    cases htail : c.tail? with
    | none => exact .inr (.inl rfl)
    | some stop => exact .inr (.inr (by rw [htail]; rfl))
  | comma => exact .inr (.inr rfl)

theorem CutsAt.split {c : Cursor} {previous : Option Nat} (h : CutsAt c previous)
    {trivia rest : List Char} {d : Char} (htrivia : IsTrivia trivia)
    (hd : (Token.Kind.ofChar d).isTrivia = false) (hc : c.rest = trivia ++ d :: rest) :
    ∃ skipped lead, c.SplitsTrivia trivia (previous.getD c.offset) skipped lead ∧
      (previous = none → skipped = []) := by
  rcases h with rfl | rfl | rfl
  · exact ⟨[], trivia, .start c htrivia, fun _ => rfl⟩
  · exact ⟨[], trivia, .start c htrivia, fun _ => rfl⟩
  · obtain ⟨skipped, lead, hsplit, -⟩ := Cursor.tail?_split htrivia hd hc
    exact ⟨skipped, lead, hsplit, fun hnone => by cases hnone⟩

theorem Layout.lead_placed (previous : Option Nat) (start stop : Nat) (sepStop : Option Nat) :
    (placed previous start stop sepStop).lead = previous.map (⟨·, start⟩) :=
  rfl

theorem Layout.finish_placed (previous : Option Nat) (start stop : Nat) (sepStop : Option Nat) :
    (placed previous start stop sepStop).finish = sepStop.getD stop := by
  cases sepStop <;> rfl

/-- What stands up to the end of a comment on the rest of the line is this comment, or nothing. -/
theorem Cursor.skipped_of_tail {c : Cursor} {skipped rest : List Char}
    (hrest : c.rest = skipped ++ rest)
    (hstop : c.tail?.getD c.offset = c.offset + byteLength skipped) :
    (c.tail? = none ∧ skipped = []) ∨ IsLineComment skipped := by
  cases htail : c.tail? with
  | none =>
    rw [htail, Option.getD_none] at hstop
    exact .inl ⟨rfl, eq_nil_of_byteLength (by omega)⟩
  | some stop =>
    rw [htail, Option.getD_some] at hstop
    rw [tail?] at htail
    split at htail
    · next comment hcomment =>
      obtain rfl := Option.some.inj htail
      have hreads := c.reads_lineEnd
      have hline : byteLength (firstLine c.rest) = byteLength skipped := by
        rw [hreads.offset] at hstop
        omega
      have hfront := before_append (firstLine c.rest) c.lineEnd.rest
      rw [← hreads.rest, hline, hrest, before_append, ← hrest] at hfront
      exact .inr (hfront.symm ▸ isLineComment_firstLine hcomment)
    · cases htail

/-- The separator that a reader records behind an item. -/
theorem GoesOn.separator {p : Printer} {comma : Bool} {c c' : Cursor} {sepStop : Option Nat}
    (h : GoesOn comma c sepStop c') (hat : p.At c) (previous : Option Nat) (start : Nat)
    {skipped rest : List Char} (hrest : c'.rest = skipped ++ rest)
    (hstop : sepStop.getD c.offset = c'.offset + byteLength skipped) :
    ∃ sep, c.rest = sep ++ rest ∧ sepStop.getD c.offset = c.offset + byteLength sep ∧
      p.textOf (Layout.placed previous start c.offset sepStop).sep = sep ∧
      (sepStop.isSome → IsReadSeparator comma sep) ∧
      commentAfter false sep = commentAfter false skipped := by
  cases h with
  | bare =>
    obtain rfl : skipped = [] := eq_nil_of_byteLength (by
      rw [Option.getD_none] at hstop
      omega)
    exact ⟨[], hrest, rfl, rfl, fun h => (by cases h), rfl⟩
  | tail =>
    refine ⟨skipped, hrest, hstop, ?_, fun hsome => ?_, rfl⟩
    · cases htail : c.tail? with
      | none =>
        rw [htail, Option.getD_none] at hstop
        exact (eq_nil_of_byteLength (by omega)).symm
      | some stop =>
        rw [htail, Option.getD_some] at hstop
        exact hat.text_eq (a := []) hrest rfl hstop
    · refine (Cursor.skipped_of_tail hrest hstop).resolve_left fun hnone => ?_
      rw [hnone.1] at hsome
      cases hsome
  | @comma _ _ trivia htrivia hreads =>
    have hrest' : c.rest = (trivia ++ ',' :: skipped) ++ rest := by
      rw [hreads.rest, hrest]
      simp
    have hlength : byteLength (trivia ++ ',' :: skipped) =
        byteLength (trivia ++ [',']) + byteLength skipped := by
      simp [Nat.add_assoc]
    have hstop' : c'.tail?.getD c'.offset = c.offset + byteLength (trivia ++ ',' :: skipped) := by
      rw [hlength, ← Nat.add_assoc, ← hreads.offset]
      exact hstop
    refine ⟨_, hrest', hstop', hat.text_eq (a := []) hrest' rfl hstop',
      fun _ => ⟨trivia, skipped, rfl, htrivia, ?_⟩, ?_⟩
    · exact (Cursor.skipped_of_tail hrest hstop).imp_left And.right
    · rw [commentAfter_append, htrivia.closed]
      rfl

/-- Items that were read in front of a token, cut into the pieces that the printer knows. -/
structure LaidOut (p : Printer) (comma : Bool) (previous : Option Nat) (c : Cursor)
    (qs : List Piece) (previous' : Option Nat) (skipped gap text closing rest : List Char) :
    Prop where
  rest_eq : c.rest = skipped ++ (gap ++ (text ++ (closing ++ rest)))
  skipped_stop : previous.getD c.offset = c.offset + byteLength skipped
  skipped_quiet : isQuiet false skipped = true
  skipped_line : commentAfter false skipped = true →
    (gap ++ (text ++ closing)).head? = some '\n'
  skipped_eq_nil : previous = none → skipped = []
  gap_isTrivia : IsTrivia gap
  gap_eq_nil : previous ≠ none → gap = []
  closing_isTrivia : IsTrivia closing
  laid : Laid p comma closing qs text
  head : ∀ q ∈ qs.head?, q.layout.lead = previous.map (⟨·, q.layout.start⟩) ∧
    q.layout.start = c.offset + byteLength (skipped ++ (gap ++ p.textOf q.layout.lead))
  tail : ∀ q ∈ qs.tail, q.layout.lead.isSome
  gap_of_nil : qs = [] → gap = []
  stop : ∀ stop, previous' = some stop → stop = c.offset + byteLength (skipped ++ (gap ++ text))
  placed : p.Placed (c.offset + byteLength (skipped ++ gap)) qs
  seps : ∀ q ∈ qs, ∀ s ∈ q.layout.sep, IsReadSeparator comma (p.text s)

theorem Tiles.cutsAt {comma : Bool} {previous previous' : Option Nat} {c c' : Cursor}
    {qs : List Piece} (h : Tiles comma previous c qs previous' c') (hcut : CutsAt c previous) :
    CutsAt c' previous' := by
  induction h with
  | nil => exact hcut
  | cons _ _ _ hon _ _ ih => exact ih (hon.cutsAt _ _)

/-- The text at `c` is cut at the position `previous`, and the trivia `lead` stands between it and
the text `rest`. -/
def CutsOff (c : Cursor) (previous : Option Nat) (lead rest : List Char) : Prop :=
  ∃ skipped, c.rest = skipped ++ (lead ++ rest) ∧
    c.SplitsTrivia (skipped ++ lead) (previous.getD c.offset) skipped lead ∧
    (previous = none → skipped = [])

theorem CutsAt.cutsOff {c : Cursor} {previous : Option Nat} (h : CutsAt c previous)
    {trivia rest : List Char} {d : Char} (htrivia : IsTrivia trivia)
    (hd : (Token.Kind.ofChar d).isTrivia = false) (hc : c.rest = trivia ++ d :: rest) :
    ∃ lead, CutsOff c previous lead (d :: rest) ∧ (previous = none → lead = trivia) := by
  obtain ⟨skipped, lead, hsplit, hnone⟩ := h.split htrivia hd hc
  exact ⟨lead, ⟨skipped, by rw [hc, hsplit.eq, List.append_assoc], hsplit.eq ▸ hsplit, hnone⟩,
    fun h => by rw [hsplit.eq, hnone h, List.nil_append]⟩

/-- Nothing is skipped at the place itself. -/
theorem CutsOff.here {c : Cursor} {previous : Option Nat}
    (h : previous.getD c.offset = c.offset) : CutsOff c previous [] c.rest :=
  ⟨[], rfl, h.symm ▸ .start c .nil, fun _ => rfl⟩

/-- The trivia in front of an item is its lead.  The first of all items has no lead: the trivia in
front of it is the gap of the list. -/
theorem Cursor.SplitsTrivia.gap_append_lead {p : Printer} {c : Cursor} {previous : Option Nat}
    {trivia skipped lead rest : List Char}
    (h : c.SplitsTrivia trivia (previous.getD c.offset) skipped lead) (hat : p.At c)
    (hrest : c.rest = trivia ++ rest) (hstart : c.start = c.offset + byteLength trivia) :
    ∃ gap, lead = gap ++ p.textOf (previous.map (⟨·, c.start⟩)) ∧ (previous ≠ none → gap = []) ∧
      IsTrivia gap ∧ IsTrivia (p.textOf (previous.map (⟨·, c.start⟩))) := by
  cases previous with
  | none => exact ⟨lead, (List.append_nil _).symm, fun h => (h rfl).elim, h.isTrivia, .nil⟩
  | some stop =>
    have hstop : stop = c.offset + byteLength skipped := h.stop
    have htext : p.text ⟨stop, c.start⟩ = lead := by
      refine hat.text_eq (a := skipped) (b := rest) ?_ hstop ?_
      · rw [hrest, h.eq, List.append_assoc]
      · rw [hstart, hstop, h.eq, byteLength_append, Nat.add_assoc]
    refine ⟨[], htext.symm, fun _ => rfl, .nil, ?_⟩
    show IsTrivia (p.text ⟨stop, c.start⟩)
    exact htext.symm ▸ h.isTrivia

section Step

variable {p : Printer} {comma : Bool} {previous previous' : Option Nat} {c c₁ : Cursor}
  {q : Piece} {qs : List Piece} {skipped skipped' gap text closing rest : List Char}

theorem CutsOff.laidOut (h : CutsOff c previous closing rest) :
    ∃ skipped, LaidOut p comma previous c [] previous skipped [] [] closing rest := by
  obtain ⟨skipped, hrest, hsplit, hnone⟩ := h
  exact ⟨skipped,
    { rest_eq := hrest
      skipped_stop := hsplit.stop
      skipped_quiet := hsplit.quiet
      skipped_line := hsplit.line
      skipped_eq_nil := hnone
      gap_isTrivia := .nil
      gap_eq_nil := fun _ => rfl
      closing_isTrivia := hsplit.isTrivia
      laid := .nil
      head := by simp
      tail := by simp
      gap_of_nil := fun _ => rfl
      stop := fun stop hstop => by simpa [hstop] using hsplit.stop
      placed := trivial
      seps := by simp }⟩

/-- An item in front of items that are laid out is laid out with them. -/
theorem LaidOut.cons
    (h : LaidOut p comma (some q.layout.finish) c₁ qs previous' skipped' [] text closing rest)
    (hrest : c.rest = skipped ++ (gap ++ (p.textOf q.layout.lead ++
      (q.text ++ (p.textOf q.layout.sep ++ (text ++ (closing ++ rest)))))))
    (hsplit : c.SplitsTrivia (skipped ++ (gap ++ p.textOf q.layout.lead))
      (previous.getD c.offset) skipped (gap ++ p.textOf q.layout.lead))
    (hskipped : previous = none → skipped = []) (hgap : IsTrivia gap)
    (hgapNil : previous ≠ none → gap = []) (hfits : q.layout.Fits p comma)
    (hlead : q.layout.lead = previous.map (⟨·, q.layout.start⟩)) {stop : Nat}
    (hspan : q.layout.span = some ⟨q.layout.start, stop⟩)
    (htext : p.text ⟨q.layout.start, stop⟩ = q.text)
    (hopens : ∃ d ∈ q.text.head?, (Token.Kind.ofChar d).isTrivia = false)
    (hlast : comma = true → q.layout.sep = none → qs = [])
    (hcomment : commentAfter false (p.textOf q.layout.sep) = commentAfter false skipped')
    (hstart : q.layout.start = c.offset + byteLength (skipped ++ (gap ++ p.textOf q.layout.lead)))
    (hstop : stop = q.layout.start + byteLength q.text)
    (hsep : ∀ s ∈ q.layout.sep, s = ⟨stop, stop + byteLength (p.textOf q.layout.sep)⟩)
    (hseparator : ∀ s ∈ q.layout.sep, IsReadSeparator comma (p.text s))
    (hnext : c₁.offset + byteLength skipped' = stop + byteLength (p.textOf q.layout.sep)) :
    LaidOut p comma previous c (q :: qs) previous' skipped gap
      (p.textOf q.layout.lead ++ (q.text ++ (p.textOf q.layout.sep ++ text))) closing rest where
  rest_eq := by simpa using hrest
  skipped_stop := hsplit.stop
  skipped_quiet := hsplit.quiet
  skipped_line hopen := by
    obtain ⟨lead, hline⟩ := List.head?_eq_some_iff.1 (hsplit.line hopen)
    rw [List.append_assoc, ← List.append_assoc, hline]
    rfl
  skipped_eq_nil := hskipped
  gap_isTrivia := hgap
  gap_eq_nil := hgapNil
  closing_isTrivia := h.closing_isTrivia
  laid := .cons hfits ⟨_, hspan, htext⟩ hopens hlast
    (fun hopen => h.skipped_line (hcomment ▸ hopen)) h.laid
  head := by
    rintro _ ⟨⟩
    exact ⟨hlead, hstart⟩
  tail := by
    rw [List.tail_cons]
    intro r hr
    cases qs with
    | nil => cases hr
    | cons r' qs =>
      rcases List.mem_cons.1 hr with rfl | hr
      · rw [(h.head r rfl).1]
        rfl
      · exact h.tail r hr
  gap_of_nil := fun hnil => by cases hnil
  stop stop' hstop' := by
    have hfinal := h.stop stop' hstop'
    simp only [byteLength_append, List.nil_append] at hfinal hnext hstart ⊢
    omega
  placed := by
    have hplaced := h.placed
    have hspan' : (⟨q.layout.start, stop⟩ : Span) =
        ⟨c.offset + byteLength (skipped ++ gap) + byteLength (p.textOf q.layout.lead),
          c.offset + byteLength (skipped ++ gap) +
            byteLength (p.textOf q.layout.lead ++ q.text)⟩ := by
      simp only [byteLength_append, Span.mk.injEq] at hstart ⊢
      omega
    have hplace : c₁.offset + byteLength skipped' =
        c.offset + byteLength (skipped ++ gap) + byteLength (p.place q) := by
      simp only [Printer.place, byteLength_append] at hstart hnext ⊢
      omega
    rw [List.append_nil, hplace] at hplaced
    refine ⟨⟨hspan' ▸ hspan, fun s hs => ?_, fun s hs => ?_⟩, hplaced⟩
    · rw [hlead, Option.mem_def, Option.map_eq_some_iff] at hs
      obtain ⟨position, hposition, rfl⟩ := hs
      have hskip := hsplit.stop
      rw [hposition, Option.getD_some] at hskip
      obtain rfl : gap = [] := hgapNil (by simp [hposition])
      simp only [byteLength_append, Span.mk.injEq, List.nil_append, byteLength_nil] at hstart ⊢
      omega
    · rw [hsep s hs]
      simp only [Printer.place, byteLength_append, Span.mk.injEq] at hstart ⊢
      omega
  seps := List.forall_mem_cons.2 ⟨hseparator, h.seps⟩

end Step

/-- Items that were read one after the other are laid. -/
theorem Tiles.laidOut {p : Printer} {comma : Bool} {previous previous' : Option Nat}
    {c c' : Cursor} {qs : List Piece} (h : Tiles comma previous c qs previous' c')
    (hcut : CutsAt c previous) (hat : p.At c) {closing rest : List Char}
    (hend : CutsOff c' previous' closing rest) :
    ∃ skipped gap text, LaidOut p comma previous c qs previous' skipped gap text closing rest := by
  induction h with
  | nil previous c =>
    obtain ⟨skipped, hout⟩ := hend.laidOut
    exact ⟨skipped, [], [], hout⟩
  | @cons previous previous' c c₁ c₂ c' trivia t sepStop qs htrivia hopens hreads hon hlast _ ih =>
    obtain ⟨d, hd, htoken⟩ := hopens
    obtain ⟨t', ht'⟩ := List.head?_eq_some_iff.1 hd
    have hat₁ := hat.reads hreads
    have hat₂ : p.At c₂ := by
      cases hon with
      | bare | tail => exact hat₁
      | comma _ hreads' => exact hat₁.reads hreads'
    have hrest : c.rest = trivia ++ (t ++ c₁.rest) := by rw [hreads.rest, List.append_assoc]
    obtain ⟨hstart, htext⟩ := hat.text_start htrivia ⟨d, hd, htoken⟩ hreads
    have hrest' : c.rest = trivia ++ d :: (t' ++ c₁.rest) := by
      rw [hrest, ht']
      rfl
    obtain ⟨skipped, lead, hsplit, hnone⟩ := hcut.split htrivia htoken hrest'
    obtain ⟨gap, hgap, hgapNone, hgapTrivia, hleadTrivia⟩ :=
      hsplit.gap_append_lead hat hrest hstart
    -- The items behind this one, up to the text that its separator skips.
    obtain ⟨skipped₂, gap₂, text, hout⟩ := ih (hon.cutsAt previous c.start) hat₂ hend
    obtain rfl : gap₂ = [] := hout.gap_eq_nil (by simp)
    have hstop := hout.skipped_stop
    rw [Option.getD_some, Layout.finish_placed] at hstop
    obtain ⟨sep, hsep, hsepStop, hsepText, hseparator, hcomment⟩ :=
      hon.separator hat₁ previous c.start hout.rest_eq hstop
    have hsplit' := hsplit.eq ▸ hsplit
    rw [hgap] at hsplit'
    have hread : ∀ s ∈ (Layout.placed previous c.start c₁.offset sepStop).sep,
        IsReadSeparator comma (p.text s) := by
      rintro span hspan
      obtain ⟨stop, rfl, -⟩ := Option.map_eq_some_iff.1 hspan
      rw [← hsepText] at hseparator
      obtain rfl := Option.some.inj hspan
      exact hseparator rfl
    have hfits : (Layout.placed previous c.start c₁.offset sepStop).Fits p comma :=
      ⟨hleadTrivia, fun span hspan => (hread span hspan).isSeparator⟩
    refine ⟨skipped, gap, _, hout.cons ?_ hsplit' hnone hgapTrivia hgapNone hfits rfl rfl htext
      ⟨d, hd, htoken⟩ (fun hcomma hnil => hlast hcomma (Option.map_eq_none_iff.1 hnil))
      ?_ ?_ ?_ ?_ hread ?_⟩
    · rw [hrest, hsplit.eq, hgap, hsep, hsepText, Layout.lead_placed]
      simp
    · rw [hsepText, hcomment]
    · rw [Layout.lead_placed, ← hgap, ← hsplit.eq]
      exact hstart
    · show c₁.offset = c.start + byteLength t
      rw [hreads.offset, byteLength_append, hstart, Nat.add_assoc]
    · rintro s hs
      obtain ⟨stop, rfl, rfl⟩ := Option.map_eq_some_iff.1 hs
      rw [hsepText, ← hsepStop, Option.getD_some]
    · rw [hsepText, ← hsepStop, ← hstop]

/-! ### The list readers -/

/-- Whatever the reader accepts at a place of the source for which `here` holds, and in front of a
text for which `follow` holds, stands behind trivia, starts with a token, and is related to the
result by its place and its text. -/
def Printer.Recovers {α : Type} (p : Printer) (read : Cursor → Reading (α × Cursor))
    (here : Cursor → Prop) (follow : List Char → Prop) (S : Span → List Char → α → Prop) : Prop :=
  ∀ c a c', p.At c → here c → follow c'.rest → read c = .ok (a, c') → ∃ trivia t, IsTrivia trivia ∧
    (∃ d ∈ t.head?, (Token.Kind.ofChar d).isTrivia = false) ∧ c.Reads (trivia ++ t) c' ∧
    S ⟨c.start, c'.offset⟩ t a

/-- The pieces belong to the items, one by one. -/
abbrev AreItems {α : Type} (p : Printer) (S : Span → List Char → α → Prop)
    (items : List (α × Layout)) (qs : List Piece) : Prop :=
  List.Forall₂ (fun x q => x.2 = q.layout ∧ ∃ span, q.layout.span = some span ∧
    p.text span = q.text ∧ S span q.text x.1) items qs

namespace Layout

variable {α : Type} {p : Printer} {item : Cursor → Reading (α × Cursor)}
  {S : Span → List Char → α → Prop}

theorem readItems_tiles {close : Token.Kind}
    (hitem : p.Recovers item (fun _ => True) (EndsEntry close) S) {limit : Nat}
    {previous : Option Nat} {c c' : Cursor} {items : List (α × Layout)} (hat : p.At c)
    (h : readItems item close limit previous c = .ok (items, c')) :
    ∃ qs previous', Tiles true previous c qs previous' c' ∧ AreItems p S items qs := by
  induction limit generalizing previous c items with
  | zero => cases h
  | succ limit ih =>
    rw [readItems] at h
    split at h
    · cases h
      exact ⟨[], previous, .nil _ _, .nil⟩
    · obtain ⟨⟨a, c₁⟩, h₁, h⟩ := Except.bind_eq_ok.1 h
      dsimp only at h
      split at h
      · next c₂ heat =>
        obtain ⟨⟨rest, c₃⟩, h₃, h⟩ := Except.bind_eq_ok.1 h
        cases h
        obtain ⟨trivia', htrivia', -, hreads'⟩ := Cursor.reads_of_eat? heat rfl
        have hcomma : kindAhead? c₁.rest = some .comma := by
          rw [hreads'.rest, List.append_assoc, kindAhead?_append htrivia']
          exact kindAhead?_sign (κ := .comma) rfl _
        obtain ⟨trivia, t, htrivia, hopens, hreads, hS⟩ :=
          hitem _ _ _ hat trivial (.inl hcomma) h₁
        obtain ⟨qs, previous', htiles, hall⟩ := ih ((hat.reads hreads).reads hreads') h₃
        exact ⟨_, previous', .cons htrivia hopens hreads (.comma htrivia' hreads')
          (fun _ hnone => by cases hnone) htiles,
          .cons ⟨rfl, _, rfl, (hat.text_start htrivia hopens hreads).2, hS⟩ hall⟩
      · split at h
        · next hsees =>
          cases h
          obtain ⟨trivia, t, htrivia, hopens, hreads, hS⟩ :=
            hitem _ _ _ hat trivial (.inr (Cursor.sees_iff.1 hsees)) h₁
          exact ⟨_, _, .cons htrivia hopens hreads (.bare _ _) (fun _ _ => rfl) (.nil _ _),
            .cons ⟨rfl, _, rfl, (hat.text_start htrivia hopens hreads).2, hS⟩ .nil⟩
        · cases h

theorem readStatements_tiles {stop : Cursor → Bool}
    (hitem : p.Recovers item (stop · = false) (fun _ => True) S) {limit : Nat}
    {previous : Option Nat} {c c' : Cursor} {items : List (α × Layout)} (hat : p.At c)
    (h : readStatements stop item limit previous c = .ok (items, c')) :
    ∃ qs previous', Tiles false previous c qs previous' c' ∧ AreItems p S items qs := by
  induction limit generalizing previous c items with
  | zero =>
    cases h
    exact ⟨[], previous, .nil _ _, .nil⟩
  | succ limit ih =>
    rw [readStatements] at h
    split at h
    · cases h
      exact ⟨[], previous, .nil _ _, .nil⟩
    · next hstop =>
      obtain ⟨⟨a, c₁⟩, h₁, h⟩ := Except.bind_eq_ok.1 h
      obtain ⟨⟨rest, c₂⟩, h₂, h⟩ := Except.bind_eq_ok.1 h
      cases h
      obtain ⟨trivia, t, htrivia, hopens, hreads, hS⟩ :=
        hitem _ _ _ hat (Bool.eq_false_iff.2 hstop) trivial h₁
      obtain ⟨qs, previous', htiles, hall⟩ := ih (hat.reads hreads) h₂
      exact ⟨_, previous', .cons htrivia hopens hreads (.tail _) (fun hc => by cases hc) htiles,
        .cons ⟨rfl, _, rfl, (hat.text_start htrivia hopens hreads).2, hS⟩ hall⟩

end Layout

end PolicyEditor
