import PolicyEditor.Proofs.Grammar.ElementSoundness
import PolicyEditor.Proofs.Layout.Places
import PolicyEditor.Proofs.Layout.Recording
import PolicyEditor.Proofs.Layout.Reprinting

/-!
# Nodes that were read

An attribute, union or rule that was read from a source is sound and intact for this source, and its
printed text is the text from which it was read.

## Main definitions

* `Attribute.Stands`, `Union.Stands`, `Rule.Stands` : a node that was read over a span of the
  source.

## Main results

* `Attribute.read_recovers`, `Union.read_recovers`, `Rule.read_recovers` : a node that was read
  stands in the source.
-/

namespace PolicyEditor

open Text

variable {p : Printer}

/-! ### Entries -/

theorem IsWord.opens {w text : List Char} (h : IsWord w) :
    ∃ d ∈ (w ++ text).head?, (Token.Kind.ofChar d).isTrivia = false := by
  obtain ⟨c, hc, hword⟩ := h.opensWord text
  exact ⟨c, hc, by rw [hword]; rfl⟩

theorem Value.recovers : p.Recovers readText (fun _ => True) (Layout.EndsEntry .semicolon)
    (fun _ => Spells) := by
  intro c value c' _ _ hfollow h
  obtain ⟨trivia, t, htrivia, hreads, hspells⟩ := readText_recovers h hfollow
  obtain ⟨d, hd, htoken, -⟩ := hspells.opensWithout (κ := .semicolon) rfl
  exact ⟨trivia, t, htrivia, ⟨d, hd, htoken⟩, hreads, hspells⟩

theorem Element.recovers {follow : List Char → Prop} :
    p.Recovers readItem (fun _ => True) follow (fun _ => SpellsItem) := by
  intro c e c' _ _ _ h
  obtain ⟨trivia, t, htrivia, -, hreads, hspells⟩ := readItem_recovers c e c' h
  obtain ⟨d, hd, htoken, -⟩ :=
    hspells.opensTyped.opensWithout (κ := .semicolon) (by decide) (by decide)
  exact ⟨trivia, t, htrivia, ⟨d, hd, htoken⟩, hreads, hspells⟩

/-! ### Attributes -/

/-- The attribute was read over a span of the source with the text `t`. -/
def Attribute.Stands (p : Printer) (span : Span) (t : List Char) (a : Attribute) : Prop :=
  ∀ layout : Layout, layout.span = some span → Attribute.Sound p { a with layout } ∧
    Attribute.intact p { a with layout } = true ∧ p.attributeText { a with layout } = t ∧
    Attribute.Placed p { a with layout }

/-- The pieces of attributes that were read are those of the source. -/
theorem Printer.attributes_of_areItems {items : List (Attribute × Layout)} {qs : List Piece}
    (h : AreItems p (Attribute.Stands p) items qs) (hfits : ∀ q ∈ qs, q.layout.Fits p false) :
    p.attributePieces (items.map fun x => { x.1 with layout := x.2 }) = qs ∧
      AllSound p (items.map fun x => { x.1 with layout := x.2 }) ∧
      allIntact p (items.map fun x => { x.1 with layout := x.2 }) = true ∧
      AllPlaced p (items.map fun x => { x.1 with layout := x.2 }) := by
  induction h with
  | nil => exact ⟨rfl, trivial, rfl, trivial⟩
  | @cons x q items qs hx _ ih =>
    obtain ⟨hlayout, span, hspan, htext, hstands⟩ := hx
    rw [List.forall_mem_cons] at hfits
    obtain ⟨hpieces, hsound, hintact, hplaced⟩ := ih hfits.2
    obtain ⟨a, layout⟩ := x
    obtain rfl : layout = q.layout := hlayout
    obtain ⟨hsoundHead, hintactHead, htextHead, hplacedHead⟩ := hstands q.layout hspan
    refine ⟨?_, ⟨⟨hfits.1, hsoundHead⟩, hsound⟩, ?_, hplacedHead, hplaced⟩
    · rw [List.map_cons, attributePieces, hpieces, htextHead]
    · rw [List.map_cons, allIntact, hintactHead, hintact, Bool.and_self]

section Block

variable {c₀ c c' : Cursor} {lead header : List Char} {start : Nat}

/-- The recorded frame of a block of attributes. -/
theorem readBlock_records {entry : Cursor → Reading (Attribute × Cursor)}
    (hentry : p.Recovers entry (fun _ => True) (fun _ => True) (Attribute.Stands p))
    (hat : p.At c₀) (hheader : c₀.Reads (lead ++ header) c)
    (hstart : start = c₀.offset + byteLength lead) {attributes : List Attribute} {frame : Frame}
    (h : readBlock entry c = .ok ((attributes, frame), c')) :
    frame.Records p false ⟨start, c'.offset⟩ c (p.attributePieces attributes) header ['\x7d']
        c'.rest ∧
      AllSound p attributes ∧ allIntact p attributes = true ∧ AllPlaced p attributes ∧
      ∃ inner, c.Reads inner c' := by
  obtain ⟨⟨items, c₁⟩, h₁, h⟩ := Except.bind_eq_ok.1 h
  obtain ⟨⟨t, c₂⟩, h₂, h⟩ := Except.bind_eq_ok.1 h
  cases h
  have hitem : p.Recovers (fun c => if c.atEnd then .error (c.unexpected "'\x7d'") else entry c)
      (Cursor.sees · .closeBrace = false) (fun _ => True) (Attribute.Stands p) := by
    intro c a c' hat _ _ h
    dsimp only at h
    split at h
    · cases h
    · exact hentry c a c' hat trivial trivial h
  obtain ⟨qs, previous', htiles, hall⟩ :=
    Layout.readStatements_tiles hitem (hat.reads hheader) h₁
  obtain ⟨trivia, htrivia, -, hclose⟩ := Cursor.reads_of_expect h₂ (s := '\x7d') rfl
  obtain ⟨hrecords, hinner⟩ := htiles.records hat hheader hstart htrivia (by decide) hclose
  obtain ⟨hpieces, hsound, hintact, hplaced⟩ := Printer.attributes_of_areItems hall hrecords.fits
  rw [hpieces, areItems_layouts hall]
  exact ⟨hrecords, hsound, hintact, hplaced, hinner⟩

/-- The recorded frame of a list of values. -/
theorem Value.readList_records (hat : p.At c₀) (hheader : c₀.Reads (lead ++ header) c)
    (hstart : start = c₀.offset + byteLength lead) {values : List Value} {frame : Frame}
    (h : readList c = .ok ((values, frame), c')) :
    frame.Records p true ⟨start, c'.offset⟩ c (p.values values) header [';'] c'.rest ∧
      (∀ v ∈ values, Value.Sound p v) ∧ ∃ inner, c.Reads inner c' := by
  obtain ⟨⟨⟨items, frame'⟩, c₁⟩, h₁, h⟩ := Except.bind_eq_ok.1 h
  cases h
  obtain ⟨qs, hall, hrecords, hinner⟩ :=
    Layout.readList_records (s := ';') rfl Value.recovers hat hheader hstart h₁
  obtain ⟨hpieces, hsound⟩ :=
    Printer.items_of_areItems hall hrecords.fits
  rw [show p.values _ = qs from hpieces]
  exact ⟨hrecords, hsound, hinner⟩

/-- The recorded frame of a list of elements. -/
theorem Element.readUnion_records (hat : p.At c₀) (hheader : c₀.Reads (lead ++ header) c)
    (hstart : start = c₀.offset + byteLength lead) {items : List (Element × Layout)}
    {frame : Frame} (h : readUnion c = .ok ((items, frame), c')) :
    frame.Records p true ⟨start, c'.offset⟩ c (p.members (items.map fun x => ⟨x.1, x.2⟩)) header
        [';'] c'.rest ∧
      (∀ e ∈ items.map fun x => (⟨x.1, x.2⟩ : Member), Member.Sound p e) ∧
      ∃ inner, c.Reads inner c' := by
  obtain ⟨qs, hall, hrecords, hinner⟩ :=
    Layout.readList_records (s := ';') rfl Element.recovers hat hheader hstart h
  obtain ⟨hpieces, hsound⟩ :=
    Printer.items_of_areItems hall hrecords.fits
  rw [show p.members _ = qs from hpieces]
  exact ⟨hrecords, hsound, hinner⟩

end Block

namespace Attribute

/-- An attribute that was read as a flag. -/
theorem stands_flag {w trivia : List Char} {span : Span} (hw : IsWord w) (htrivia : IsTrivia trivia)
    (htext : p.text span = w ++ (trivia ++ [';'])) :
    Stands p span (w ++ (trivia ++ [';'])) { name := String.ofList w, value := .flag } := by
  rintro ⟨_, lead, sep⟩ ⟨⟩
  have hname : (String.ofList w).toList = w := String.toList_ofList
  refine ⟨⟨⟨?_, trivia, htrivia, ?_⟩, trivial⟩, rfl, htext, rfl, trivial⟩
  · exact hname.symm ▸ hw
  · exact hname.symm ▸ htext

theorem stands_values {w trivia : List Char} {span : Span} {c : Cursor} {frame : Frame}
    {values : List Value} {rest : List Char} (hw : IsWord w) (htrivia : IsTrivia trivia)
    (hsound : ∀ v ∈ values, Value.Sound p v)
    (h : frame.Records p true span c (p.values values) (w ++ (trivia ++ ['='])) [';'] rest) :
    Stands p span (p.text span)
      { name := String.ofList w, value := .values values, frame := some frame } := by
  rintro ⟨_, lead, sep⟩ ⟨⟩
  have hname : (String.ofList w).toList = w := String.toList_ofList
  refine ⟨⟨⟨?_, trivia, htrivia, ?_⟩, hsound⟩, ?_, ?_, h.seats, trivial⟩
  · exact hname.symm ▸ hw
  · exact hname.symm ▸ h.frames
  · simpa [intact, joined, AttributeValue.intact, style, pieces] using h.joined .values rfl
  · simpa [Printer.attributeText, Printer.framedValue] using h.framed_eq .values rfl

theorem stands_block {w a b : List Char} {span : Span} {c : Cursor} {frame : Frame}
    {attributes : List Attribute} {rest : List Char} (hw : IsWord w) (ha : IsTrivia a)
    (hb : IsTrivia b) (hsound : AllSound p attributes) (hintact : allIntact p attributes = true)
    (hplaced : AllPlaced p attributes)
    (h : frame.Records p false span c (p.attributePieces attributes)
      (w ++ (a ++ '=' :: (b ++ ['\x7b']))) ['\x7d'] rest) :
    Stands p span (p.text span)
      { name := String.ofList w, value := .block attributes, frame := some frame } := by
  rintro ⟨_, lead, sep⟩ ⟨⟩
  have hname : (String.ofList w).toList = w := String.toList_ofList
  refine ⟨⟨⟨?_, a, b, ha, hb, ?_⟩, hsound⟩, ?_, ?_, h.seats, hplaced⟩
  · exact hname.symm ▸ hw
  · exact hname.symm ▸ h.frames
  · simpa [intact, joined, AttributeValue.intact, style, pieces, hintact] using
      h.joined .statements rfl
  · simpa [Printer.attributeText, Printer.framedValue] using h.framed_eq .statements rfl

/-- An attribute that was read stands in the source. -/
theorem readNested_recovers (depth : Nat) :
    p.Recovers (readNested depth) (fun _ => True) (fun _ => True) (Stands p) := by
  induction depth with
  | zero =>
    intro _ _ _ _ _ _ h
    cases h
  | succ depth ih =>
    intro c a c' hat _ _ h
    obtain ⟨⟨word, c₁⟩, h₁, h⟩ := Except.bind_eq_ok.1 h
    obtain ⟨lead, w, hlead, hw, -, hword, hstart, hreads⟩ := Cursor.reads_of_expectWord h₁
    simp only [hword] at h
    split at h
    · next c₂ heat =>
      cases h
      obtain ⟨trivia, htrivia, -, hreads'⟩ := Cursor.reads_of_eat? heat (s := ';') rfl
      have hall : c.Reads (lead ++ (w ++ (trivia ++ [';']))) c' := by
        simpa using hreads.trans hreads'
      exact ⟨lead, _, hlead, hw.opens, hall,
        stands_flag hw htrivia (hat.text_start hlead hw.opens hall).2⟩
    · obtain ⟨⟨t, c₂⟩, h₂, h⟩ := Except.bind_eq_ok.1 h
      obtain ⟨trivia, htrivia, -, hreads'⟩ := Cursor.reads_of_expect h₂ (s := '=') rfl
      dsimp only at h
      split at h
      · next c₃ heat =>
        obtain ⟨⟨⟨attributes, frame⟩, c₄⟩, h₄, h⟩ := Except.bind_eq_ok.1 h
        cases h
        obtain ⟨b, hb, -, hreads''⟩ := Cursor.reads_of_eat? heat (s := '\x7b') rfl
        have hheader : c.Reads (lead ++ (w ++ (trivia ++ '=' :: (b ++ ['\x7b'])))) c₃ := by
          simpa using (hreads.trans hreads').trans hreads''
        obtain ⟨hrecords, hsound, hintact, hplaced, inner, hinner⟩ :=
          readBlock_records ih hat hheader hstart h₄
        have hall : c.Reads (lead ++ (w ++ (trivia ++ '=' :: (b ++ '\x7b' :: inner)))) c₄ := by
          simpa using hheader.trans hinner
        refine ⟨lead, _, hlead, hw.opens, hall, ?_⟩
        rw [← (hat.text_start hlead hw.opens hall).2]
        exact stands_block hw htrivia hb hsound hintact hplaced hrecords
      · obtain ⟨⟨⟨values, frame⟩, c₃⟩, h₃, h⟩ := Except.bind_eq_ok.1 h
        cases h
        have hheader : c.Reads (lead ++ (w ++ (trivia ++ ['=']))) c₂ := by
          simpa using hreads.trans hreads'
        obtain ⟨hrecords, hsound, inner, hinner⟩ := Value.readList_records hat hheader hstart h₃
        have hall : c.Reads (lead ++ (w ++ (trivia ++ '=' :: inner))) c₃ := by
          simpa using hheader.trans hinner
        refine ⟨lead, _, hlead, hw.opens, hall, ?_⟩
        rw [← (hat.text_start hlead hw.opens hall).2]
        exact stands_values hw htrivia hsound hrecords

theorem read_recovers : p.Recovers read (fun _ => True) (fun _ => True) (Stands p) :=
  fun c => readNested_recovers _ c

end Attribute

/-! ### Unions -/

/-- An element whose text does not start with a word starts with a complement. -/
theorem Element.SpellsItem.startsWithBang {t : List Char} {e : Element} (h : SpellsItem t e)
    (hstop : StopsWord t) : e.startsWithBang = true := by
  by_contra hbang
  obtain ⟨c, hc, hword⟩ := h.opensWord (Bool.eq_false_iff.2 hbang)
  exact hstop c hc hword

namespace Union

/-- The union was read over a span of the source with the text `t`. -/
def Stands (p : Printer) (role : Role) (span : Span) (t : List Char) (u : Union) : Prop :=
  u.role = role ∧ ∀ layout : Layout, layout.span = some span → Union.Sound p { u with layout } ∧
    Union.intact p { u with layout } = true ∧ p.unionText { u with layout } = t ∧
    Union.Placed p { u with layout }

theorem stands_of_records {role : Role} {foreach : Bool} {elements : List Member} {span : Span}
    {frame : Frame} {c : Cursor} {header rest : List Char}
    (h : frame.Records p true span c (p.members elements) header [';'] rest)
    (hsound : ∀ e ∈ elements, Member.Sound p e) (hrole : foreach = true → role = .user)
    (hheader : Union.Header ⟨role, foreach, elements, {}, none⟩ header)
    (hkeeps : foreach = true → StopsWord c.rest ∧ kindAhead? c.rest ≠ some .semicolon) :
    Stands p role span (p.text span) { role, foreach, elements, frame := some frame } := by
  refine ⟨rfl, ?_⟩
  rintro ⟨_, lead, sep⟩ ⟨⟩
  refine ⟨⟨hsound, hrole, header, hheader, h.frames⟩, ?_, h.framed_eq .values rfl, h.seats⟩
  simp only [intact, h.joined .values rfl, Bool.true_and, keepsForeach]
  cases foreach with
  | false => rfl
  | true =>
    obtain ⟨hstop, hahead⟩ := hkeeps rfl
    cases elements with
    | nil =>
      have hrest := h.ahead_nil rfl
      rw [hrest, kindAhead?_append h.frames.gap] at hahead
      exact (hahead (kindAhead?_sign (κ := .semicolon) rfl _)).elim
    | cons e es =>
      obtain ⟨-, text, hrest⟩ := h.ahead_cons ⟨e.layout, p.item Element.chars e⟩ rfl
      simp only [Bool.not_true, Bool.false_or, h.front_eq, Bool.or_eq_true, Bool.not_eq_true']
      cases hgap : p.text frame.gap with
      | cons d gap => exact .inl rfl
      | nil =>
        refine .inr ((hsound e List.mem_cons_self).spells.startsWithBang fun d hd => ?_)
        obtain ⟨t, ht⟩ := List.head?_eq_some_iff.1 hd
        rw [hrest, hgap, ht] at hstop
        exact hstop d rfl

/-- A union that was read stands in the source. -/
theorem read_recovers (role : Role) :
    p.Recovers (read role) (fun _ => True) (fun _ => True) (Stands p role) := by
  intro c u c' hat _ _ h
  obtain ⟨c₁, h₁, h⟩ := Except.bind_eq_ok.1 h
  obtain ⟨⟨t, c₂⟩, h₂, h⟩ := Except.bind_eq_ok.1 h
  obtain ⟨⟨⟨items, frame⟩, c₃⟩, h₃, h⟩ := Except.bind_eq_ok.1 h
  cases h
  rw [Cursor.expectWord] at h₁
  split at h₁
  · next hword =>
    cases h₁
    obtain ⟨lead, hlead, hw, -, hstart, hreads⟩ := Cursor.reads_bump_of_seesWord hword
    obtain ⟨trivia, htrivia, -, hreads'⟩ := Cursor.reads_of_expect h₂ (s := '=') rfl
    have hheader : c.Reads (lead ++ (role.keyword.toList ++ (trivia ++ ['=']))) c₂ := by
      simpa using hreads.trans hreads'
    generalize hforeach : (role == .user &&
      (c₂.seesKey "foreach" .word || c₂.seesKey "foreach" .bang)) = foreach at h₃
    cases foreach with
    | false =>
      obtain ⟨hrecords, hsound, inner, hinner⟩ :=
        Element.readUnion_records hat hheader hstart h₃
      have hall : c.Reads (lead ++ (role.keyword.toList ++ (trivia ++ '=' :: inner))) c' := by
        simpa using hheader.trans hinner
      refine ⟨lead, _, hlead, hw.opens, hall, ?_⟩
      rw [← (hat.text_start hlead hw.opens hall).2]
      exact stands_of_records hrecords hsound (fun h => by cases h) ⟨trivia, htrivia, rfl⟩
        fun h => by cases h
    | true =>
      simp only [Bool.and_eq_true, beq_iff_eq, Bool.or_eq_true] at hforeach
      obtain ⟨hrole, hkey⟩ := hforeach
      have hahead : c₂.seesWord "foreach" = true ∧ kindAhead? c₂.bump.rest ≠ some .semicolon := by
        rcases hkey with hkey | hkey <;>
        · obtain ⟨hword, hahead⟩ := Cursor.kindAhead?_bump_of_seesKey hkey
          exact ⟨hword, by rw [hahead]; decide⟩
      obtain ⟨trivia', htrivia', -, hstop, -, hreads''⟩ :=
        Cursor.reads_bump_of_seesWord hahead.1
      have hheader' : c.Reads (lead ++ (role.keyword.toList ++
          (trivia ++ '=' :: (trivia' ++ "foreach".toList)))) c₂.bump := by
        simpa using hheader.trans hreads''
      obtain ⟨hrecords, hsound, inner, hinner⟩ :=
        Element.readUnion_records hat hheader' hstart h₃
      have hall : c.Reads (lead ++ (role.keyword.toList ++
          (trivia ++ '=' :: (trivia' ++ ("foreach".toList ++ inner))))) c' := by
        simpa using hheader'.trans hinner
      refine ⟨lead, _, hlead, hw.opens, hall, ?_⟩
      rw [← (hat.text_start hlead hw.opens hall).2]
      exact stands_of_records hrecords hsound (fun _ => hrole)
        ⟨trivia, htrivia, trivia', htrivia', rfl⟩ fun _ => ⟨hstop, hahead.2⟩
  · cases h₁

end Union

/-! ### Rules -/

theorem Printer.text_self (n : Nat) : p.text ⟨n, n⟩ = [] := by
  simp [text, slice, before]

theorem Action.read_eq_ok {action : Action} {c c' : Cursor} (h : read c = .ok (action, c')) :
    ∃ trivia, IsTrivia trivia ∧ StopsWord c'.rest ∧ c.start = c.offset + byteLength trivia ∧
      c.Reads (trivia ++ action.keyword.toList) c' := by
  rw [read] at h
  split at h
  · next t c₁ hnext =>
    split at h
    · next action' haction =>
      cases h
      split at haction
      · next hkind =>
        obtain ⟨trivia, w, htrivia, -, hstop, htext, hstart, hreads⟩ :=
          Cursor.next?_eq_some_word hnext hkind
        have hw : w = action.keyword.toList := by
          have hkeyword : t.text = action.keyword := by
            unfold ofKeyword? at haction
            split at haction
            · next hword =>
              cases haction
              exact hword
            · split at haction
              · next hword =>
                cases haction
                exact hword
              · cases haction
          rw [← hkeyword, htext, String.toList_ofList]
        exact ⟨trivia, htrivia, hstop, hstart, hw ▸ hreads⟩
      · cases haction
    · cases h
  · cases h

namespace Rule

variable {c₀ c c' : Cursor} {previous : Option Nat}

theorem readSide_stands {role : Role} {u : Union} (hat : p.At c)
    (h : readSide role previous c = .ok (u, c')) :
    (∃ trivia, IsTrivia trivia ∧
        (∃ d ∈ (p.unionText u).head?, (Token.Kind.ofChar d).isTrivia = false) ∧
        c.Reads (trivia ++ p.unionText u) c') ∧
      u.layout = .placed previous c.start c'.offset ∧ u.Sound p ∧ u.intact p = true ∧
      u.Placed p ∧ u.role = role := by
  obtain ⟨⟨v, c₁⟩, h₁, h⟩ := Except.bind_eq_ok.1 h
  cases h
  obtain ⟨trivia, t, htrivia, hopens, hreads, hrole, hstands⟩ :=
    Union.read_recovers role _ _ _ hat trivial trivial h₁
  obtain ⟨hsound, hintact, htext, hplaced⟩ := hstands (.placed previous c.start c'.offset) rfl
  exact ⟨⟨trivia, htrivia, htext.symm ▸ hopens, htext.symm ▸ hreads⟩, rfl, hsound, hintact,
    hplaced, hrole⟩

theorem readAttribute_stands {name : String} {a : Attribute} (hat : p.At c)
    (h : readAttribute name previous c = .ok (a, c')) :
    (∃ trivia, IsTrivia trivia ∧
        (∃ d ∈ (p.attributeText a).head?, (Token.Kind.ofChar d).isTrivia = false) ∧
        c.Reads (trivia ++ p.attributeText a) c') ∧
      a.layout = .placed previous c.start c'.offset ∧ a.Sound p ∧ a.intact p = true ∧
      a.Placed p ∧ a.name = name := by
  rw [readAttribute] at h
  split at h
  · next hsees =>
    obtain ⟨⟨b, c₁⟩, h₁, h⟩ := Except.bind_eq_ok.1 h
    cases h
    obtain ⟨trivia, t, htrivia, hopens, hreads, hstands⟩ :=
      Attribute.read_recovers _ _ _ hat trivial trivial h₁
    obtain ⟨hsound, hintact, htext, hplaced⟩ := hstands (.placed previous c.start c'.offset) rfl
    refine ⟨⟨trivia, htrivia, htext.symm ▸ hopens, htext.symm ▸ hreads⟩, rfl, hsound, hintact,
      hplaced, ?_⟩
    have hspells := Attribute.Sound.spells _ hsound hintact
    rw [htext] at hspells
    rw [hreads.eq_mk, hspells.seesWord htrivia, Attribute.detach_eq, beq_iff_eq] at hsees
    exact hsees
  · cases h

/-- The rule was read over a span of the source with the text `t`. -/
def Stands (p : Printer) (span : Span) (t : List Char) (r : Rule) : Prop :=
  ∀ layout : Layout, layout.span = some span → Rule.Sound p { r with layout } ∧
    Rule.intact p { r with layout } = true ∧ p.ruleText { r with layout } = t ∧
    Rule.Placed p { r with layout }

/-- A rule whose parts were read one after the other stands in the source. -/
theorem stands_of_tiles {r : Rule} {lead : List Char} (hat : p.At c₀) (hlead : IsTrivia lead)
    (hheader : c₀.Reads (lead ++ r.action.keyword.toList) c)
    (hstart : c₀.start = c₀.offset + byteLength lead) (hstop : StopsWord c.rest)
    (htiles : Tiles false none c (p.rulePieces r) (some c'.offset) c')
    (hframe : r.frame = some (Frame.ofLayouts c.offset c'.offset false
      ((p.rulePieces r).map (·.layout))))
    (hparts : r.SoundParts p) (hintact : r.intact p = true) (hsrc : r.src.Placed p)
    (hdst : r.dst.Placed p) (hprt : r.prt.Placed p) (hlog : ∀ a ∈ r.log, a.Placed p)
    (hseps : ∀ q ∈ p.rulePieces r, q.layout.sep = none) :
    ∃ trivia t, IsTrivia trivia ∧ (∃ d ∈ t.head?, (Token.Kind.ofChar d).isTrivia = false) ∧
      c₀.Reads (trivia ++ t) c' ∧ Stands p ⟨c₀.start, c'.offset⟩ t r := by
  obtain ⟨hrecords, inner, hinner⟩ := htiles.records_here (List.cons_ne_nil _ _) rfl hat hheader
    hstart c'.offset
  have hall : c₀.Reads (lead ++ (r.action.keyword.toList ++ inner)) c' := by
    simpa using hheader.trans hinner
  have hopens : ∃ d ∈ (r.action.keyword.toList ++ inner).head?,
      (Token.Kind.ofChar d).isTrivia = false := (isWord_keyword r.action).opens
  refine ⟨lead, _, hlead, hopens, hall, ?_⟩
  rw [← (hat.text_start hlead hopens hall).2]
  rintro ⟨_, lead', sep⟩ ⟨⟩
  have htext : p.ruleText { r with layout := ⟨some ⟨c₀.start, c'.offset⟩, lead', sep⟩ } =
      p.text ⟨c₀.start, c'.offset⟩ := by
    rw [Printer.ruleText]
    simp only [hframe]
    exact hrecords.framed_eq .statements rfl
  refine ⟨⟨hparts.withLayout _, fun q hq => ⟨hrecords.fits q hq, hseps q hq⟩, ?_⟩, hintact, htext,
    ⟨by rw [hframe]; exact hrecords.seats, hsrc, hdst, hprt, hlog⟩⟩
  dsimp only
  rw [hframe]
  refine ⟨hrecords.frames, ?_, fun hfront => ?_, hrecords.wasEmpty_eq⟩
  · obtain ⟨last, hlast⟩ : ∃ last, (p.rulePieces r).getLast? = some last := ⟨_, List.getLast?_cons⟩
    have hfinish := htiles.finish_eq last hlast
    rw [Option.some.injEq] at hfinish
    rw [Frame.close, Frame.closeStart_ofLayouts _ _ _ hlast, ← hfinish]
    exact Printer.text_self c'.offset
  · -- Without a gap the word of the first union would go on with the action.
    obtain ⟨-, text, hrest⟩ := hrecords.ahead_cons (p.unionPiece r.src) rfl
    have hgap := hrecords.front_eq.symm.trans hfront
    simp only [intact, Bool.and_eq_true] at hintact
    obtain ⟨header, hkeyword, -⟩ := (hparts.src.spells hintact.1.1.1).keyword
    obtain ⟨d, hd, hword⟩ := (Union.isWord_keyword r.src.detach.role).opensWord (header ++ text)
    rw [hrest, hgap, Printer.unionPiece, hkeyword, List.nil_append, List.append_assoc] at hstop
    exact hstop d hd hword

/-- A rule that was read stands in the source. -/
theorem read_recovers {here : Cursor → Prop} :
    p.Recovers read here (fun _ => True) (Stands p) := by
  intro c r c' hat _ _ h
  obtain ⟨⟨action, c₁⟩, h₁, h⟩ := Except.bind_eq_ok.1 h
  obtain ⟨⟨src, c₂⟩, h₂, h⟩ := Except.bind_eq_ok.1 h
  obtain ⟨⟨dst, c₃⟩, h₃, h⟩ := Except.bind_eq_ok.1 h
  obtain ⟨⟨prt, c₄⟩, h₄, h⟩ := Except.bind_eq_ok.1 h
  obtain ⟨lead, hlead, hstop, hstart, hheader⟩ := Action.read_eq_ok h₁
  have hat₁ := hat.reads hheader
  obtain ⟨⟨a, ha, hopens₁, hreads₁⟩, hsrcLayout, hsrc, hsrcIntact, hsrcPlaced, hsrcRole⟩ :=
    readSide_stands hat₁ h₂
  have hat₂ := hat₁.reads hreads₁
  obtain ⟨⟨b, hb, hopens₂, hreads₂⟩, hdstLayout, hdst, hdstIntact, hdstPlaced, hdstRole⟩ :=
    readSide_stands hat₂ h₃
  have hat₃ := hat₂.reads hreads₂
  obtain ⟨⟨d, hd, hopens₃, hreads₃⟩, hprtLayout, hprt, hprtIntact, hprtPlaced, hprtName⟩ :=
    readAttribute_stands hat₃ h₄
  have htiles : Tiles false none c₁ [p.unionPiece src, p.unionPiece dst, p.attributePiece prt]
      (some c₄.offset) c₄ :=
    ((Tiles.single ha hopens₁ hreads₁ hsrcLayout).append
      (Tiles.single hb hopens₂ hreads₂ hdstLayout)).append
      (Tiles.single hd hopens₃ hreads₃ hprtLayout)
  have hseps : ∀ q ∈ [p.unionPiece src, p.unionPiece dst, p.attributePiece prt],
      q.layout.sep = none := by
    simp only [List.forall_mem_cons, Printer.unionPiece, Printer.attributePiece, hsrcLayout,
      hdstLayout, hprtLayout]
    simp [Layout.placed]
  dsimp only at h
  split at h
  · obtain ⟨⟨log, c₅⟩, h₅, h⟩ := Except.bind_eq_ok.1 h
    obtain ⟨⟨e, he, hopens₄, hreads₄⟩, hlogLayout, hlog, hlogIntact, hlogPlaced, hlogName⟩ :=
      readAttribute_stands (hat₃.reads hreads₃) h₅
    have hlogTiles : Tiles false (some c₄.offset) c₄ [p.attributePiece log] (some c₅.offset) c₅ :=
      .single he hopens₄ hreads₄ hlogLayout
    cases h
    have hlogSep : (p.attributePiece log).layout.sep = none := by
      rw [Printer.attributePiece, hlogLayout]
      rfl
    exact stands_of_tiles hat hlead hheader hstart hstop (htiles.append hlogTiles) rfl
      ⟨hsrc, hdst, hprt, fun _ h => Option.some.inj h ▸ hlog, hsrcRole, hdstRole, hprtName,
        fun _ h => Option.some.inj h ▸ hlogName⟩
      (by simp [intact, hsrcIntact, hdstIntact, hprtIntact, hlogIntact]) hsrcPlaced hdstPlaced
      hprtPlaced (fun _ h => Option.some.inj h ▸ hlogPlaced)
      (List.forall_mem_append.2 ⟨hseps, by simpa using hlogSep⟩)
  · cases h
    exact stands_of_tiles hat hlead hheader hstart hstop htiles rfl
      ⟨hsrc, hdst, hprt, (fun _ h => by cases h), hsrcRole, hdstRole, hprtName,
        fun _ h => by cases h⟩
      (by simp [intact, hsrcIntact, hdstIntact, hprtIntact]) hsrcPlaced hdstPlaced hprtPlaced
      (fun _ h => by cases h) hseps

end Rule

end PolicyEditor
