import PolicyEditor.Proofs.Layout.Parsing

/-!
# Files that were read

A file that was read from a source is sound and intact for this source.  The gaps, leads, texts,
separators and footers that were recorded tile the source, so the text of a file that was not edited
is its source byte for byte.

## Main definitions

* `Body.Records` : a body that was read behind the name of a definition.
* `Definition.Stands` : a definition that was read over a span of the source.
* `Forest.Stands` : a file that was read.

## Main results

* `Block.read_records`, `Group.read_records`, `Service.read_records`, `Body.read_records` : a body
  that was read is recorded.
* `Definition.read_recovers` : a definition that was read stands in the source.
* `Forest.parse_wraps`, `Forest.parse_stands` : so does a file.
* `Forest.strung_of_parse` : a file that was read consists of texts of its definitions.
-/

namespace PolicyEditor

open Text

variable {p : Printer}

/-! ### Descriptions -/

/-- What is known about the place `c'` behind a description that was read from `c` on. -/
structure ReadsDescription (c c' : Cursor) (description : Option String) (header : List Char) :
    Prop where
  reads : c.Reads header c'
  spells : SpellsDescription description header
  absent : description = none → c'.seesKey "description" .equals = false
  present : description.isSome → ∀ d ∈ c'.rest.head?, d = '\n'

theorem readDescription_reads {c c' : Cursor} {description : Option String}
    (h : readDescription c = .ok (description, c')) :
    ∃ header, ReadsDescription c c' description header := by
  rw [readDescription] at h
  split at h
  · next hkey =>
    cases h
    obtain ⟨a, b, ha, hb, -, hreads⟩ := Cursor.reads_bump_of_seesKey hkey (s := '=') rfl
    generalize c.bump.bump = c₁ at hreads
    exact ⟨_, by simpa using hreads.trans c₁.reads_lineEnd,
      .present ha hb c₁.newline_notMem_firstLine, (fun h => by cases h), fun _ => c₁.head?_lineEnd⟩
  · next hkey =>
    cases h
    exact ⟨[], .refl c, .absent, (fun _ => Bool.eq_false_iff.2 hkey), fun h => by cases h⟩

section Describable

variable {span : Span} {frame : Frame} {c : Cursor} {qs : List Piece}
  {header sign rest : List Char} {comma : Bool}

/-- Behind a description, the gap of a container starts with a line feed. -/
theorem Frame.Records.gap_head? (h : frame.Records p comma span c qs header sign rest)
    (hsign : ∃ d ∈ sign.head?, (Token.Kind.ofChar d).isTrivia = false)
    (hline : ∀ d ∈ c.rest.head?, d = '\n') : (p.text frame.gap).head? = some '\n' := by
  have htoken {text more : List Char}
      (hopens : ∃ d ∈ text.head?, (Token.Kind.ofChar d).isTrivia = false)
      (hrest : c.rest = p.text frame.gap ++ (text ++ more)) :
      (p.text frame.gap).head? = some '\n' := by
    cases hgap : p.text frame.gap with
    | nil =>
      obtain ⟨d, hd, hd'⟩ := hopens
      obtain ⟨text, rfl⟩ := List.head?_eq_some_iff.1 hd
      rw [hgap] at hrest
      obtain rfl := hline d (by rw [hrest]; rfl)
      exact absurd hd' (by decide)
    | cons d gap =>
      rw [hgap] at hrest
      rw [hline d (by rw [hrest]; rfl)]
      rfl
  cases qs with
  | nil => exact htoken hsign (h.ahead_nil rfl)
  | cons q qs =>
    obtain ⟨hopens, text, hrest⟩ := h.ahead_cons q rfl
    exact htoken hopens hrest

/-- Without a description, the first attribute does not look like one. -/
theorem describable_of_records {attributes : List Attribute} {description : Option String}
    (h : frame.Records p comma span c (p.attributePieces attributes ++ qs) header sign rest)
    (hsound : AllSound p attributes) (hintact : allIntact p attributes = true)
    (hkey : description = none → c.seesKey "description" .equals = false) :
    Describable description attributes = true := by
  cases description with
  | some d => rfl
  | none =>
    cases attributes with
    | nil => rfl
    | cons a as =>
      rw [allIntact, Bool.and_eq_true] at hintact
      obtain ⟨-, text, hrest⟩ := h.ahead_cons ⟨a.layout, p.attributeText a⟩ rfl
      have hspells := Attribute.Sound.spells a hsound.1.2 hintact.1
      obtain ⟨n, rest⟩ := c
      obtain rfl : rest = p.text frame.gap ++ (p.attributeText a ++ text) := hrest
      have hkey := hkey rfl
      rw [hspells.seesKey h.frames.gap, Bool.and_eq_false_iff, Bool.not_eq_false',
        beq_eq_false_iff_ne] at hkey
      obtain ⟨name, value, layout, frame⟩ := a
      cases value with
      | flag => simp [Describable, Attribute.isFlag]
      | values | block =>
        simpa [Describable, Attribute.isFlag, Attribute.detach, AttributeValue.detach] using hkey

end Describable

/-! ### Bodies -/

/-- The body was read behind the text `before` of its definition, with its frame and span. -/
structure Body.Records (p : Printer) (type : String) (b : Body) (frame : Frame) (span : Span)
    (before : List Char) : Prop where
  sound : b.Sound p type
  intact : b.intact p = true
  placed : b.Placed p
  frames : ∃ opening c rest, b.Opening opening ∧
    frame.Records p (Printer.bodyStyle b).comma span c (p.bodyPieces b) (before ++ opening) b.sign
      rest ∧
    (b.description.isSome → ∀ d ∈ c.rest.head?, d = '\n')

section Bodies

variable {c₀ c c' : Cursor} {lead before : List Char} {start : Nat} {frame : Frame}

/-- A block that was read behind the text `before`. -/
theorem Block.read_records {b : Block} (hat : p.At c₀) (hbefore : c₀.Reads (lead ++ before) c)
    (hstart : start = c₀.offset + byteLength lead) (h : read c = .ok ((b, frame), c')) :
    ∃ a header c₁, IsTrivia a ∧ SpellsDescription b.description header ∧
      frame.Records p false ⟨start, c'.offset⟩ c₁ (p.attributePieces b.attributes)
        (before ++ (a ++ '\x7b' :: header)) ['\x7d'] c'.rest ∧
      (b.description.isSome → ∀ d ∈ c₁.rest.head?, d = '\n') ∧
      AllSound p b.attributes ∧ allIntact p b.attributes = true ∧ AllPlaced p b.attributes ∧
      Describable b.description b.attributes = true ∧ ∃ inner, c.Reads inner c' := by
  obtain ⟨⟨t, c₁⟩, h₁, h⟩ := Except.bind_eq_ok.1 h
  obtain ⟨⟨description, c₂⟩, h₂, h⟩ := Except.bind_eq_ok.1 h
  obtain ⟨⟨⟨attributes, frame⟩, c₃⟩, h₃, h⟩ := Except.bind_eq_ok.1 h
  cases h
  obtain ⟨a, ha, -, hopen⟩ := Cursor.reads_of_expect h₁ (s := '\x7b') rfl
  obtain ⟨header, hdescription⟩ := readDescription_reads h₂
  have hinner := hopen.trans hdescription.reads
  have hheader : c₀.Reads (lead ++ (before ++ (a ++ '\x7b' :: header))) c₂ := by
    simpa using hbefore.trans hinner
  obtain ⟨hrecords, hsound, hintact, hplaced, inner, hreads⟩ :=
    readBlock_records Attribute.read_recovers hat hheader hstart h₃
  refine ⟨a, header, c₂, ha, hdescription.spells, hrecords, hdescription.present, hsound, hintact,
    hplaced, ?_, _, hinner.trans hreads⟩
  rw [← List.append_nil (p.attributePieces attributes)] at hrecords
  exact describable_of_records hrecords hsound hintact hdescription.absent

/-- A group that was read behind the text `before`. -/
theorem Group.read_records {g : Group} {type : String} (hat : p.At c₀)
    (hbefore : c₀.Reads (lead ++ before) c) (hstart : start = c₀.offset + byteLength lead)
    (htype : type = "group" ∨ type = "pathrestriction") (h : read c = .ok ((g, frame), c')) :
    Body.Records p type (.group g) frame ⟨start, c'.offset⟩ before ∧ ∃ inner, c.Reads inner c' := by
  obtain ⟨⟨description, c₁⟩, h₁, h⟩ := Except.bind_eq_ok.1 h
  obtain ⟨⟨⟨items, frame⟩, c₂⟩, h₂, h⟩ := Except.bind_eq_ok.1 h
  cases h
  obtain ⟨header, hdescription⟩ := readDescription_reads h₁
  have hheader : c₀.Reads (lead ++ (before ++ header)) c₁ := by
    simpa using hbefore.trans hdescription.reads
  obtain ⟨hrecords, hsound, inner, hinner⟩ := Element.readUnion_records hat hheader hstart h₂
  exact ⟨⟨⟨htype, hsound⟩, rfl, trivial, header, c₁, c'.rest, ⟨header, hdescription.spells, rfl⟩,
    hrecords, hdescription.present⟩, _, hdescription.reads.trans hinner⟩

end Bodies

/-! ### Services -/

/-- The position behind the items that were read is that of the last one. -/
theorem Tiles.lastFinish_eq {α : Type} {S : Span → List Char → α → Prop} {comma : Bool}
    {previous previous' : Option Nat} {c c' : Cursor} {qs : List Piece}
    {items : List (α × Layout)} (h : Tiles comma previous c qs previous' c')
    (hall : AreItems p S items qs) : Layout.lastFinish previous items = previous' := by
  have hlast : items.getLast?.map (·.2) = qs.getLast?.map (·.layout) := by
    rw [← List.getLast?_map, ← List.getLast?_map, areItems_layouts hall]
  rw [Layout.lastFinish]
  cases hqs : qs.getLast? with
  | none =>
    rw [hqs, Option.map_none, Option.map_eq_none_iff] at hlast
    rw [List.getLast?_eq_none_iff] at hqs
    rw [hlast]
    subst hqs
    cases h
    rfl
  | some q =>
    rw [hqs, Option.map_some, Option.map_eq_some_iff] at hlast
    obtain ⟨x, hx, hlayout⟩ := hlast
    rw [hx, h.finish_eq q hqs, ← hlayout]

namespace Service

theorem readAttribute_recovers :
    p.Recovers readAttribute (Cursor.seesKey · "user" .equals = false) (fun _ => True)
      (fun span t a => Attribute.Stands p span t a ∧ (a.name = "user" → a.isFlag = true)) := by
  intro c a c' hat hkey _ h
  rw [readAttribute] at h
  split at h
  · cases h
  · obtain ⟨trivia, t, htrivia, hopens, hreads, hstands⟩ :=
      Attribute.read_recovers _ _ _ hat trivial trivial h
    refine ⟨trivia, t, htrivia, hopens, hreads, hstands, fun hname => ?_⟩
    obtain ⟨hsound, hintact, htext, -⟩ := hstands ⟨some ⟨c.start, c'.offset⟩, none, none⟩ rfl
    have hspells := Attribute.Sound.spells _ hsound hintact
    rw [htext, Attribute.detach_withLayout] at hspells
    rw [hreads.eq_mk, hspells.seesKey htrivia] at hkey
    obtain ⟨name, value, layout, frame⟩ := a
    obtain rfl : name = "user" := hname
    cases value with
    | flag => rfl
    | values | block => simp [Attribute.isFlag, Attribute.detach, AttributeValue.detach] at hkey

/-- The rules that were read are sound and intact, and their pieces are those of the source. -/
theorem rules_of_areItems {items : List (Rule × Layout)} {qs : List Piece}
    (h : AreItems p (Rule.Stands p) items qs) :
    ((items.map fun x => { x.1 with layout := x.2 }).map
        fun r => (⟨r.layout, p.ruleText r⟩ : Piece)) = qs ∧
      ∀ r ∈ items.map fun x => { x.1 with layout := x.2 },
        r.Sound p ∧ r.intact p = true ∧ r.Placed p := by
  induction h with
  | nil => exact ⟨rfl, by simp⟩
  | @cons x q items qs hx _ ih =>
    obtain ⟨hlayout, span, hspan, -, hstands⟩ := hx
    obtain ⟨hpieces, hrules⟩ := ih
    obtain ⟨r, layout⟩ := x
    obtain rfl : layout = q.layout := hlayout
    obtain ⟨hsound, hintact, htext, hplaced⟩ := hstands q.layout hspan
    exact ⟨by rw [List.map_cons, List.map_cons, hpieces, htext],
      List.forall_mem_cons.2 ⟨⟨hsound, hintact, hplaced⟩, hrules⟩⟩

end Service

section Bodies

variable {c₀ c c' : Cursor} {lead before : List Char} {start : Nat} {frame : Frame}

/-- A service that was read behind the text `before`. -/
theorem Service.read_records {s : Service} (hat : p.At c₀) (hbefore : c₀.Reads (lead ++ before) c)
    (hstart : start = c₀.offset + byteLength lead) (h : read c = .ok ((s, frame), c')) :
    Body.Records p "service" (.service s) frame ⟨start, c'.offset⟩ before ∧
      ∃ inner, c.Reads inner c' := by
  obtain ⟨⟨t, c₁⟩, h₁, h⟩ := Except.bind_eq_ok.1 h
  obtain ⟨⟨description, c₂⟩, h₂, h⟩ := Except.bind_eq_ok.1 h
  obtain ⟨⟨attributes, c₃⟩, h₃, h⟩ := Except.bind_eq_ok.1 h
  obtain ⟨⟨user, c₄⟩, h₄, h⟩ := Except.bind_eq_ok.1 h
  obtain ⟨⟨rules, c₅⟩, h₅, h⟩ := Except.bind_eq_ok.1 h
  obtain ⟨⟨t', c₆⟩, h₆, h⟩ := Except.bind_eq_ok.1 h
  cases h
  obtain ⟨a, ha, -, hopen⟩ := Cursor.reads_of_expect h₁ (s := '\x7b') rfl
  obtain ⟨header, hdescription⟩ := readDescription_reads h₂
  have hinner := hopen.trans hdescription.reads
  have hheader : c₀.Reads (lead ++ (before ++ (a ++ '\x7b' :: header))) c₂ := by
    simpa using hbefore.trans hinner
  have hat₂ := hat.reads hheader
  obtain ⟨qs, previous₃, htiles₃, hall₃⟩ :=
    Layout.readStatements_tiles readAttribute_recovers hat₂ h₃
  obtain ⟨t₃, hreads₃⟩ := htiles₃.reads
  have hat₃ := hat₂.reads hreads₃
  obtain ⟨trivia, t, htrivia, hopens, hreads₄, hrole, hstands⟩ :=
    Union.read_recovers .user _ _ _ hat₃ trivial trivial h₄
  rw [htiles₃.lastFinish_eq hall₃] at h₅ ⊢
  obtain ⟨rs, previous₅, htiles₅, hall₅⟩ :=
    Layout.readStatements_tiles Rule.read_recovers (hat₃.reads hreads₄) h₅
  obtain ⟨husers, husersIntact, husersText, husersPlaced⟩ :=
    hstands (.placed previous₃ c₃.start c₄.offset c₄.tail?) rfl
  have htiles := htiles₃.append (.cons htrivia hopens hreads₄ (.tail c₄) (fun hc => by cases hc)
    htiles₅)
  obtain ⟨b, hb, -, hclose⟩ := Cursor.reads_of_expect h₆ (s := '\x7d') rfl
  obtain ⟨hrecords, inner, hreads⟩ := htiles.records hat hheader hstart hb (by decide) hclose
  have hstands₃ : AreItems p (Attribute.Stands p) attributes qs :=
    hall₃.imp fun x q ⟨hlayout, span, hspan, htext, hS⟩ => ⟨hlayout, span, hspan, htext, hS.1⟩
  obtain ⟨hpieces₃, hsound₃, hintact₃, hplaced₃⟩ := Printer.attributes_of_areItems hstands₃
    fun q hq => hrecords.fits q (List.mem_append_left _ hq)
  obtain ⟨hpieces₅, hrules⟩ := rules_of_areItems hall₅
  have hnames : ∀ x ∈ attributes, x.1.name = "user" → x.1.isFlag = true :=
    forall_of_forall₂ (fun x q ⟨_, span, _, _, hS⟩ => hS.2) hall₃
  generalize hlayout : Layout.placed previous₃ c₃.start c₄.offset c₄.tail? = layout at *
  have hlayouts : attributes.map (·.2) ++ layout :: rules.map (·.2) =
      (qs ++ ⟨layout, t⟩ :: rs).map (·.layout) := by
    rw [List.map_append, List.map_cons, areItems_layouts hall₃, areItems_layouts hall₅]
  have hdescribable : Describable description _ = true :=
    describable_of_records (by rwa [← hpieces₃] at hrecords) hsound₃ hintact₃ hdescription.absent
  have hfits := hrecords.fits
  simp only [List.forall_mem_append, List.forall_mem_cons] at hfits
  have hruleFits : ∀ r ∈ rules.map fun x => { x.1 with layout := x.2 }, r.layout.Fits p false := by
    intro r hr
    refine hfits.2.2 ⟨r.layout, p.ruleText r⟩ ?_
    rw [← hpieces₅]
    exact List.mem_map_of_mem hr
  have hentries : ∀ a ∈ attributes.map fun x => { x.1 with layout := x.2 },
      a.name = "user" → a.isFlag = true := by
    intro a ha
    obtain ⟨x, hx, rfl⟩ := List.mem_map.1 ha
    exact hnames x hx
  refine ⟨⟨⟨rfl, ⟨hsound₃, hentries, husers, hfits.2.1, hrole,
      fun r hr => ⟨hruleFits r hr, (hrules r hr).1⟩⟩⟩, ?_,
    ⟨hplaced₃, husersPlaced, fun r hr => (hrules r hr).2.2⟩, a ++ '\x7b' :: header, c₂, c'.rest,
    ⟨header, hdescription.spells, a, ha, rfl⟩, ?_, hdescription.present⟩, _, hinner.trans hreads⟩
  · simp only [Body.intact, Service.intact, hintact₃, husersIntact, hdescribable, Bool.and_true,
      Bool.true_and, List.all_eq_true]
    exact fun r hr => (hrules r hr).2.1
  · dsimp only
    rw [hlayouts, Printer.bodyPieces, hpieces₃, hpieces₅, Printer.unionPiece, husersText]
    exact hrecords

/-- A body that was read behind the text `before`. -/
theorem Body.read_records {type : String} {b : Body} (hat : p.At c₀)
    (hbefore : c₀.Reads (lead ++ before) c) (hstart : start = c₀.offset + byteLength lead)
    (h : read type c = .ok ((b, frame), c')) :
    Body.Records p type b frame ⟨start, c'.offset⟩ before ∧ ∃ inner, c.Reads inner c' := by
  rw [read] at h
  split at h
  · next htype =>
    obtain ⟨⟨⟨g, frame⟩, c₁⟩, h₁, h⟩ := Except.bind_eq_ok.1 h
    cases h
    exact Group.read_records hat hbefore hstart htype h₁
  · next hgroup =>
    split at h
    · next htype =>
      obtain ⟨⟨⟨s, frame⟩, c₁⟩, h₁, h⟩ := Except.bind_eq_ok.1 h
      cases h
      exact htype ▸ Service.read_records hat hbefore hstart h₁
    · next hservice =>
      split at h
      · next htype =>
        obtain ⟨⟨⟨block, frame⟩, c₁⟩, h₁, h⟩ := Except.bind_eq_ok.1 h
        cases h
        obtain ⟨a, header, c₂, ha, hheader, hrecords, hline, hsound, hintact, hplaced, hdescribable,
          hinner⟩ := Block.read_records hat hbefore hstart h₁
        exact ⟨⟨⟨htype, hsound⟩, by rw [intact, hintact, hdescribable, Bool.and_self], hplaced,
          a ++ '\x7b' :: header, c₂, c'.rest, ⟨header, hheader, a, ha, rfl⟩, hrecords, hline⟩,
          hinner⟩
      · next hnetwork =>
        split at h
        · obtain ⟨⟨⟨block, frame⟩, c₁⟩, h₁, h⟩ := Except.bind_eq_ok.1 h
          cases h
          obtain ⟨a, header, c₂, ha, hheader, hrecords, hline, hsound, hintact, hplaced,
            hdescribable, hinner⟩ := Block.read_records hat hbefore hstart h₁
          exact ⟨⟨⟨⟨hgroup, hservice, hnetwork⟩, hsound⟩,
            by rw [intact, hintact, hdescribable, Bool.and_self], hplaced, a ++ '\x7b' :: header,
            c₂, c'.rest, ⟨header, hheader, a, ha, rfl⟩, hrecords, hline⟩, hinner⟩
        · obtain ⟨⟨⟨values, frame⟩, c₁⟩, h₁, h⟩ := Except.bind_eq_ok.1 h
          cases h
          obtain ⟨hrecords, hsound, hinner⟩ := Value.readList_records hat hbefore hstart h₁
          exact ⟨⟨⟨⟨hgroup, hservice, hnetwork⟩, hsound⟩, rfl, trivial, [], c, c'.rest,
            ⟨[], .absent, rfl⟩, (List.append_nil before).symm ▸ hrecords, fun h => by cases h⟩,
            hinner⟩

end Bodies

/-! ### Definitions -/

namespace Definition

/-- The definition was read over a span of the source with the text `t`. -/
def Stands (p : Printer) (span : Span) (t : List Char) (d : Definition) : Prop :=
  ∀ layout : Layout, layout.span = some span → Definition.Sound p { d with layout } ∧
    Definition.intact p { d with layout } = true ∧ p.definitionText { d with layout } = t ∧
    Definition.Placed p { d with layout }

/-- A definition with a recorded body stands in the source. -/
theorem stands_of_records {w trivia : List Char} {type : String} {body : Body} {frame : Frame}
    {span : Span} (hw : IsWord w) (htype : definitionType? (String.ofList w) = some type)
    (htrivia : IsTrivia trivia)
    (h : Body.Records p type body frame span (w ++ (trivia ++ ['=']))) :
    Stands p span (p.text span) { name := String.ofList w, body, frame := some frame } := by
  rintro ⟨_, lead, sep⟩ ⟨⟩
  have hname : (String.ofList w).toList = w := String.toList_ofList
  obtain ⟨opening, c, rest, hopening, hrecords, hline⟩ := h.frames
  have hjoined := hrecords.joined (Printer.bodyStyle body) rfl
  have hgap : body.description.isSome → (p.text frame.gap).head? = some '\n' := fun hsome => by
    refine hrecords.gap_head? ?_ (hline hsome)
    rw [Body.sign]
    split
    · exact ⟨'\x7d', rfl, rfl⟩
    · exact ⟨';', rfl, rfl⟩
  refine ⟨⟨hname.symm ▸ hw, ⟨type, htype, h.sound⟩, ?_⟩, ?_, ?_,
    hrecords.seats, h.placed⟩
  · refine
      { frames := ⟨w ++ (trivia ++ ['=']) ++ opening, ⟨trivia, opening, htrivia, hopening, ?_⟩,
          hrecords.frames⟩
        gap := hgap
        line := fun hsome => ?_
        empty := fun hempty => ?_ }
    · simp [hname]
    · obtain ⟨text, htext⟩ := hrecords.text_eq
      obtain ⟨gap, heq⟩ := List.head?_eq_some_iff.1 (hgap hsome)
      rw [htext, heq]
      simp
    · rw [hrecords.wasEmpty_eq, List.isEmpty_iff] at hempty
      rw [hempty]
      simp
  · simp only [intact, h.intact, hjoined, Bool.or_true, Bool.and_self]
  · simp only [Printer.definitionText, hrecords.seats.count_eq, lt_irrefl, decide_false,
      Bool.and_false, Bool.false_eq_true, if_false]
    exact hrecords.framed_eq (Printer.bodyStyle body) rfl

/-- A definition that was read stands in the source. -/
theorem read_recovers : p.Recovers read (fun _ => True) (fun _ => True) (Stands p) := by
  intro c d c' hat _ _ h
  obtain ⟨⟨word, c₁⟩, h₁, h⟩ := Except.bind_eq_ok.1 h
  obtain ⟨lead, w, hlead, hw, -, hword, hstart, hreads⟩ := Cursor.reads_of_expectWord h₁
  simp only [hword] at h
  split at h
  · cases h
  · next type htype =>
    obtain ⟨⟨t, c₂⟩, h₂, h⟩ := Except.bind_eq_ok.1 h
    obtain ⟨⟨⟨body, frame⟩, c₃⟩, h₃, h⟩ := Except.bind_eq_ok.1 h
    cases h
    obtain ⟨trivia, htrivia, -, hreads'⟩ := Cursor.reads_of_expect h₂ (s := '=') rfl
    have hbefore : c.Reads (lead ++ (w ++ (trivia ++ ['=']))) c₂ := by
      simpa using hreads.trans hreads'
    obtain ⟨hrecords, inner, hinner⟩ := Body.read_records hat hbefore hstart h₃
    have hall : c.Reads (lead ++ (w ++ (trivia ++ '=' :: inner))) c₃ := by
      simpa using hbefore.trans hinner
    refine ⟨lead, _, hlead, hw.opens, hall, ?_⟩
    rw [← (hat.text_start hlead hw.opens hall).2]
    exact stands_of_records hw htype htrivia hrecords

end Definition

/-! ### Files -/

/-- Statements without separators are printed in their places. -/
theorem Printer.furtherDefinitions_eq {qs : List Piece} (hseps : ∀ q ∈ qs, q.layout.sep = none)
    (hleads : ∀ q ∈ qs, q.layout.lead.isSome) : p.furtherDefinitions qs = qs.flatMap p.place := by
  refine List.flatMap_congr fun q hq => ?_
  obtain ⟨lead, hlead⟩ := Option.isSome_iff_exists.1 (hleads q hq)
  rw [Printer.lead, place, hseps q hq, hlead]
  simp [textOf]

/-- Definitions without separators, of which the first one has no lead, are printed in their
places. -/
theorem Printer.definitions_eq {q : Piece} {qs : List Piece} (hlead : q.layout.lead = none)
    (hsep : q.layout.sep = none) (hseps : ∀ r ∈ qs, r.layout.sep = none)
    (hleads : ∀ r ∈ qs, r.layout.lead.isSome) :
    p.definitions p.frontLead (q :: qs) = (q :: qs).flatMap p.place := by
  have hfront : p.frontLead q = [] := by
    rw [Printer.frontLead, hlead]
    rfl
  rw [Printer.definitions, hfront, furtherDefinitions_eq hseps hleads, List.flatMap_cons, place,
    hlead, hsep]
  simp [textOf]

/-- The frame of a file around its definitions `qs`: the gap in front of them, their places and the
text behind them make up the source. -/
structure Frame.Wraps (p : Printer) (frame : Frame) (qs : List Piece) : Prop where
  gap_quiet : isQuiet false (p.text frame.gap) = true
  footer_quiet : isQuiet false (suffix frame.closeStart p.source) = true
  text_eq : p.text frame.gap ++ (qs.flatMap p.place ++ suffix frame.closeStart p.source) = p.source
  front : if qs = [] then p.text frame.gap = p.source
    else commentAfter false (p.text frame.gap) = false
  head : ∀ q ∈ qs.head?, q.layout.lead = none
  tail : ∀ q ∈ qs.tail, q.layout.lead.isSome
  fits : ∀ q ∈ qs, q.layout.Fits p false
  texts : ∀ q ∈ qs, q.text ≠ []
  placed : p.Placed (byteLength (p.text frame.gap)) qs
  ofLayouts_eq : ∃ terminator, frame = .ofLayouts 0 terminator false (qs.map (·.layout))

/-- A source without definitions is as a whole the gap of its frame. -/
theorem Frame.wraps_nil (h : kindAhead? p.source = none) :
    (Frame.ofLayouts 0 (Cursor.ofText p.source).start false []).Wraps p [] := by
  obtain ⟨hquiet, htrivia⟩ := isQuiet_of_kindAhead h
  have hat : p.At (.ofText p.source) := ⟨[], rfl, rfl⟩
  have hstart : (Cursor.ofText p.source).start = byteLength p.source := by
    simp only [Cursor.start, Cursor.skipTrivia, Cursor.advance, Cursor.ofText]
    rw [htrivia, Nat.zero_add]
  have hgap : p.text ⟨0, (Cursor.ofText p.source).start⟩ = p.source :=
    hat.text_eq (a := []) (b := []) (by simp [Cursor.ofText]) rfl (by rw [hstart, Nat.zero_add])
  have hfooter : suffix (Cursor.ofText p.source).start p.source = [] := by
    rw [hstart]
    simpa using suffix_append p.source []
  exact
    { gap_quiet := hgap.symm ▸ hquiet
      footer_quiet := hfooter.symm ▸ rfl
      text_eq := (congrArg₂ (· ++ ·) hgap hfooter).trans (List.append_nil _)
      front := hgap
      head := by simp
      tail := by simp
      fits := by simp
      texts := by simp
      placed := trivial
      ofLayouts_eq := ⟨_, rfl⟩ }

/-- The frame that is recorded for definitions that were read up to the end of the source. -/
theorem Tiles.wraps {qs : List Piece} {previous : Option Nat} {c : Cursor}
    (h : Tiles false none (.ofText p.source) qs previous c)
    (hprevious : previous.getD c.offset = c.offset) (hend : kindAhead? c.rest = none) :
    (Frame.ofLayouts 0 c.start false (qs.map (·.layout))).Wraps p qs := by
  cases qs with
  | nil =>
    cases h
    exact Frame.wraps_nil hend
  | cons q qs =>
    have hat : p.At (.ofText p.source) := ⟨[], rfl, rfl⟩
    obtain ⟨skipped, gap, text, hout⟩ := h.laidOut (.inl rfl) hat (CutsOff.here hprevious)
    obtain rfl : skipped = [] := hout.skipped_eq_nil rfl
    have hsource : p.source = gap ++ (text ++ c.rest) := hout.rest_eq
    obtain ⟨hlead, hstart⟩ := hout.head q rfl
    rw [Option.map_none] at hlead
    rw [hlead, List.nil_append, Printer.textOf, List.append_nil] at hstart
    obtain ⟨last, hlast⟩ : ∃ last, (q :: qs).getLast? = some last := ⟨_, List.getLast?_cons⟩
    have hfinish : last.layout.finish = byteLength (gap ++ text) := by
      have hstop := hout.stop _ (h.finish_eq last hlast)
      simpa [Cursor.ofText] using hstop
    have hgap : p.text ⟨0, q.layout.start⟩ = gap :=
      hat.text_eq (a := []) hsource rfl hstart
    have hfooter : suffix last.layout.finish p.source = c.rest := by
      rw [hfinish, hsource, ← List.append_assoc, suffix_append]
    have hplaced := hout.placed
    rw [List.nil_append] at hplaced
    rw [Frame.ofLayouts_cons 0 c.start false hlast]
    exact
      { gap_quiet := hgap.symm ▸ hout.gap_isTrivia.quiet
        footer_quiet := hfooter.symm ▸ (isQuiet_of_kindAhead hend).1
        text_eq := by
          rw [Frame.gap, hgap, hfooter, ← hout.laid.text_eq]
          exact hsource.symm
        front := by
          rw [if_neg (List.cons_ne_nil _ _), Frame.gap, hgap]
          exact hout.gap_isTrivia.closed
        head := by simpa using hlead
        tail := hout.tail
        fits := hout.laid.fits
        texts := hout.laid.text_ne_nil
        placed := by
          rw [Frame.gap, hgap]
          simpa [Cursor.ofText] using hplaced
        ofLayouts_eq := ⟨c.start, (Frame.ofLayouts_cons 0 c.start false hlast).symm⟩ }

namespace Forest

/-- Definitions that were read up to the end of the text. -/
theorem readDefinitions_tiles {limit : Nat} {previous : Option Nat} {c c' : Cursor}
    {ds : List Definition} (hat : p.At c) (hlimit : c.rest.length < limit)
    (hprevious : previous.getD c.offset = c.offset)
    (h : readDefinitions limit previous c = .ok (ds, c')) :
    (∃ previous', Tiles false previous c (ds.map p.definitionPiece) previous' c' ∧
        previous'.getD c'.offset = c'.offset) ∧
      c'.atEnd = true ∧
      ∀ d ∈ ds, d.Sound p ∧ d.intact p = true ∧ d.Placed p ∧ d.layout.sep = none ∧
        d.layout.span.isSome := by
  induction limit generalizing previous c ds with
  | zero => omega
  | succ limit ih =>
    rw [readDefinitions] at h
    split at h
    · next hend =>
      cases h
      exact ⟨⟨previous, .nil _ _, hprevious⟩, hend, by simp⟩
    · obtain ⟨⟨d, c₁⟩, h₁, h⟩ := Except.bind_eq_ok.1 h
      obtain ⟨⟨ds, c₂⟩, h₂, h⟩ := Except.bind_eq_ok.1 h
      cases h
      obtain ⟨trivia, t, htrivia, hopens, hreads, hstands⟩ :=
        Definition.read_recovers _ _ _ hat trivial trivial h₁
      obtain ⟨hsound, hintact, htext, hplaced⟩ := hstands (.placed previous c.start c₁.offset) rfl
      have hlength : c₁.rest.length < limit := by
        obtain ⟨d, hd, -⟩ := hopens
        obtain ⟨t, rfl⟩ := List.head?_eq_some_iff.1 hd
        have := congrArg List.length hreads.rest
        simp only [List.length_append, List.length_cons] at this
        omega
      obtain ⟨⟨previous', htiles, hfinish⟩, hend, hds⟩ :=
        ih (hat.reads hreads) hlength rfl h₂
      refine ⟨⟨previous', ?_, hfinish⟩, hend,
        List.forall_mem_cons.2 ⟨⟨hsound, hintact, hplaced, rfl, rfl⟩, hds⟩⟩
      exact (Tiles.single
        (q := p.definitionPiece { d with layout := .placed previous c.start c₁.offset }) htrivia
        (by rwa [Printer.definitionPiece, htext])
        (by rwa [Printer.definitionPiece, htext]) rfl).append htiles

/-- What is known about a file that was read. -/
structure Stands (p : Printer) (f : Forest) : Prop where
  sound : f.Sound p
  intact : f.intact p = true
  text_eq : p.forestText f = p.source
  spans : ∀ d ∈ f.definitions, d.layout.span.isSome
  front : ∃ frame, f.frame = some frame ∧
    if f.definitions = [] then p.text frame.gap = p.source
    else commentAfter false (p.text frame.gap) = false
  placed : ∃ frame, f.Placed p frame

/-- Definitions with the layouts of a file that was read are printed in their places. -/
theorem forestText_eq {f : Forest} {frame : Frame} (hframe : f.frame = some frame)
    (hmem : ∀ l ∈ f.definitions.map (·.layout), l.sep = none ∧ l.span.isSome)
    (hhead : ∀ l ∈ (f.definitions.map (·.layout)).head?, l.lead = none)
    (htail : ∀ l ∈ (f.definitions.map (·.layout)).tail, l.lead.isSome) :
    p.forestText f = p.text frame.gap ++
      ((f.definitions.map p.definitionPiece).flatMap p.place ++
        suffix frame.closeStart p.source) := by
  rw [Printer.forestText, hframe]
  simp only [List.forall_mem_map] at hmem
  have hfooter : p.footer frame (f.definitions.map p.definitionPiece) =
      suffix frame.closeStart p.source := by
    rw [Printer.footer, List.getLast?_map]
    cases hlast : f.definitions.getLast? with
    | none => rfl
    | some d =>
      obtain ⟨span, hspan⟩ := Option.isSome_iff_exists.1 (hmem d (List.mem_of_getLast? hlast)).2
      simp [Printer.definitionPiece, Layout.isSynthesized, hspan]
  dsimp only
  rw [hfooter]
  cases hds : f.definitions with
  | nil => exact List.append_assoc _ _ _
  | cons d ds =>
    rw [hds, List.forall_mem_cons] at hmem
    rw [hds] at hhead htail
    have hlead : d.layout.lead = none := hhead _ rfl
    have hprinted : p.definitions p.frontLead ((d :: ds).map p.definitionPiece) =
        ((d :: ds).map p.definitionPiece).flatMap p.place := by
      refine Printer.definitions_eq (q := p.definitionPiece d) hlead hmem.1.1 ?_ ?_
      · exact List.forall_mem_map.2 fun d hd => (hmem.2 d hd).1
      · exact List.forall_mem_map.2 fun d hd => htail _ (List.mem_map_of_mem hd)
    rw [hprinted, List.append_assoc]

/-- Definitions with the frame of the source make up the source. -/
theorem stands_of_wraps {ds : List Definition} {frame : Frame}
    (h : frame.Wraps p (ds.map p.definitionPiece))
    (hds : ∀ d ∈ ds, d.Sound p ∧ d.intact p = true ∧ d.Placed p ∧ d.layout.sep = none ∧
      d.layout.span.isSome) : Stands p ⟨ds, some frame⟩ := by
  have hlayouts : ds.map (·.layout) = (ds.map p.definitionPiece).map (·.layout) := by
    rw [List.map_map]
    rfl
  have hprinted (es : List Definition) (hes : es.map (·.layout) = ds.map (·.layout)) :
      p.forestText ⟨es, some frame⟩ = p.text frame.gap ++
        ((es.map p.definitionPiece).flatMap p.place ++ suffix frame.closeStart p.source) := by
    have hprint := forestText_eq (p := p) (f := ⟨es, some frame⟩) rfl
    rw [hes] at hprint
    refine hprint (List.forall_mem_map.2 fun d hd => (hds d hd).2.2.2) ?_ ?_ <;> rw [hlayouts]
    · simpa using h.head
    · rw [← List.map_tail]
      exact List.forall_mem_map.2 h.tail
  refine
    { sound :=
        { definitions := fun d hd =>
            ⟨(h.fits _ (List.mem_map_of_mem hd)).lead, (hds d hd).1⟩
          gap := by
            rintro _ ⟨⟩
            exact h.gap_quiet
          footer := by
            rintro _ ⟨⟩
            exact h.footer_quiet }
      intact := ?_
      text_eq := (hprinted ds rfl).trans h.text_eq
      spans := fun d hd => (hds d hd).2.2.2.2
      front := ⟨frame, rfl, by simpa using h.front⟩
      placed := ⟨frame, rfl, h.placed, hprinted, fun d hd => (hds d hd).2.2.1⟩ }
  rw [intact, Bool.and_eq_true, List.all_eq_true]
  refine ⟨fun d hd => (hds d hd).2.1, ?_⟩
  cases ds with
  | nil => rfl
  | cons d ds =>
    have hlead : d.layout.lead = none := h.head _ rfl
    have hfront : p.frontLead (p.definitionPiece d) = [] := by
      rw [Printer.frontLead, Printer.definitionPiece, hlead]
      rfl
    have hclosed : commentAfter false (p.text frame.gap) = false := by simpa using h.front
    dsimp only
    rw [hfront, List.append_nil, hclosed, Bool.not_false]

/-- The frame of a file that was read wraps its definitions. -/
theorem parse_wraps {f : Forest} (h : parse p.source = .ok f) :
    ∃ frame, f.frame = some frame ∧ frame.Wraps p (f.definitions.map p.definitionPiece) ∧
      ∀ d ∈ f.definitions, d.Sound p ∧ d.intact p = true ∧ d.Placed p ∧ d.layout.sep = none ∧
        d.layout.span.isSome := by
  obtain ⟨⟨ds, c⟩, h₁, h⟩ := Except.bind_eq_ok.1 h
  cases h
  have hat : p.At (.ofText p.source) := ⟨[], rfl, rfl⟩
  obtain ⟨⟨previous', htiles, hprevious⟩, hend, hds⟩ :=
    readDefinitions_tiles hat (Nat.lt_succ_self _) rfl h₁
  have hwraps := htiles.wraps hprevious (Cursor.atEnd_iff.1 hend)
  rw [List.map_map] at hwraps
  exact ⟨_, rfl, hwraps, hds⟩

/-- A file that was read is sound and intact, and its text is the source. -/
theorem parse_stands {f : Forest} (h : parse p.source = .ok f) : f.Stands p := by
  obtain ⟨frame, hframe, hwraps, hds⟩ := parse_wraps h
  obtain ⟨ds, _⟩ := f
  cases hframe
  exact stands_of_wraps hwraps hds

/-- A text that is accepted consists of texts of its definitions, with blanks and comments behind
them. -/
theorem strung_of_parse {text : List Char} {f : Forest} (h : parse text = .ok f) :
    ∃ ts body rest, text = body ++ rest ∧ isQuiet false rest = true ∧ Strung ts body ∧
      List.Forall₂ Definition.Spells ts f.content := by
  obtain ⟨hsound, hintact, htext, hspans⟩ := parse_stands h (p := { source := text })
  obtain ⟨ts, body, rest, hbody, hrest, hstrung, hspells⟩ := hsound.strung hintact
  have hprinted : f.definitions.map Definition.printed = f.content :=
    List.map_congr_left fun d hd => if_pos (hspans d hd)
  rw [hprinted] at hspells
  exact ⟨ts, body, rest, htext.symm.trans hbody, hrest, hstrung, hspells⟩

end Forest

end PolicyEditor
