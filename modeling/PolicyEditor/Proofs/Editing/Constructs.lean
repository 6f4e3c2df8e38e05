import PolicyEditor.Proofs.Weight.Reparsing

/-!
# Constructs and what is in them

The values, elements, attributes, unions, rules and definitions of a file are its constructs.  A
construct has a list of items, which are constructs again.  Another list of items may take its
place, while the construct keeps its name, its layout and its frame.  If a construct of a file that
was read is exchanged for one of the same layout, then the text of the file is as before in front of
it and behind it, however deep it lies in the file.

## Main definitions

* `Construct` : the constructs of a file, with their items, their texts and their pieces.
* `Construct.Refills` : another list of items takes the place of the items of a construct.
* `Construct.Swaps`, `Forest.Swaps` : one construct is exchanged, at any depth.
* `Construct.Stands` : a construct that was read.

## Main results

* `Construct.Stands.items` : the items of a construct that was read were read.
* `Construct.Stands.closed` : the text of a construct does not end in a comment.
* `Forest.Swaps.around` : exchanging a construct does not change the text around it.
-/

namespace PolicyEditor

open Text

/-- A construct of a policy file. -/
inductive Construct where
  | value (v : Value)
  | member (e : Member)
  | attr (a : Attribute)
  | union (u : Union)
  | rule (r : Rule)
  | definition (d : Definition)

namespace Construct

/-! ### Items and texts -/

def layout : Construct → Layout
  | value v => v.layout
  | member e => e.layout
  | attr a => a.layout
  | union u => u.layout
  | rule r => r.layout
  | definition d => d.layout

/-- The frame of a construct that has items. -/
def frame : Construct → Option Frame
  | value _ | member _ => none
  | attr a => a.frame
  | union u => u.frame
  | rule r => r.frame
  | definition d => d.frame

/-- The items of a body. -/
def bodyItems : Body → List Construct
  | .struct block | .network block => block.attributes.map attr
  | .group group => group.elements.map member
  | .protocol values => values.map value
  | .service service =>
    service.attributes.map attr ++ union service.user :: service.rules.map rule

/-- The items of a construct. -/
def items : Construct → List Construct
  | value _ | member _ => []
  | attr ⟨_, .flag, _, _⟩ => []
  | attr ⟨_, .values values, _, _⟩ => values.map value
  | attr ⟨_, .block attributes, _, _⟩ => attributes.map attr
  | union u => u.elements.map member
  | rule r => [union r.src, union r.dst, attr r.prt] ++ r.log.toList.map attr
  | definition d => bodyItems d.body

/-- How the items of a construct are separated. -/
def style : Construct → ListStyle
  | value _ | member _ | rule _ => .statements
  | attr a => a.style
  | union _ => .values
  | definition d => Printer.bodyStyle d.body

variable (p : Printer)

/-- The printed text of a construct. -/
def text : Construct → List Char
  | value v => p.item String.toList v
  | member e => p.item Element.chars e
  | attr a => p.attributeText a
  | union u => p.unionText u
  | rule r => p.ruleText r
  | definition d => p.definitionText d

/-- The piece of a construct. -/
def piece (n : Construct) : Piece :=
  ⟨n.layout, n.text p⟩

/-- The pieces of the items of a construct. -/
def pieces (n : Construct) : List Piece :=
  n.items.map (piece p)

/-- The construct is a definition on one line that has more items than before. -/
def unfolds (span : Span) (frame : Frame) : Construct → Bool
  | definition d => d.unfolds p span frame
  | _ => false

@[simp] theorem map_value (values : List Value) :
    (values.map value).map (piece p) = p.values values :=
  List.map_map ..

@[simp] theorem map_member (elements : List Member) :
    (elements.map member).map (piece p) = p.members elements :=
  List.map_map ..

@[simp] theorem map_attr (attributes : List Attribute) :
    (attributes.map attr).map (piece p) = p.attributePieces attributes := by
  rw [Printer.attributePieces_eq_map]
  exact List.map_map ..

@[simp] theorem map_rule (rules : List Rule) :
    (rules.map rule).map (piece p) = rules.map fun r => ⟨r.layout, p.ruleText r⟩ :=
  List.map_map ..

theorem pieces_attr (a : Attribute) : (attr a).pieces p = a.pieces p := by
  obtain ⟨name, - | values | attributes, layout, frame⟩ := a
  · rfl
  · exact map_value p values
  · exact map_attr p attributes

theorem pieces_union (u : Union) : (union u).pieces p = p.members u.elements :=
  map_member p u.elements

theorem pieces_rule (r : Rule) : (rule r).pieces p = p.rulePieces r := by
  simp only [pieces, items, List.map_append, List.map_map]
  rfl

theorem pieces_definition (d : Definition) : (definition d).pieces p = p.bodyPieces d.body := by
  obtain ⟨name, b | b | g | values | s, layout, frame⟩ := d
  · exact map_attr p b.attributes
  · exact map_attr p b.attributes
  · exact map_member p g.elements
  · exact map_value p values
  · simp only [pieces, items, bodyItems, List.map_append, List.map_cons, map_attr, map_rule]
    rfl

/-! ### Other items -/

end Construct

/-- Another list of items takes the place of the items of a body, which keeps its description. -/
inductive Body.Refills : Body → Body → Prop
  | struct (description : Option String) (attributes attributes' : List Attribute) :
    Refills (.struct ⟨description, attributes⟩) (.struct ⟨description, attributes'⟩)
  | network (description : Option String) (attributes attributes' : List Attribute) :
    Refills (.network ⟨description, attributes⟩) (.network ⟨description, attributes'⟩)
  | group (description : Option String) (elements elements' : List Member) :
    Refills (.group ⟨description, elements⟩) (.group ⟨description, elements'⟩)
  | protocol (values values' : List Value) : Refills (.protocol values) (.protocol values')
  | service (s : Service) (attributes : List Attribute) (user : Union) (rules : List Rule) :
    Refills (.service s) (.service { s with attributes, user, rules })

namespace Body.Refills

variable {b b' : Body}

theorem symm (h : b.Refills b') : b'.Refills b := by
  cases h <;> constructor

theorem refl_left (h : b.Refills b') : b.Refills b := by
  cases h <;> constructor

theorem style_eq (h : b.Refills b') : Printer.bodyStyle b' = Printer.bodyStyle b := by
  cases h <;> rfl

end Body.Refills

namespace Construct

/-- Another list of items takes the place of the items of a construct, which keeps everything
else. -/
inductive Refills : Construct → Construct → Prop
  | values (name : String) (values values' : List Value) (layout : Layout) (frame : Option Frame) :
    Refills (attr ⟨name, .values values, layout, frame⟩)
      (attr ⟨name, .values values', layout, frame⟩)
  | block (name : String) (attributes attributes' : List Attribute) (layout : Layout)
    (frame : Option Frame) : Refills (attr ⟨name, .block attributes, layout, frame⟩)
      (attr ⟨name, .block attributes', layout, frame⟩)
  | union (u : Union) (elements : List Member) : Refills (union u) (union { u with elements })
  | rule (r : Rule) (src dst : Union) (prt : Attribute) (log : Option Attribute) :
    Refills (rule r) (rule { r with src, dst, prt, log })
  | definition (d : Definition) {body : Body} (h : d.body.Refills body) :
    Refills (definition d) (definition { d with body })

/-- The construct `n'` is the construct `n` with the construct `m` in it exchanged for `m'`. -/
inductive Swaps (m m' : Construct) : Construct → Construct → Prop
  | here : Swaps m m' m m'
  | inside {n n' k k' : Construct} {before behind : List Construct} (h : n.Refills n')
    (hitems : n.items = before ++ k :: behind) (hitems' : n'.items = before ++ k' :: behind)
    (hswaps : Swaps m m' k k') : Swaps m m' n n'

end Construct

/-- The file `g` is the file `f` with the construct `m` in it exchanged for `m'`. -/
inductive Forest.Swaps (m m' : Construct) (f : Forest) : Forest → Prop
  | mk {before behind : List Definition} {d d' : Definition}
    (h : f.definitions = before ++ d :: behind)
    (hswaps : Construct.Swaps m m' (.definition d) (.definition d')) :
    Swaps m m' f { f with definitions := before ++ d' :: behind }

/-- No comma stands in front of the closing sign of a frame. -/
theorem Frame.Frames.kindAhead?_close_ne {p : Printer} {span : Span} {frame : Frame}
    {header sign : List Char} (h : frame.Frames p span header sign)
    (hsign : kindAhead? sign ≠ some .comma) :
    kindAhead? (p.text (frame.close span)) ≠ some .comma := by
  obtain ⟨closing, htrivia, heq⟩ := h.closing
  rwa [heq, kindAhead?_append htrivia]

namespace Construct

variable {p : Printer} {n n' : Construct}

namespace Refills

theorem symm (h : n.Refills n') : n'.Refills n := by
  cases h with
  | values => exact .values ..
  | block => exact .block ..
  | union => exact .union ..
  | rule => exact .rule ..
  | @definition d body h => exact .definition { d with body } h.symm

theorem refl_left (h : n.Refills n') : n.Refills n := by
  cases h with
  | values => exact .values ..
  | block => exact .block ..
  | union u => exact .union u u.elements
  | rule r => exact .rule r r.src r.dst r.prt r.log
  | definition d h => exact .definition d h.refl_left

theorem layout_eq (h : n.Refills n') : n'.layout = n.layout := by
  cases h <;> rfl

theorem frame_eq (h : n.Refills n') : n'.frame = n.frame := by
  cases h <;> rfl

theorem style_eq (h : n.Refills n') : n'.style = n.style := by
  cases h with
  | definition d h => exact h.style_eq
  | _ => rfl

/-- A construct with items is printed by its frame, unless it is a definition that unfolds. -/
theorem text_eq (h : n.Refills n') {span : Span} {frame : Frame} (hspan : n.layout.span = some span)
    (hframe : n.frame = some frame) (hfolded : n.unfolds p span frame = false) :
    n.text p = p.framed span frame n.style (n.pieces p) := by
  cases h with
  | values name values values' layout frame' | block name values values' layout frame' =>
    obtain rfl : frame' = some frame := hframe
    replace hspan : layout.span = some span := hspan
    simp [pieces_attr, text, style, Printer.attributeText, Printer.framedValue, Attribute.pieces,
      Attribute.style, hspan]
  | union u =>
    replace hspan : u.layout.span = some span := hspan
    replace hframe : u.frame = some frame := hframe
    simp [pieces_union, text, style, Printer.unionText, hspan, hframe]
  | rule r =>
    replace hspan : r.layout.span = some span := hspan
    replace hframe : r.frame = some frame := hframe
    simp [pieces_rule, text, style, Printer.ruleText, hspan, hframe]
  | definition d =>
    replace hspan : d.layout.span = some span := hspan
    replace hframe : d.frame = some frame := hframe
    replace hfolded : d.unfolds p span frame = false := hfolded
    rw [Definition.unfolds] at hfolded
    simp only [pieces_definition, text, style, Printer.definitionText, hspan, hframe, hfolded,
      Bool.false_eq_true, if_false]

end Refills

/-! ### Constructs that were read -/

/-- The construct was read from the source. -/
def Stands (p : Printer) : Construct → Prop
  | value v => Value.Sound p v
  | member e => Member.Sound p e
  | attr a => a.Sound p ∧ a.intact p = true ∧ a.Placed p
  | union u => u.Sound p ∧ u.intact p = true ∧ u.Placed p
  | rule r => r.Sound p ∧ r.intact p = true ∧ r.Placed p
  | definition d => d.Sound p ∧ d.intact p = true ∧ d.Placed p

/-- The attributes of a block that was read were read. -/
theorem Stands.attributes {as : List Attribute} (hsound : AllSound p as)
    (hintact : allIntact p as = true) (hplaced : AllPlaced p as) :
    ∀ m ∈ as.map attr, m.Stands p :=
  List.forall_mem_map.2 fun a ha =>
    ⟨(allSound_iff.1 hsound a ha).2, allIntact_iff.1 hintact a ha, allPlaced_iff.1 hplaced a ha⟩

/-- The items of a body that was read were read. -/
theorem Stands.bodyItems {b : Body} {type : String} (hsound : b.Sound p type)
    (hintact : b.intact p = true) (hplaced : b.Placed p) : ∀ m ∈ bodyItems b, m.Stands p := by
  cases b with
  | struct b | network b =>
    rw [Body.intact, Bool.and_eq_true] at hintact
    exact attributes hsound.2 hintact.1 hplaced
  | group g => exact List.forall_mem_map.2 hsound.2
  | protocol values => exact List.forall_mem_map.2 hsound.2
  | service s =>
    obtain ⟨-, hservice⟩ := hsound
    simp only [Body.intact, Service.intact, Bool.and_eq_true, List.all_eq_true] at hintact
    obtain ⟨⟨⟨hintact, huser⟩, hrules⟩, -⟩ := hintact
    refine List.forall_mem_append.2 ⟨attributes hservice.attributes hintact hplaced.1,
      List.forall_mem_cons.2 ⟨⟨hservice.user, huser, hplaced.2.1⟩, List.forall_mem_map.2 ?_⟩⟩
    exact fun r hr => ⟨(hservice.rules r hr).2, hrules r hr, hplaced.2.2 r hr⟩

/-- The items of a construct that was read were read. -/
theorem Stands.items (h : n.Stands p) : ∀ m ∈ n.items, m.Stands p := by
  cases n with
  | value | member => simp [Construct.items]
  | attr a =>
    obtain ⟨hsound, hintact, hplaced⟩ := h
    obtain ⟨name, - | values | as, layout, frame⟩ := a
    · simp [Construct.items]
    · exact List.forall_mem_map.2 hsound.2
    · rw [Attribute.intact, Bool.and_eq_true] at hintact
      exact attributes hsound.2 hintact.2 hplaced.2
  | union u => exact List.forall_mem_map.2 h.1.1
  | rule r =>
    obtain ⟨hsound, hintact, hplaced⟩ := h
    simp only [Rule.intact, Bool.and_eq_true, Option.all_eq_true] at hintact
    obtain ⟨⟨⟨hsrc, hdst⟩, hprt⟩, hlog⟩ := hintact
    simp only [Construct.items, List.cons_append, List.nil_append, List.forall_mem_cons,
      List.mem_map, Option.mem_toList, forall_exists_index, and_imp, forall_apply_eq_imp_iff₂]
    exact ⟨⟨hsound.src, hsrc, hplaced.src⟩, ⟨hsound.dst, hdst, hplaced.dst⟩,
      ⟨hsound.prt, hprt, hplaced.prt⟩, fun a ha => ⟨hsound.log a ha, hlog a ha, hplaced.log a ha⟩⟩
  | definition d =>
    obtain ⟨⟨-, ⟨type, -, hsound⟩, -⟩, hintact, hplaced⟩ := h
    rw [Definition.intact, Bool.and_eq_true] at hintact
    exact bodyItems hsound hintact.1 hplaced.body

/-- The text of a construct that was read does not end in a comment. -/
theorem Stands.closed (h : n.Stands p) : commentAfter false (n.text p) = false := by
  cases n with
  | value v => exact commentAfter_weighed (h.spells.weighs .characters)
  | member e => exact commentAfter_weighed (h.spells.weighs .characters)
  | attr a => exact commentAfter_closed ((Attribute.Sound.spells a h.1 h.2.1).closes .characters)
  | union u => exact commentAfter_closed ((h.1.spells h.2.1).closes .characters)
  | rule r => exact commentAfter_closed ((h.1.spells h.2.1).closes .characters)
  | definition d => exact (h.1.spells h.2.1).closed

/-! ### Frames of constructs that were read -/

/-- The frame of a construct with items that was read. -/
structure Framed (p : Printer) (n : Construct) (span : Span) (frame : Frame) : Prop where
  span_eq : n.layout.span = some span
  frame_eq : n.frame = some frame
  seats : frame.Seats p n.style.comma span (n.pieces p)
  gap : IsTrivia (p.text frame.gap)
  line : commentAfter false (p.text (frame.header span)) = true →
    (p.text frame.gap).head? = some '\n'
  closing : kindAhead? (p.text (frame.close span)) ≠ some .comma

theorem commentAfter_word {w : List Char} (hw : IsWord w) : commentAfter false w = false :=
  commentAfter_of_not_mem fun hmem => by cases hw.kind '#' hmem

/-- A header has no open comment behind its equals sign, whatever follows there. -/
theorem commentAfter_header {w t rest : List Char} (hw : IsWord w) (ht : IsTrivia t) :
    commentAfter false (w ++ (t ++ '=' :: rest)) = commentAfter false rest := by
  rw [commentAfter_append, commentAfter_word hw, commentAfter_append, ht.closed]
  rfl

theorem commentAfter_opening {t rest : List Char} (ht : IsTrivia t) :
    commentAfter false (t ++ '\x7b' :: rest) = commentAfter false rest := by
  rw [commentAfter_append, ht.closed]
  rfl

/-- The header of a union does not end in a comment. -/
theorem commentAfter_union {u : Union} {header : List Char} (h : u.Header header) :
    commentAfter false header = false := by
  obtain ⟨t, ht, hheader⟩ := h
  have hw := Union.isWord_keyword u.role
  by_cases hforeach : u.foreach = true
  · rw [if_pos hforeach] at hheader
    obtain ⟨t', ht', rfl⟩ := hheader
    rw [commentAfter_header hw ht, commentAfter_append, ht'.closed]
    rfl
  · rw [if_neg hforeach] at hheader
    rw [hheader, commentAfter_header hw ht]
    rfl

/-- The header of a definition ends in a comment only within the line of a description. -/
theorem commentAfter_definition {d : Definition} {header : List Char} (hw : IsWord d.name.toList)
    (h : d.Header header) (hopen : commentAfter false header = true) :
    d.body.description.isSome := by
  obtain ⟨t, opening, ht, ⟨text, htext, hopening⟩, rfl⟩ := h
  have hclosed : commentAfter false opening = commentAfter false text := by
    by_cases hbraces : d.body.hasBraces = true
    · rw [if_pos hbraces] at hopening
      obtain ⟨t', ht', rfl⟩ := hopening
      exact commentAfter_opening ht'
    · rw [if_neg hbraces] at hopening
      rw [hopening]
  rw [commentAfter_header hw ht, hclosed] at hopen
  generalize d.body.description = description at htext ⊢
  cases htext with
  | absent => cases hopen
  | present => rfl

/-- A construct that was read and may have items has a frame. -/
theorem Stands.framed (h : n.Stands p) (hrefill : n.Refills n') :
    ∃ span frame, n.Framed p span frame := by
  -- Only the header of a definition may end in an open comment.
  have hline {header gap : List Char} (hclosed : commentAfter false header = false)
      (hopen : commentAfter false header = true) : gap.head? = some '\n' :=
    (Bool.false_ne_true (hclosed.symm.trans hopen)).elim
  cases hrefill with
  | values name values values' layout frame =>
    obtain ⟨⟨⟨hw, hshape⟩, -⟩, -, hseats, -⟩ := h
    obtain ⟨- | span, lead, sep⟩ := layout
    · cases hseats
    rcases frame with - | frame
    · cases hseats
    obtain ⟨t, ht, hframes⟩ := hshape
    refine ⟨span, frame, rfl, rfl, (pieces_attr p _).symm ▸ hseats, hframes.gap, hline ?_,
      hframes.kindAhead?_close_ne (by decide)⟩
    rw [hframes.header_eq, commentAfter_header hw ht]
    rfl
  | block name attributes attributes' layout frame =>
    obtain ⟨⟨⟨hw, hshape⟩, -⟩, -, hseats, -⟩ := h
    obtain ⟨- | span, lead, sep⟩ := layout
    · cases hseats
    rcases frame with - | frame
    · cases hseats
    obtain ⟨t, t', ht, ht', hframes⟩ := hshape
    refine ⟨span, frame, rfl, rfl, (pieces_attr p _).symm ▸ hseats, hframes.gap, hline ?_,
      hframes.kindAhead?_close_ne (by decide)⟩
    rw [hframes.header_eq, commentAfter_header hw ht, commentAfter_opening ht']
    rfl
  | union u elements =>
    obtain ⟨⟨-, -, hshape⟩, -, hseats⟩ := h
    obtain ⟨role, foreach, elements, ⟨- | span, lead, sep⟩, - | frame⟩ := u
    · cases hseats
    · cases hseats
    · cases hseats
    obtain ⟨header, hheader, hframes⟩ := hshape
    refine ⟨span, frame, rfl, rfl, (pieces_union p _).symm ▸ hseats, hframes.gap, hline ?_,
      hframes.kindAhead?_close_ne (by decide)⟩
    rw [hframes.header_eq, commentAfter_union hheader]
  | rule r src dst prt log =>
    obtain ⟨hsound, -, hplaced⟩ := h
    have hshape := hsound.shape
    have hseats := hplaced.seats
    obtain ⟨action, src, dst, prt, log, ⟨- | span, lead, sep⟩, - | frame⟩ := r
    · cases hseats
    · cases hseats
    · cases hseats
    refine ⟨span, frame, rfl, rfl, (pieces_rule p _).symm ▸ hseats, hshape.1.gap, hline ?_,
      hshape.1.kindAhead?_close_ne (by decide)⟩
    rw [hshape.1.header_eq, commentAfter_word (Rule.isWord_keyword action)]
  | definition d hbody =>
    obtain ⟨⟨hw, -, hshape⟩, -, hplaced⟩ := h
    have hseats := hplaced.seats
    obtain ⟨name, body, ⟨- | span, lead, sep⟩, - | frame⟩ := d
    · cases hseats
    · cases hseats
    · cases hseats
    obtain ⟨header, hheader, hframes⟩ := hshape.frames
    refine ⟨span, frame, rfl, rfl, (pieces_definition p _).symm ▸ hseats, hframes.gap,
      fun hopen => ?_, hframes.kindAhead?_close_ne ?_⟩
    · rw [hframes.header_eq] at hopen
      exact hshape.gap (commentAfter_definition hw hheader hopen)
    · rw [Body.sign]
      split <;> decide

/-! ### The text around a construct -/

/-- A construct in the source with as many items as were read is printed by its frame. -/
theorem Refills.text_eq_framed (h : n.Refills n') {span : Span} {frame : Frame}
    (hframed : n.Framed p span frame) (hlength : n'.items.length = n.items.length) :
    n'.text p = p.framed span frame n.style (n'.pieces p) := by
  rw [← h.style_eq]
  refine h.symm.text_eq (h.layout_eq ▸ hframed.span_eq) (h.frame_eq ▸ hframed.frame_eq) ?_
  have hcount := hframed.seats.count_eq
  rw [pieces, List.length_map, ← hlength] at hcount
  cases n' with
  | definition d =>
    have hpieces := congrArg List.length (pieces_definition p d)
    rw [pieces, List.length_map, ← hcount] at hpieces
    simp [unfolds, Definition.unfolds, ← hpieces]
  | _ => rfl

/-- If one item of a construct is exchanged for one of the same layout, the text around it stays. -/
theorem Refills.around (h : n.Refills n') (hn : n.Stands p) {k k' : Construct}
    {before behind : List Construct} (hitems : n.items = before ++ k :: behind)
    (hitems' : n'.items = before ++ k' :: behind) (hlayout : k'.layout = k.layout) :
    ∃ a b, n.text p = a ++ (k.text p ++ b) ∧ n'.text p = a ++ (k'.text p ++ b) ∧
      k.layout.span = some ⟨n.layout.start + byteLength a, n.layout.start + byteLength a +
        byteLength (k.text p)⟩ := by
  obtain ⟨span, frame, hframed⟩ := hn.framed h
  have hseats := hframed.seats
  have hpieces : n.pieces p = before.map (piece p) ++ k.piece p :: behind.map (piece p) := by
    rw [pieces, hitems, List.map_append, List.map_cons]
  have hpieces' : n'.pieces p = before.map (piece p) ++ k'.piece p :: behind.map (piece p) := by
    rw [pieces, hitems', List.map_append, List.map_cons]
  refine ⟨p.text (frame.header span) ++ (p.text frame.gap ++
      ((before.map (piece p)).flatMap p.place ++ p.textOf k.layout.lead)),
    p.textOf k.layout.sep ++ ((behind.map (piece p)).flatMap p.place ++
      p.text (frame.close span)), ?_, ?_, ?_⟩
  · rw [h.refl_left.text_eq_framed hframed rfl, hseats.framed_eq _ rfl _ rfl, hpieces]
    simp [Printer.place, piece]
  · have hlayouts : (n'.pieces p).map (·.layout) = (n.pieces p).map (·.layout) := by
      simp [hpieces, hpieces', piece, hlayout]
    rw [h.text_eq_framed hframed (by simp [hitems, hitems']), hseats.framed_eq _ rfl _ hlayouts,
      hpieces']
    simp [Printer.place, piece, hlayout]
  · have hstart : n.layout.start = span.start := by rw [Layout.start, hframed.span_eq]
    have hplaced := hseats.placed
    rw [hpieces, Printer.placed_append] at hplaced
    refine hplaced.2.1.span.trans ?_
    simp [hstart, piece, Nat.add_assoc]

theorem Swaps.layout_eq {m m' : Construct} (h : Swaps m m' n n') (hlayout : m'.layout = m.layout) :
    n'.layout = n.layout := by
  cases h with
  | here => exact hlayout
  | inside h => exact h.layout_eq

/-- Exchanging a construct for one of the same layout does not change the text around it. -/
theorem Swaps.around {m m' : Construct} (h : Swaps m m' n n') (hn : n.Stands p)
    (hlayout : m'.layout = m.layout) {start : Nat}
    (hspan : n.layout.span = some ⟨start, start + byteLength (n.text p)⟩) :
    m.Stands p ∧ ∃ a b, n.text p = a ++ (m.text p ++ b) ∧
      n'.text p = a ++ (m'.text p ++ b) ∧
      m.layout.span =
        some ⟨start + byteLength a, start + byteLength a + byteLength (m.text p)⟩ := by
  induction h generalizing start with
  | here => exact ⟨hn, [], [], by simp, by simp, by simpa using hspan⟩
  | @inside n n' k k' before behind h hitems hitems' hswaps ih =>
    have hk : k.Stands p := hn.items k (by simp [hitems])
    have hstart : n.layout.start = start := by rw [Layout.start, hspan]
    obtain ⟨a, b, htext, htext', hspan'⟩ :=
      h.around hn hitems hitems' (hswaps.layout_eq hlayout)
    rw [hstart] at hspan'
    obtain ⟨hm, c, d, hinner, hinner', hspan''⟩ := ih hk hspan'
    refine ⟨hm, a ++ c, d ++ b, ?_, ?_, ?_⟩
    · rw [htext, hinner]
      simp
    · rw [htext', hinner']
      simp
    · rw [hspan'', byteLength_append, ← Nat.add_assoc]

end Construct

/-- Exchanging a construct of a file that was read for one of the same layout does not change the
text around it. -/
theorem Forest.Swaps.around {p : Printer} {f g : Forest} {m m' : Construct} (h : f.Swaps m m' g)
    (hf : f.Stands p) (hlayout : m'.layout = m.layout) :
    m.Stands p ∧ ∃ a b, p.source = a ++ (m.text p ++ b) ∧ p.forestText g = a ++ (m'.text p ++ b) ∧
      m.layout.span = some ⟨byteLength a, byteLength a + byteLength (m.text p)⟩ := by
  obtain ⟨frame, hplaced⟩ := hf.placed
  obtain ⟨hmem, hswaps⟩ := h
  rename_i before behind d d'
  have hd : d ∈ f.definitions := by simp [hmem]
  have hintact := hf.intact
  rw [Forest.intact, Bool.and_eq_true, List.all_eq_true] at hintact
  have hstands : (Construct.definition d).Stands p :=
    ⟨(hf.sound.definitions d hd).2, hintact.1 d hd, hplaced.definitions d hd⟩
  have hlayout' : d'.layout = d.layout := hswaps.layout_eq hlayout
  let front := p.text frame.gap ++ ((before.map p.definitionPiece).flatMap p.place ++
    p.textOf d.layout.lead)
  let back := p.textOf d.layout.sep ++ ((behind.map p.definitionPiece).flatMap p.place ++
    suffix frame.closeStart p.source)
  have hspan : d.layout.span =
      some ⟨byteLength front, byteLength front + byteLength (p.definitionText d)⟩ := by
    have hsits := hplaced.placed
    rw [hmem, List.map_append, List.map_cons, Printer.placed_append] at hsits
    refine hsits.2.1.span.trans ?_
    simp [front, Printer.definitionPiece, Nat.add_assoc]
  obtain ⟨hm, a, b, htext, htext', hspan'⟩ := hswaps.around hstands hlayout hspan
  refine ⟨hm, front ++ a, b ++ back, ?_, ?_, by rw [hspan', byteLength_append front a]⟩
  · have htext : p.definitionText d = a ++ (m.text p ++ b) := htext
    rw [← hf.text_eq, show p.forestText f = _ from hplaced.forestText_eq _ rfl, hmem]
    simp [front, back, Printer.place, Printer.definitionPiece, htext]
  · have htext' : p.definitionText d' = a ++ (m'.text p ++ b) := htext'
    rw [hplaced.forestText_eq _ (by simp [hmem, hlayout'])]
    simp [front, back, Printer.place, Printer.definitionPiece, htext', hlayout']

end PolicyEditor
