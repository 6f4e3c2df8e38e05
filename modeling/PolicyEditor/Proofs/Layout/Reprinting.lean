import PolicyEditor.Proofs.Layout.Soundness

/-!
# The text of sound and intact nodes

The text that is printed for a sound and intact node is a text of the node without its layout, so it
is read as that node again.  This holds whatever was removed, added or moved, because soundness and
intactness speak about the pieces as they are put together.

A definition without a text of its own writes its description behind an equals sign, where the
reader trims it.

## Main definitions

* `Definition.reread` : a definition with its description as it is read again.

## Main results

* `Attribute.Sound.spells`, `Union.Sound.spells`, `Rule.Sound.spells`, `Definition.Sound.spells` :
  the printed text of a node is a text of it.
* `Forest.Sound.parse` : the printed text of a file is read as its definitions.
-/

namespace PolicyEditor

open Text

/-! ### Entries and their pieces -/

namespace Printer

variable {p : Printer}

/-- Pieces with commas between them are a comma list. -/
theorem separated_inline : (qs : List Piece) → Separated (qs.map (·.text)) (inline qs)
  | [] => .nil .nil
  | [q] => by simpa [inline] using Separated.last (t := q.text) .nil .nil
  | q :: r :: qs => by
    have hrest := (separated_inline (r :: qs)).prepend IsTrivia.space
    simpa [inline] using Separated.cons (t := q.text) .nil .nil hrest

/-- Pieces behind spaces are statements. -/
theorem strung_spaced (qs : List Piece) : Strung (qs.map (·.text)) (spaced qs) := by
  induction qs with
  | nil => exact .nil
  | cons q qs ih =>
    simpa [spaced] using Strung.cons (t := q.text) IsTrivia.space ih

section Entries

variable {α : Type} {canonical : α → List Char} {S : List Char → α → Prop} {items : List (Item α)}

/-- The pieces of sound entries are texts of their contents. -/
theorem spells_items (h : ∀ x ∈ items, x.Sound p canonical S) :
    List.Forall₂ S ((items.map fun x => (⟨x.layout, p.item canonical x⟩ : Piece)).map (·.text))
      (items.map (·.content)) := by
  induction items with
  | nil => exact .nil
  | cons x items ih =>
    rw [List.forall_mem_cons] at h
    exact .cons h.1.spells (ih h.2)

theorem fits_items (h : ∀ x ∈ items, x.Sound p canonical S) :
    ∀ q ∈ items.map fun x => (⟨x.layout, p.item canonical x⟩ : Piece), q.layout.Fits p true := by
  intro q hq
  obtain ⟨x, hx, rfl⟩ := List.mem_map.1 hq
  exact (h x hx).fits

theorem fits_values {values : List Value} (h : ∀ v ∈ values, Value.Sound p v) :
    ∀ q ∈ p.values values, q.layout.Fits p true :=
  fits_items h

theorem fits_members {elements : List Member} (h : ∀ e ∈ elements, Member.Sound p e) :
    ∀ q ∈ p.members elements, q.layout.Fits p true :=
  fits_items h

theorem detach_items :
    items.map Item.detach = (items.map (·.content)).map fun c => { content := c } := by
  rw [List.map_map]
  rfl

end Entries

theorem attributePieces_eq_map (as : List Attribute) :
    p.attributePieces as = as.map p.attributePiece := by
  induction as with
  | nil => rfl
  | cons a as ih => rw [attributePieces, ih, List.map_cons, attributePiece]

theorem fits_attributePieces {as : List Attribute} (h : AllSound p as) :
    ∀ q ∈ p.attributePieces as, q.layout.Fits p false := by
  intro q hq
  rw [attributePieces_eq_map] at hq
  obtain ⟨a, ha, rfl⟩ := List.mem_map.1 hq
  exact (allSound_iff.1 h a ha).1

end Printer

/-! ### Attributes -/

section Attributes

variable {p : Printer}

theorem Attribute.spells_flag {name : String} {layout : Layout} {frame : Option Frame}
    (h : Attribute.HasShape p ⟨name, .flag, layout, frame⟩) :
    Attribute.Spells (p.attributeText ⟨name, .flag, layout, frame⟩) { name, value := .flag } := by
  obtain ⟨hw, hshape⟩ := h
  have hflag {t : List Char} (ht : IsTrivia t) :
      Attribute.Spells (name.toList ++ (t ++ [';'])) { name, value := .flag } := by
    simpa using Attribute.Spells.flag hw ht
  obtain ⟨span, lead, sep⟩ := layout
  cases span with
  | none => exact hflag .nil
  | some span =>
    cases frame with
    | none =>
      obtain ⟨t, ht, htext⟩ := hshape
      exact (show p.attributeText ⟨name, .flag, ⟨some span, lead, sep⟩, none⟩ = _ from htext) ▸
        hflag ht
    | some frame => exact hshape.elim

theorem Attribute.spells_values {name : String} {values : List Value} {layout : Layout}
    {frame : Option Frame} (h : Attribute.HasShape p ⟨name, .values values, layout, frame⟩)
    (hvalues : ∀ v ∈ values, Value.Sound p v)
    (hjoined : Attribute.joined p ⟨name, .values values, layout, frame⟩ = true) :
    Attribute.Spells (p.attributeText ⟨name, .values values, layout, frame⟩)
      { name, value := .values (values.map Item.detach) } := by
  obtain ⟨hw, hshape⟩ := h
  have hvalues' {t body : List Char} (ht : IsTrivia t)
      (hbody : Separated ((p.values values).map (·.text)) body) :
      Attribute.Spells (name.toList ++ (t ++ '=' :: (body ++ [';'])))
        { name, value := .values (values.map Item.detach) } := by
    rw [Printer.detach_items]
    simpa using Attribute.Spells.values hw ht hbody (Printer.spells_items hvalues)
  obtain ⟨span, lead, sep⟩ := layout
  cases span with
  | none =>
    have hbody := (Printer.separated_inline (p.values values)).prepend IsTrivia.space
    simpa [Printer.attributeText, Printer.newValue] using hvalues' IsTrivia.space hbody
  | some span =>
    cases frame with
    | none => exact hshape.elim
    | some frame =>
      obtain ⟨t, ht, hframes⟩ := hshape
      obtain ⟨rest, htext, hbody, -⟩ := hframes.framed_separated (by decide)
        (show ListStyle.comma .values = true from rfl)
        (Printer.fits_values hvalues) hjoined
      simpa [Printer.attributeText, Printer.framedValue, htext] using hvalues' ht hbody

theorem Attribute.spells_block {name : String} {attributes : List Attribute} {layout : Layout}
    {frame : Option Frame} (h : Attribute.HasShape p ⟨name, .block attributes, layout, frame⟩)
    (hsound : AllSound p attributes)
    (hjoined : Attribute.joined p ⟨name, .block attributes, layout, frame⟩ = true)
    (hspells : List.Forall₂ Attribute.Spells ((p.attributePieces attributes).map (·.text))
      (detachAttributes attributes)) :
    Attribute.Spells (p.attributeText ⟨name, .block attributes, layout, frame⟩)
      { name, value := .block (detachAttributes attributes) } := by
  obtain ⟨hw, hshape⟩ := h
  have hblock {t t' body c : List Char} (ht : IsTrivia t) (ht' : IsTrivia t')
      (hbody : Strung ((p.attributePieces attributes).map (·.text)) body) (hc : IsTrivia c) :
      Attribute.Spells (name.toList ++ (t ++ '=' :: (t' ++ '\x7b' :: (body ++ (c ++ ['\x7d'])))))
        { name, value := .block (detachAttributes attributes) } := by
    simpa using Attribute.Spells.block hw ht ht' hbody (.of_forall₂ hspells) hc
  obtain ⟨span, lead, sep⟩ := layout
  cases span with
  | none =>
    have := hblock IsTrivia.space IsTrivia.space
      (Printer.strung_spaced (p.attributePieces attributes)) IsTrivia.space
    simpa [Printer.attributeText, Printer.newValue] using this
  | some span =>
    cases frame with
    | none => exact hshape.elim
    | some frame =>
      obtain ⟨t, t', ht, ht', hframes⟩ := hshape
      obtain ⟨body, rest, htext, hbody, hrest, -⟩ := hframes.framed_strung (by decide)
        (show ListStyle.comma .statements = false from rfl) (Printer.fits_attributePieces hsound)
        hjoined
      simpa [Printer.attributeText, Printer.framedValue, htext] using hblock ht ht' hbody hrest

mutual

/-- The printed text of a sound and intact attribute is a text of it. -/
theorem Attribute.Sound.spells : (a : Attribute) → a.Sound p → a.intact p = true →
    Attribute.Spells (p.attributeText a) a.detach
  | ⟨name, .flag, layout, frame⟩, h, _ => Attribute.spells_flag h.1
  | ⟨name, .values values, layout, frame⟩, h, hintact => by
    rw [Attribute.intact, Bool.and_eq_true] at hintact
    exact Attribute.spells_values h.1 h.2 hintact.1
  | ⟨name, .block attributes, layout, frame⟩, h, hintact => by
    rw [Attribute.intact, Bool.and_eq_true] at hintact
    exact Attribute.spells_block h.1 h.2 hintact.1
      (AllSound.spells attributes h.2 hintact.2)

/-- The printed texts of the attributes of a block are texts of them. -/
theorem AllSound.spells : (as : List Attribute) → AllSound p as → allIntact p as = true →
    List.Forall₂ Attribute.Spells ((p.attributePieces as).map (·.text)) (detachAttributes as)
  | [], _, _ => .nil
  | a :: as, h, hintact => by
    rw [allIntact, Bool.and_eq_true] at hintact
    exact .cons (Attribute.Sound.spells a h.1.2 hintact.1) (AllSound.spells as h.2 hintact.2)

end

end Attributes

/-! ### Unions -/

theorem Element.SpellsItem.head?_bang {t : List Char} {e : Element} (h : SpellsItem t e)
    (hbang : e.startsWithBang = true) : t.head? = some '!' := by
  cases h with
  | term h =>
    cases h with
    | plain h => cases h <;> cases hbang
    | complement => rfl
  | intersection h =>
    cases h with
    | plain h => cases h <;> cases hbang
    | complement => rfl

/-- An element that does not start with `!` starts with a word. -/
theorem Element.SpellsItem.opensWord {t : List Char} {e : Element} (h : SpellsItem t e)
    (hbang : e.startsWithBang = false) : ∃ c ∈ t.head?, Token.Kind.ofChar c = .word := by
  cases h with
  | term h =>
    cases h with
    | plain h => exact List.append_nil t ▸ h.opensWord []
    | complement => cases hbang
  | intersection h =>
    cases h with
    | plain h => exact h.opensWord _
    | complement => cases hbang

namespace Union

variable {p : Printer} {u : Union}

/-- The header of a union and its entries make up a text of it. -/
theorem spells_of_header {header body : List Char} (helements : ∀ e ∈ u.elements, Member.Sound p e)
    (hrole : u.foreach = true → u.role = .user) (hheader : u.Header header)
    (hbody : Separated ((p.members u.elements).map (·.text)) body)
    (hforeach : u.foreach = true → u.elements ≠ [] ∧ StopsWord body) :
    Spells (header ++ (body ++ [';'])) u.detach := by
  have hitems : Element.SpellsItems ((p.members u.elements).map (·.text))
      (u.elements.map (·.content)) := .of_forall₂ (Printer.spells_items helements)
  obtain ⟨t, ht, hheader⟩ := hheader
  rw [detach, Printer.detach_items]
  obtain ⟨role, foreach, elements, layout, frame⟩ := u
  cases foreach with
  | false =>
    obtain rfl : header = role.keyword.toList ++ (t ++ ['=']) := hheader
    simpa using Spells.plain ht hbody hitems
  | true =>
    obtain ⟨t', ht', rfl⟩ := hheader
    obtain rfl : role = .user := hrole rfl
    obtain ⟨hne, hstop⟩ := hforeach rfl
    have hne' : (p.members elements).map (·.text) ≠ [] := by simpa [Printer.members] using hne
    simpa [Role.keyword] using Spells.foreach ht ht' hbody hitems hne' hstop

/-- The keyword `foreach` ends in front of the printed entries. -/
theorem stopsWord_of_keepsForeach {span : Span} {frame : Frame} {rest : List Char}
    (helements : ∀ e ∈ u.elements, Member.Sound p e)
    (hfront : IsTrivia (p.front span frame (p.members u.elements)))
    (hkeeps : u.keepsForeach p span frame = true) (hforeach : u.foreach = true)
    (hrest : ∀ q ∈ (p.members u.elements).head?, ∃ text, rest = q.text ++ text) :
    u.elements ≠ [] ∧ StopsWord (p.front span frame (p.members u.elements) ++ rest) := by
  rw [keepsForeach, hforeach, Bool.not_true, Bool.false_or] at hkeeps
  cases helems : u.elements with
  | nil =>
    rw [helems] at hkeeps
    cases hkeeps
  | cons e es =>
    rw [helems] at helements hfront hkeeps hrest
    refine ⟨List.cons_ne_nil _ _, ?_⟩
    cases hcase : p.front span frame (p.members (e :: es)) with
    | cons c cs =>
      rw [hcase] at hfront
      exact IsTrivia.stopsWord hfront (List.cons_ne_nil _ _) rest
    | nil =>
      simp only [hcase, List.isEmpty_nil, Bool.not_true, Bool.false_or] at hkeeps
      obtain ⟨text, htext⟩ : ∃ text, rest = p.item Element.chars e ++ text := hrest _ rfl
      obtain ⟨cs, hcs⟩ := List.head?_eq_some_iff.1
        ((helements e List.mem_cons_self).spells.head?_bang hkeeps)
      rw [List.nil_append, htext, hcs]
      exact .cons (by decide) _

/-- The printed text of a sound and intact union is a text of it. -/
theorem Sound.spells (h : u.Sound p) (hintact : u.intact p = true) :
    Spells (p.unionText u) u.detach := by
  obtain ⟨helements, hrole, hshape⟩ := h
  rw [intact] at hintact
  rw [Printer.unionText]
  cases hspan : u.layout.span with
  | none =>
    rw [hspan] at hintact
    have hheader : u.Header (u.role.keyword.toList ++
        (" =".toList ++ if u.foreach then " foreach".toList else [])) := by
      refine ⟨[' '], .space, ?_⟩
      cases u.foreach with
      | true => exact ⟨[' '], .space, rfl⟩
      | false => rfl
    have hbody := (Printer.separated_inline (p.members u.elements)).prepend IsTrivia.space
    have htext : p.newUnion u = u.role.keyword.toList ++
        (" =".toList ++ if u.foreach then " foreach".toList else []) ++
          ([' '] ++ Printer.inline (p.members u.elements) ++ [';']) := by
      rw [Printer.newUnion]
      cases u.foreach <;> simp
    dsimp only
    rw [htext]
    exact spells_of_header helements hrole hheader hbody
      fun hforeach => ⟨by simpa [isFilled, hforeach] using hintact, .cons (by decide) _⟩
  | some span =>
    cases hframe : u.frame with
    | none =>
      rw [hspan, hframe] at hshape
      exact hshape.elim
    | some frame =>
      rw [hspan, hframe] at hshape hintact
      obtain ⟨header, hheader, hframes⟩ := hshape
      simp only [Bool.and_eq_true] at hintact
      have hfits := Printer.fits_members helements
      obtain ⟨rest, htext, hbody, hrest⟩ := hframes.framed_separated (by decide)
        (show ListStyle.comma .values = true from rfl) hfits hintact.1
      dsimp only
      rw [htext]
      exact spells_of_header helements hrole hheader hbody fun hforeach =>
        stopsWord_of_keepsForeach helements (hframes.front_isTrivia hfits) hintact.2 hforeach hrest

end Union

/-! ### Rules -/

/-- Statements without separators are printed behind their leads. -/
theorem Printer.further_eq_flatMap {p : Printer} {span : Span} {frame : Frame} {trailing : Bool}
    {lead : Piece → List Char} {qs : List Piece} (h : ∀ q ∈ qs, q.layout.sep = none) :
    further lead (p.separator span frame .statements) trailing qs =
      qs.flatMap fun q => lead q ++ q.text := by
  induction qs with
  | nil => rfl
  | cons q qs ih =>
    rw [List.forall_mem_cons] at h
    have hsep (final : Bool) : p.separator span frame .statements final q = [] := by
      rw [separator, h.1]
      rfl
    rw [further, hsep, ih h.2, List.flatMap_cons, List.append_nil]

namespace Rule

variable {p : Printer} {r : Rule}

/-- The parts of a rule behind their leads make up a text of it. -/
theorem spells_of_parts (h : r.Sound p) (hintact : r.intact p = true) {a : List Char}
    (lead : Piece → List Char) (ha : IsTrivia a) (hne : a ≠ [])
    (hlead : ∀ q ∈ p.rulePieces r, IsTrivia (lead q)) :
    Spells (r.action.keyword.toList ++ (a ++ (p.unionText r.src ++
      ([p.unionPiece r.dst, p.attributePiece r.prt] ++ r.log.toList.map p.attributePiece).flatMap
        fun q => lead q ++ q.text))) r.detach := by
  simp only [intact, Bool.and_eq_true] at hintact
  obtain ⟨⟨⟨hsrc, hdst⟩, hprt⟩, hlog⟩ := hintact
  have hdstLead := hlead (p.unionPiece r.dst) (by simp [Printer.rulePieces])
  have hprtLead := hlead (p.attributePiece r.prt) (by simp [Printer.rulePieces])
  have hlogText : SpellsLog ((r.log.toList.map p.attributePiece).flatMap
      fun q => lead q ++ q.text) (r.log.map Attribute.detach) := by
    cases hcase : r.log with
    | none => exact .absent
    | some log =>
      rw [hcase, Option.all_some] at hlog
      have hlogLead := hlead (p.attributePiece log) (by simp [Printer.rulePieces, hcase])
      have hspells := Attribute.Sound.spells log (h.log log hcase) hlog
      simpa [Printer.attributePiece] using SpellsLog.present hlogLead hspells
        (by rw [Attribute.detach_eq]; exact h.log_name log hcase)
  have hspells : Spells (r.action.keyword.toList ++ _)
      { action := r.action, src := _, dst := _, prt := _, log := _ } :=
    .mk ha hne hdstLead hprtLead (h.src.spells hsrc) (by exact h.src_role) (h.dst.spells hdst)
    (by exact h.dst_role) (Attribute.Sound.spells r.prt h.prt hprt)
    (by rw [Attribute.detach_eq]; exact h.prt_name) hlogText
  simpa [detach, Printer.unionPiece, Printer.attributePiece] using hspells

/-- The printed text of a parsed rule consists of its keyword and its parts behind their leads. -/
theorem Sound.framed_eq (h : r.Sound p) {span : Span} {frame : Frame}
    (hspan : r.layout.span = some span) (hframe : r.frame = some frame) :
    p.framed span frame .statements (p.rulePieces r) = r.action.keyword.toList ++
      (p.front span frame (p.rulePieces r) ++ (p.unionText r.src ++
        ([p.unionPiece r.dst, p.attributePiece r.prt] ++ r.log.toList.map p.attributePiece).flatMap
          fun q => p.lead (p.newLead span frame (p.rulePieces r)) q ++ q.text)) := by
  have hshape := h.shape
  rw [hspan, hframe] at hshape
  obtain ⟨hframes, hclose, -, hempty⟩ := hshape
  have hsep : ∀ q ∈ p.rulePieces r, q.layout.sep = none := fun q hq => (h.pieces q hq).2
  have hfirst (final : Bool) :
      p.separator span frame .statements final (p.unionPiece r.src) = [] := by
    rw [Printer.separator, hsep _ List.mem_cons_self]
    rfl
  have hcons : p.rulePieces r = p.unionPiece r.src ::
      ([p.unionPiece r.dst, p.attributePiece r.prt] ++ r.log.toList.map p.attributePiece) := rfl
  rw [hcons, List.forall_mem_cons] at hsep
  rw [hcons, Printer.framed_cons, hfirst, Printer.further_eq_flatMap hsep.2, hframes.header_eq,
    hclose, Printer.unfolds, hempty]
  simp [Printer.unionPiece]

/-- The printed text of a sound and intact rule is a text of it. -/
theorem Sound.spells (h : r.Sound p) (hintact : r.intact p = true) :
    Spells (p.ruleText r) r.detach := by
  have hshape := h.shape
  rw [Printer.ruleText]
  cases hspan : r.layout.span with
  | none =>
    have := spells_of_parts h hintact (fun _ => [' ']) .space (List.cons_ne_nil _ _)
      fun _ _ => .space
    simpa [Printer.spaced, Printer.rulePieces, Printer.unionPiece] using this
  | some span =>
    cases hframe : r.frame with
    | none =>
      rw [hspan, hframe] at hshape
      exact hshape.elim
    | some frame =>
      rw [hspan, hframe] at hshape
      obtain ⟨hframes, -, hne, -⟩ := hshape
      have hfits : ∀ q ∈ p.rulePieces r, q.layout.Fits p false := fun q hq => (h.pieces q hq).1
      dsimp only
      rw [h.framed_eq hspan hframe]
      exact spells_of_parts h hintact _ (hframes.front_isTrivia hfits) hne fun q hq =>
        Printer.lead_isTrivia (p.newLead_isTrivia _ _ _) (hfits q hq)

end Rule

/-! ### Bodies -/

/-- The first attribute looks like a description or not, whatever its layout and the text of the
description. -/
theorem describable_detach (f : String → String) (description : Option String)
    (as : List Attribute) :
    Describable (description.map f) (detachAttributes as) = Describable description as := by
  simp only [Describable, Option.isSome_map]
  cases as with
  | nil => rfl
  | cons a as =>
    obtain ⟨name, value, layout, frame⟩ := a
    cases value <;> rfl

section Braces

variable {p : Printer} {f : String → String} {a header body c : List Char}

/-- A block in braces with sound and intact attributes. -/
theorem Block.spells {b : Block} (hsound : AllSound p b.attributes)
    (hintact : allIntact p b.attributes = true)
    (hdescribable : Describable b.description b.attributes = true) (ha : IsTrivia a)
    (hheader : SpellsDescription (b.description.map f) header)
    (hbody : Strung ((p.attributePieces b.attributes).map (·.text)) body) (hc : IsTrivia c)
    (hfollows : b.description.isSome → (body ++ (c ++ ['\x7d'])).head? = some '\n') :
    Spells (a ++ '\x7b' :: (header ++ (body ++ (c ++ ['\x7d']))))
      { description := b.description.map f, attributes := detachAttributes b.attributes } :=
  .mk ha hheader (fun h => hfollows (by simpa using h))
    (by rw [describable_detach, hdescribable]) hbody (AllSound.spells _ hsound hintact) hc

/-- A service in braces with sound and intact parts. -/
theorem Service.spells {s : Service} (hsound : s.Sound p) (hintact : s.intact p = true)
    (ha : IsTrivia a) (hheader : SpellsDescription (s.description.map f) header)
    (hbody : Strung ((p.bodyPieces (.service s)).map (·.text)) body) (hc : IsTrivia c)
    (hfollows : s.description.isSome → (body ++ (c ++ ['\x7d'])).head? = some '\n') :
    Spells (a ++ '\x7b' :: (header ++ (body ++ (c ++ ['\x7d']))))
      { s.detach with description := s.description.map f } := by
  simp only [intact, Bool.and_eq_true] at hintact
  obtain ⟨⟨⟨hattributes, huser⟩, hrules⟩, hdescribable⟩ := hintact
  simp only [Printer.bodyPieces, List.map_append, List.map_cons, List.map_map] at hbody
  obtain ⟨attributeText, rest, rfl, hattributeText, hbody⟩ := hbody.of_append
  cases hbody with
  | @cons b _ ruleText _ hb hruleText =>
    have hruleSpells : List.Forall₂ Rule.Spells
        (s.rules.map ((·.text) ∘ fun r => (⟨r.layout, p.ruleText r⟩ : Piece)))
        (s.rules.map Rule.detach) := by
      rw [List.forall₂_map_left_iff, List.forall₂_map_right_iff, List.forall₂_same]
      exact fun r hr => (hsound.rules r hr).2.spells (List.all_eq_true.1 hrules r hr)
    have hnames : ∀ a ∈ detachAttributes s.attributes, a.name = "user" → a.isFlag = true := by
      intro a ha hname
      rw [detachAttributes_eq_map] at ha
      obtain ⟨⟨name, value, layout, frame⟩, hmem, rfl⟩ := List.mem_map.1 ha
      have := hsound.names _ hmem hname
      cases value <;> first | rfl | cases this
    have := Spells.mk ha hheader
      (fun h => by simpa [Printer.unionPiece] using hfollows (by simpa using h))
      (by rw [describable_detach, hdescribable]) hattributeText
      (AllSound.spells _ hsound.attributes hattributes) hnames hb (hsound.user.spells huser)
      hsound.user_role hruleText hruleSpells hc
    simpa [detach, Printer.unionPiece] using this

end Braces

namespace Body

/-- The body with another text in its description. -/
def mapDescription (f : String → String) : Body → Body
  | struct b => struct { b with description := b.description.map f }
  | network b => network { b with description := b.description.map f }
  | group g => group { g with description := g.description.map f }
  | protocol values => protocol values
  | service s => service { s with description := s.description.map f }

theorem mapDescription_id (b : Body) : b.mapDescription id = b := by
  cases b <;> simp [mapDescription]

/-- A body is the same with a map of its description that keeps the description. -/
theorem mapDescription_eq_iff {f : String → String} {b : Body} :
    b.mapDescription f = b ↔ ∀ text ∈ b.description, f text = text := by
  have hmap (description : Option String) :
      description.map f = description ↔ ∀ text ∈ description, f text = text := by
    cases description <;> simp
  rcases b with ⟨_, _⟩ | ⟨_, _⟩ | ⟨_, _⟩ | _ | ⟨_, _, _, _⟩ <;>
    simp [mapDescription, description, hmap]

theorem description_mapDescription (f : String → String) (b : Body) :
    (b.mapDescription f).description = b.description.map f := by
  cases b <;> rfl

theorem description_detach (b : Body) : b.detach.description = b.description := by
  cases b <;> rfl

theorem hasBraces_mapDescription (f : String → String) (b : Body) :
    (b.mapDescription f).hasBraces = b.hasBraces := by
  cases b <;> rfl

theorem hasBraces_detach (b : Body) : b.detach.hasBraces = b.hasBraces := by
  cases b <;> rfl

section Parts

variable {p : Printer} {type : String} {b : Body} {f : String → String} {header body : List Char}

/-- The statements of a body in braces make up a text of it. -/
theorem spells_of_strung {a c : List Char} (hsound : b.Sound p type) (hintact : b.intact p = true)
    (hbraces : b.hasBraces = true) (ha : IsTrivia a)
    (hheader : SpellsDescription (b.description.map f) header)
    (hbody : Strung ((p.bodyPieces b).map (·.text)) body) (hc : IsTrivia c)
    (hfollows : b.description.isSome → (body ++ (c ++ ['\x7d'])).head? = some '\n') :
    Spells type (a ++ '\x7b' :: (header ++ (body ++ (c ++ ['\x7d']))))
      (b.detach.mapDescription f) := by
  cases b with
  | struct b =>
    rw [intact, Bool.and_eq_true] at hintact
    exact .struct hsound.1 (Block.spells hsound.2 hintact.1 hintact.2 ha hheader hbody hc hfollows)
  | network b =>
    rw [intact, Bool.and_eq_true] at hintact
    exact .network hsound.1 (Block.spells hsound.2 hintact.1 hintact.2 ha hheader hbody hc hfollows)
  | group g => cases hbraces
  | protocol values => cases hbraces
  | service s =>
    exact .service hsound.1 (Service.spells hsound.2 hintact ha hheader hbody hc hfollows)

/-- The entries of a comma list make up a text of it. -/
theorem spells_of_separated (hsound : b.Sound p type) (hbraces : b.hasBraces = false)
    (hheader : SpellsDescription (b.description.map f) header)
    (hbody : Separated ((p.bodyPieces b).map (·.text)) body)
    (hfollows : b.description.isSome → (body ++ [';']).head? = some '\n') :
    Spells type (header ++ (body ++ [';'])) (b.detach.mapDescription f) := by
  cases b with
  | struct b => cases hbraces
  | network b => cases hbraces
  | service s => cases hbraces
  | group g =>
    have hspells := Group.Spells.mk hheader (fun h => hfollows (by simpa using h)) hbody
      (.of_forall₂ (Printer.spells_items hsound.2))
    rw [← Printer.detach_items] at hspells
    exact .group hsound.1 hspells
  | protocol values =>
    have hspells := Spells.protocol hsound.1 hbody (Printer.spells_items hsound.2)
    rw [← Printer.detach_items] at hspells
    cases hheader
    exact hspells

end Parts

end Body

/-! ### New definitions -/

/-- The text of a description as it is read from the line that is printed for it. -/
def rereadDescription (description : String) : String :=
  descriptionOf (' ' :: description.toList)

namespace Printer

variable (p : Printer)

theorem newLine_isTrivia (line : List Char) :
    ∃ lead, IsTrivia lead ∧ lead.head? = some '\n' ∧ p.newLine line = lead ++ line :=
  ⟨_, isTrivia_newline (indentation_isTrivia p.indentation 1), rfl, rfl⟩

theorem spells_descriptionLine {description : Option String}
    (h : ∀ d ∈ description, '\n' ∉ d.toList) :
    SpellsDescription (description.map rereadDescription) (p.descriptionLine description) := by
  cases description with
  | none => exact .absent
  | some d =>
    obtain ⟨lead, hlead, -, hline⟩ := p.newLine_isTrivia ("description = ".toList ++ d.toList)
    have hnot : '\n' ∉ ' ' :: d.toList := by
      rw [List.mem_cons, not_or]
      exact ⟨by decide, h d rfl⟩
    have := SpellsDescription.present hlead .space hnot
    rw [descriptionLine, hline]
    simpa [rereadDescription] using this

/-- Pieces on lines of their own are statements. -/
theorem strung_lines (qs : List Piece) :
    Strung (qs.map (·.text)) (qs.flatMap fun q => p.newLine q.text) := by
  induction qs with
  | nil => exact .nil
  | cons q qs ih =>
    obtain ⟨lead, hlead, -, hline⟩ := p.newLine_isTrivia q.text
    simpa [hline] using Strung.cons (t := q.text) hlead ih

/-- Pieces on lines of their own with a comma behind each are a comma list. -/
theorem separated_lines {t : List Char} (h : IsTrivia t) (qs : List Piece) :
    Separated (qs.map (·.text))
      ((qs.flatMap fun q => p.newLine (q.text ++ [','])) ++ t) := by
  induction qs with
  | nil => exact .nil h
  | cons q qs ih =>
    obtain ⟨lead, hlead, -, hline⟩ := p.newLine_isTrivia (q.text ++ [','])
    simpa [hline] using Separated.cons (t := q.text) hlead .nil ih

theorem head?_lines {α : Type} (qs : List α) (line : α → List Char) {text : List Char}
    (h : text.head? = some '\n') :
    ((qs.flatMap fun q => p.newLine (line q)) ++ text).head? = some '\n' := by
  cases qs with
  | nil => exact h
  | cons q qs => rfl

end Printer

namespace Body

variable {p : Printer} {type : String} {b : Body}

/-- The pieces of a sound body fit. -/
theorem Sound.fits (h : b.Sound p type) :
    ∀ q ∈ p.bodyPieces b, q.layout.Fits p (Printer.bodyStyle b).comma := by
  cases b with
  | struct b => exact Printer.fits_attributePieces h.2
  | network b => exact Printer.fits_attributePieces h.2
  | group g => exact Printer.fits_members h.2
  | protocol values => exact Printer.fits_values h.2
  | service s =>
    simp only [Printer.bodyPieces, List.forall_mem_append, List.forall_mem_cons,
      List.forall_mem_map]
    exact ⟨Printer.fits_attributePieces h.2.attributes, h.2.user_fits,
      fun r hr => (h.2.rules r hr).1⟩

/-- The canonical text of a block in braces. -/
theorem spells_newBlock (hsound : b.Sound p type) (hintact : b.intact p = true)
    (hbraces : b.hasBraces = true) (hline : ∀ d ∈ b.description, '\n' ∉ d.toList) :
    ∃ t, p.newBlock b.description (p.bodyPieces b) = ' ' :: '=' :: t ∧
      Spells type t (b.detach.mapDescription rereadDescription) := by
  refine ⟨_, ?_, spells_of_strung hsound hintact hbraces .space
    (p.spells_descriptionLine hline) (p.strung_lines _) (c := ['\n']) ⟨rfl, rfl⟩
    fun _ => p.head?_lines _ _ rfl⟩
  simp [Printer.newBlock]

/-- The canonical text of a sound and intact body. -/
theorem spells_newBody (hsound : b.Sound p type) (hintact : b.intact p = true)
    (hline : ∀ d ∈ b.description, '\n' ∉ d.toList) :
    ∃ t, p.newBody b = ' ' :: '=' :: t ∧
      Spells type t (b.detach.mapDescription rereadDescription) := by
  have hspells {t : List Char}
      (hbody : Separated ((p.bodyPieces b).map (·.text)) t) (hbraces : b.hasBraces = false)
      (hfollows : b.description.isSome → (t ++ [';']).head? = some '\n') :=
    spells_of_separated hsound hbraces (p.spells_descriptionLine hline) hbody hfollows
  cases b with
  | struct b => exact spells_newBlock hsound hintact rfl hline
  | network b => exact spells_newBlock hsound hintact rfl hline
  | service s => exact spells_newBlock hsound hintact rfl hline
  | group g =>
    rw [Printer.newBody]
    split
    · next hnil =>
      rw [Bool.and_eq_true, List.isEmpty_iff, Option.isNone_iff_eq_none] at hnil
      refine ⟨[' ', ';'], rfl, ?_⟩
      have hbody : Separated ((p.bodyPieces (.group g)).map (·.text)) [' '] := by
        rw [hnil.1]
        exact .nil .space
      have := hspells hbody rfl fun h => by simp [description, hnil.2] at h
      rwa [show (group g).description = none from hnil.2] at this
    · refine ⟨_, ?_, hspells (p.separated_lines (t := ['\n']) ⟨rfl, rfl⟩ _) rfl fun _ => ?_⟩
      · simp [description]
      · rw [List.append_assoc]
        exact p.head?_lines _ _ rfl
  | protocol values =>
    have hbody := (Printer.separated_inline (p.bodyPieces (.protocol values))).prepend .space
    refine ⟨_, ?_, hspells hbody rfl fun h => by cases h⟩
    simp [Printer.newBody, Printer.descriptionLine, description]

end Body

/-! ### Definitions and files -/

namespace Definition

variable {p : Printer} {d : Definition} {span : Span} {frame : Frame}

/-- The definition with its description as it is read again from its canonical text. -/
def reread (d : Definition) : Definition :=
  { d with body := d.body.mapDescription rereadDescription }

theorem reread_eq_iff :
    d.reread = d ↔ ∀ text ∈ d.body.description, rereadDescription text = text := by
  rw [← Body.mapDescription_eq_iff, reread]
  exact ⟨congrArg body, fun h => by rw [h]⟩

/-- Without a description nothing is read again. -/
theorem reread_detach (h : d.body.description = none) : d.detach.reread = d.detach := by
  refine reread_eq_iff.2 fun text htext => ?_
  rw [detach, Body.description_detach, h] at htext
  cases htext

/-- A definition on one line has no description. -/
theorem HasShape.description_eq_none (h : d.HasShape p span frame)
    (hunfolds : d.unfolds p span frame = true) : d.body.description = none := by
  by_contra hsome
  have hline := h.line (Option.isSome_iff_ne_none.2 hsome)
  rw [unfolds, hline] at hunfolds
  cases hunfolds

theorem spells_of_body {type : String} {a t : List Char} {body : Body}
    (hw : IsWord d.name.toList) (htype : definitionType? d.name = some type) (ha : IsTrivia a)
    (h : Body.Spells type t body) :
    Spells (d.name.toList ++ (a ++ '=' :: t)) { name := d.name, body } := by
  have := Spells.mk hw (by rw [String.ofList_toList]; exact htype) ha h
  rwa [String.ofList_toList] at this

/-- The canonical text of a sound and intact definition. -/
theorem spells_newDefinition (h : d.Sound p) (hintact : d.body.intact p = true)
    (hline : ∀ text ∈ d.body.description, '\n' ∉ text.toList) :
    Spells (p.newDefinition d) d.detach.reread := by
  obtain ⟨hw, ⟨type, htype, hbody⟩, -⟩ := h
  obtain ⟨t, ht, hspells⟩ := Body.spells_newBody hbody hintact hline
  rw [Printer.newDefinition, ht]
  exact spells_of_body hw htype .space hspells

/-- Behind a description the printed items start on a new line. -/
theorem HasShape.front_head? (h : d.HasShape p span frame)
    (hdescription : d.body.description.isSome) :
    (p.front span frame (p.bodyPieces d.body)).head? = some '\n' := by
  have hgap := h.gap hdescription
  obtain ⟨gap, heq⟩ := List.head?_eq_some_iff.1 hgap
  unfold Printer.front
  split
  · next hunfolds =>
    rw [Printer.unfolds, Bool.and_eq_true] at hunfolds
    have hleads := h.empty hunfolds.1
    have hnew := p.newLead_head? hunfolds.1 hleads (h.line hdescription)
    cases hitems : p.bodyPieces d.body with
    | nil => exact hgap
    | cons q qs =>
      rw [hitems] at hleads hnew
      simpa only [Printer.lead, hleads q List.mem_cons_self] using hnew
  · rw [Printer.opening, heq]
    split <;> rfl

/-- The text of a parsed definition that keeps its shape. -/
theorem spells_framed (h : d.Sound p) (hintact : d.body.intact p = true)
    (hshape : d.HasShape p span frame)
    (hfits : ∀ q ∈ p.bodyPieces d.body, q.layout.Fits p (Printer.bodyStyle d.body).comma)
    (hjoined : p.framedJoined span frame (Printer.bodyStyle d.body) (p.bodyPieces d.body) = true) :
    Spells (p.framed span frame (Printer.bodyStyle d.body) (p.bodyPieces d.body)) d.detach := by
  obtain ⟨hw, ⟨type, htype, hbody⟩, -⟩ := h
  obtain ⟨_, ⟨t, opening, ht, ⟨header, hheader, hopening⟩, rfl⟩, hframes⟩ := hshape.frames
  rw [← Option.map_id_apply (x := d.body.description)] at hheader
  have hhead := hshape.front_head?
  have hdetach : d.detach = { name := d.name, body := d.body.detach.mapDescription id } := by
    rw [Body.mapDescription_id]
    rfl
  rw [hdetach]
  cases hbraces : d.body.hasBraces with
  | true =>
    rw [hbraces, if_pos rfl] at hopening
    obtain ⟨a, ha, rfl⟩ := hopening
    have hstyle : (Printer.bodyStyle d.body).comma = false := by
      cases hcase : d.body <;> first | rfl | (rw [hcase] at hbraces; cases hbraces)
    rw [hstyle] at hfits
    rw [Body.sign, hbraces, if_pos rfl] at hframes
    obtain ⟨body, rest, htext, hstrung, hrest, text, hfront⟩ :=
      hframes.framed_strung (by decide) hstyle hfits hjoined
    have hspells := Body.spells_of_strung hbody hintact hbraces ha hheader hstrung hrest
      fun hsome => by
        rw [← List.append_assoc, hfront, List.append_assoc, List.head?_append, hhead hsome]
        rfl
    rw [htext]
    simpa using spells_of_body hw htype ht hspells
  | false =>
    rw [hbraces] at hopening
    obtain rfl : opening = header := hopening
    have hstyle : (Printer.bodyStyle d.body).comma = true := by
      cases hcase : d.body <;> first | rfl | (rw [hcase] at hbraces; cases hbraces)
    rw [hstyle] at hfits
    rw [Body.sign, hbraces] at hframes
    obtain ⟨rest, htext, hseparated, -⟩ :=
      hframes.framed_separated (by decide) hstyle hfits hjoined
    have hspells := Body.spells_of_separated hbody hbraces hheader hseparated fun hsome => by
      rw [List.append_assoc, List.head?_append, hhead hsome]
      rfl
    rw [htext]
    simpa using spells_of_body hw htype ht hspells

/-- The definition that is printed.  One without a text of its own has its description read
again. -/
def printed (d : Definition) : Definition :=
  if d.layout.span.isSome then d.detach else d.detach.reread

/-- The printed text of a sound and intact definition is a text of it, but for the description of a
definition that has no text of its own. -/
theorem Sound.spells (h : d.Sound p) (hintact : d.intact p = true) :
    Spells (p.definitionText d) d.printed := by
  obtain ⟨type, htype, hbody⟩ := h.2.1
  have hshape := h.2.2
  rw [intact, Bool.and_eq_true] at hintact
  obtain ⟨hintact, hpieces⟩ := hintact
  rw [Printer.definitionText, printed]
  cases hspan : d.layout.span with
  | none =>
    rw [hspan] at hshape
    exact spells_newDefinition h hintact hshape
  | some span =>
    cases hframe : d.frame with
    | none =>
      rw [hspan, hframe] at hshape
      exact hshape.elim
    | some frame =>
      rw [hspan, hframe] at hshape hpieces
      dsimp only at hpieces ⊢
      cases hunfolds : d.unfolds p span frame with
      | true =>
        have hnone := hshape.description_eq_none hunfolds
        have hspells := spells_newDefinition h hintact (by simp [hnone])
        rw [unfolds] at hunfolds
        rw [if_pos hunfolds]
        exact reread_detach hnone ▸ hspells
      | false =>
        rw [hunfolds, Bool.false_or] at hpieces
        rw [unfolds] at hunfolds
        rw [hunfolds]
        exact spells_framed h hintact hshape hbody.fits hpieces

/-- Texts of definitions, each of them in front of blanks and comments.  Only those behind the last
definition may end in a comment. -/
inductive Trail (S : List Char → Definition → Prop) : List Definition → List Char → Prop
  | nil : Trail S [] []
  | cons {d : Definition} {ds : List Definition} {t q text : List Char} (ht : S t d)
    (hquiet : isQuiet false q = true) (hclosed : ds ≠ [] → commentAfter false q = false)
    (h : Trail S ds text) : Trail S (d :: ds) (t ++ (q ++ text))

/-- Texts of definitions behind blanks and comments are statements. -/
theorem Trail.strung {ds : List Definition} {q text : List Char} (h : Trail Spells ds text)
    (hquiet : isQuiet false q = true) (hclosed : ds ≠ [] → commentAfter false q = false) :
    ∃ ts body rest, q ++ text = body ++ rest ∧ isQuiet false rest = true ∧ Strung ts body ∧
      List.Forall₂ Spells ts ds := by
  induction h generalizing q with
  | nil => exact ⟨[], [], q, List.append_nil q, hquiet, .nil, .nil⟩
  | @cons d ds t q' text ht hquiet' hclosed' _ ih =>
    obtain ⟨ts, body, rest, htext, hrest, hstrung, hall⟩ := ih hquiet' hclosed'
    refine ⟨t :: ts, q ++ (t ++ body), rest, by simp [htext], hrest,
      .cons ⟨hquiet, hclosed (List.cons_ne_nil _ _)⟩ hstrung, .cons ht hall⟩

/-- Statements are texts of definitions behind blanks and comments. -/
theorem Trail.of_strung {ts : List (List Char)} {ds : List Definition} {body rest : List Char}
    (h : Strung ts body) (hall : List.Forall₂ Spells ts ds) (hrest : isQuiet false rest = true) :
    ∃ q text, body ++ rest = q ++ text ∧ isQuiet false q = true ∧
      (ds ≠ [] → commentAfter false q = false) ∧ Trail Spells ds text := by
  induction h generalizing ds with
  | nil =>
    cases hall
    exact ⟨rest, [], (List.append_nil rest).symm, hrest, fun h => absurd rfl h, .nil⟩
  | @cons trivia t body ts htrivia _ ih =>
    obtain _ | ⟨ht, hall⟩ := hall
    obtain ⟨q, text, htext, hquiet, hclosed, htrail⟩ := ih hall
    exact ⟨trivia, _, by rw [← htext]; simp, htrivia.quiet, fun _ => htrivia.closed,
      .cons ht hquiet hclosed htrail⟩

end Definition

namespace Printer

variable {p : Printer}

/-- The printed texts of definitions, each of them in front of blanks and comments. -/
abbrev Trail (p : Printer) : List Definition → List Char → Prop :=
  Definition.Trail fun t d => p.definitionText d = t

/-- Printed definitions behind blanks and comments are a trail behind blanks and comments. -/
theorem trail_flatMap {lead : Piece → List Char} {ds : List Definition} {rest : List Char}
    (hlead : ∀ d ∈ ds, IsTrivia (lead (p.definitionPiece d))) (hrest : isQuiet false rest = true) :
    ∃ q text, ((ds.map p.definitionPiece).flatMap fun r => lead r ++ r.text) ++ rest = q ++ text ∧
      isQuiet false q = true ∧ (ds ≠ [] → commentAfter false q = false) ∧ p.Trail ds text := by
  induction ds with
  | nil => exact ⟨rest, [], (List.append_nil rest).symm, hrest, fun h => absurd rfl h, .nil⟩
  | cons d ds ih =>
    rw [List.forall_mem_cons] at hlead
    obtain ⟨q, text, htext, hquiet, hclosed, htrail⟩ := ih hlead.2
    refine ⟨lead (p.definitionPiece d), _, ?_, hlead.1.quiet, fun _ => hlead.1.closed,
      .cons rfl hquiet hclosed htrail⟩
    rw [← htext]
    simp [definitionPiece]

theorem intercalate_eq_flatMap (sep : List Char) (q : Piece) (qs : List Piece) :
    sep.intercalate ((q :: qs).map (·.text)) = q.text ++ qs.flatMap fun r => sep ++ r.text := by
  induction qs generalizing q with
  | nil => simp
  | cons r qs ih =>
    rw [List.map_cons, List.map_cons, List.intercalate_cons_cons, ← List.map_cons, ih]
    simp

theorem isQuiet_footer {frame : Frame}
    (h : isQuiet false (suffix frame.closeStart p.source) = true) (qs : List Piece) :
    isQuiet false (p.footer frame qs) = true := by
  rw [footer]
  split
  · split
    · exact h
    · exact h
  · exact h

theorem isQuiet_frontLead {q : Piece} (h : IsTrivia (p.textOf q.layout.lead)) :
    isQuiet false (p.frontLead q) = true := by
  rw [frontLead]
  cases hcase : from? '#' (p.textOf q.layout.lead) with
  | none => rfl
  | some comment => exact (h.from? hcase).quiet

end Printer

namespace Forest

variable {p : Printer} {f : Forest}

/-- The printed text of a sound file consists of the printed texts of its definitions.  The file is
intact if they are and if no comment in front of them is open. -/
theorem Sound.trail (h : f.Sound p) :
    ∃ q text, p.forestText f = q ++ text ∧ isQuiet false q = true ∧ p.Trail f.definitions text ∧
      (f.intact p = true ↔ (∀ d ∈ f.definitions, d.intact p = true) ∧
        (f.definitions ≠ [] → commentAfter false q = false)) := by
  have hlead {d : Definition} (hd : d ∈ f.definitions) :
      IsTrivia (p.textOf (p.definitionPiece d).layout.lead) := (h.definitions d hd).1
  have hbreak : IsTrivia "\n\n".toList := ⟨rfl, rfl⟩
  simp only [intact, Bool.and_eq_true, List.all_eq_true]
  rw [Printer.forestText]
  cases hframe : f.frame with
  | none =>
    cases hds : f.definitions with
    | nil => exact ⟨[], [], rfl, rfl, .nil, by simp⟩
    | cons d ds =>
      obtain ⟨q, text, htext, hquiet, hclosed, htrail⟩ : ∃ q text,
          ((ds.map p.definitionPiece).flatMap fun r => "\n\n".toList ++ r.text) ++ ['\n'] =
            q ++ text ∧ _ := Printer.trail_flatMap (fun _ _ => hbreak) rfl
      refine ⟨[], _, ?_, rfl, .cons rfl hquiet hclosed htrail, by simp⟩
      rw [← htext, List.map_cons, Printer.intercalate_eq_flatMap]
      simp [Printer.definitionPiece]
  | some frame =>
    have hfooter := Printer.isQuiet_footer (h.footer frame hframe)
      (f.definitions.map p.definitionPiece)
    cases hds : f.definitions with
    | nil =>
      rw [hds, List.map_nil] at hfooter
      refine ⟨p.text frame.gap ++ p.footer frame [], [], by simp [Printer.definitions], ?_, .nil,
        by simp⟩
      rw [isQuiet_append, h.gap frame hframe, isQuiet_of_comment hfooter, Bool.and_self]
    | cons d ds =>
      rw [hds] at hlead hfooter
      have hfurther : ∀ r ∈ ds, IsTrivia (p.lead "\n\n".toList (p.definitionPiece r)) := by
        intro r hr
        have hr := hlead (List.mem_cons_of_mem d hr)
        rw [Printer.lead]
        cases hcase : (p.definitionPiece r).layout.lead with
        | none => exact hbreak
        | some lead =>
          rw [hcase] at hr
          exact hr
      obtain ⟨q, text, htext, hquiet, hclosed, htrail⟩ := Printer.trail_flatMap hfurther hfooter
      refine ⟨p.text frame.gap ++ p.frontLead (p.definitionPiece d), _, ?_, ?_,
        .cons rfl hquiet hclosed htrail, by simp⟩
      · rw [← htext]
        simp [Printer.definitions, Printer.furtherDefinitions, Printer.definitionPiece]
      · rw [isQuiet_append, h.gap frame hframe, Bool.true_and]
        exact isQuiet_of_comment (Printer.isQuiet_frontLead (hlead List.mem_cons_self)) _

/-- The printed text of a sound and intact file consists of texts of its definitions, with blanks
and comments behind them. -/
theorem Sound.strung (h : f.Sound p) (hintact : f.intact p = true) :
    ∃ ts body rest, p.forestText f = body ++ rest ∧ isQuiet false rest = true ∧ Strung ts body ∧
      List.Forall₂ Definition.Spells ts (f.definitions.map Definition.printed) := by
  obtain ⟨q, text, htext, hquiet, htrail, hiff⟩ := h.trail
  obtain ⟨hall, hclosed⟩ := hiff.1 hintact
  have hspells {ds : List Definition} {text : List Char} (htrail : p.Trail ds text)
      (hds : ∀ d ∈ ds, Definition.Spells (p.definitionText d) d.printed) :
      Definition.Trail Definition.Spells (ds.map Definition.printed) text := by
    induction htrail with
    | nil => exact .nil
    | cons ht hquiet hclosed _ ih =>
      rw [List.forall_mem_cons] at hds
      exact .cons (ht ▸ hds.1) hquiet (fun h => hclosed (by simpa using h)) (ih hds.2)
  rw [htext]
  exact (hspells htrail fun d hd => (h.definitions d hd).2.spells (hall d hd)).strung hquiet
    fun h => hclosed (by simpa using h)

/-- The printed text of a sound and intact file is read as its definitions. -/
theorem Sound.parse (h : f.Sound p) (hintact : f.intact p = true) :
    ∃ g, Forest.parse (p.forestText f) = .ok g ∧
      g.content = f.definitions.map Definition.printed := by
  obtain ⟨ts, body, rest, htext, hrest, hstrung, hspells⟩ := h.strung hintact
  rw [htext]
  exact Forest.parse_strung hstrung hrest hspells

end Forest

end PolicyEditor
