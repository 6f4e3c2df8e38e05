import PolicyEditor.Proofs.Layout.Reprinting
import PolicyEditor.Proofs.Weight.Contents
import PolicyEditor.Proofs.Weight.Retention

/-!
# The weight of what is printed

The printed text of a sound node weighs at most as much as the content of the node, and less if the
node is not intact.  So a text that is read as the content of a node has all of its weight only if
the node is intact.

## Main results

* `Attribute.Sound.retains`, `Union.Sound.retains`, `Rule.Sound.retains` : the printed text of a
  node retains the weight of the node if the node is intact.
* `Definition.Sound.retains` : so does the text of a definition behind its header.
-/

namespace PolicyEditor

open Text

/-! ### Items of lists -/

section Items

variable {p : Printer} {m : Weight} {qs : List Piece} {n : Nat} {kept : Bool}

theorem Weight.RetainsAll.of_text_le {t : List Char} (h : m.RetainsAll qs n kept)
    (hle : m.text .between t ≤ (qs.map fun q => m.text .between q.text).sum) :
    m.Retains t n kept :=
  ⟨hle.trans h.le, fun hcounts hlost => hle.trans_lt (h.lt hcounts hlost)⟩

theorem Weight.text_inline_le (m : Weight) : (qs : List Piece) →
    m.text .between (Printer.inline qs) ≤ (qs.map fun q => m.text .between q.text).sum
  | [] => Nat.le_refl 0
  | [q] => by simp [Printer.inline]
  | q :: r :: qs => by
    have hrest := m.text_inline_le (r :: qs)
    have hcomma : m.text .between ", ".toList = 0 := rfl
    have hinline :
        Printer.inline (q :: r :: qs) = q.text ++ (", ".toList ++ Printer.inline (r :: qs)) :=
      List.append_assoc _ _ _
    rw [hinline, List.map_cons, List.sum_cons]
    refine (m.text_append_le _ _ _).trans (Nat.add_le_add_left ?_ _)
    refine (m.text_append_le _ _ _).trans ?_
    rwa [hcomma, Nat.zero_add]

/-- Pieces on one line with commas between them retain their weight. -/
theorem Weight.RetainsAll.inline (h : m.RetainsAll qs n kept) :
    m.Retains (Printer.inline qs) n kept :=
  h.of_text_le (m.text_inline_le qs)

theorem Weight.text_flatMap_le (m : Weight) {f : Piece → List Char}
    (hline : ∀ q ∈ qs, m.text .between (f q) ≤ m.text .between q.text) :
    m.text .between (qs.flatMap f) ≤ (qs.map fun q => m.text .between q.text).sum := by
  induction qs with
  | nil => exact Nat.le_refl 0
  | cons q qs ih =>
    rw [List.forall_mem_cons] at hline
    rw [List.flatMap_cons, List.map_cons, List.sum_cons]
    exact (m.text_append_le _ _ _).trans (Nat.add_le_add hline.1 (ih hline.2))

theorem Weight.text_quiet_append_le (m : Weight) {a : List Char} (h : isQuiet false a = true)
    (b : List Char) : m.text .between (a ++ b) ≤ m.text .between b := by
  simpa [m.text_eq_zero _ h] using m.text_append_le .between a b

/-- Pieces behind blanks retain their weight. -/
theorem Weight.RetainsAll.flatMap (h : m.RetainsAll qs n kept) {l : Piece → List Char}
    (hlead : ∀ q ∈ qs, isQuiet false (l q) = true) :
    m.Retains (qs.flatMap fun q => l q ++ q.text) n kept :=
  h.of_text_le (m.text_flatMap_le fun q hq => m.text_quiet_append_le (hlead q hq) _)

/-- The pieces of sound entries retain the weight of their contents. -/
theorem Weight.RetainsAll.items {α : Type} {canonical : α → List Char} {S : List Char → α → Prop}
    {w : α → Nat} (hS : ∀ t a, S t a → m.Weighs t (w a)) {items : List (Item α)}
    (h : ∀ x ∈ items, x.Sound p canonical S) :
    m.RetainsAll (items.map fun x => ⟨x.layout, p.item canonical x⟩)
      (items.map fun x => w x.content).sum true := by
  have := Weight.RetainsAll.map (m := m) (k := fun _ => true)
    (q := fun x : Item α => ⟨x.layout, p.item canonical x⟩)
    fun x hx => (hS _ _ (h x hx).spells).retains
  rwa [List.all_eq_true.2 fun _ _ => rfl] at this

theorem Weight.RetainsAll.members {elements : List Member} (h : ∀ e ∈ elements, Member.Sound p e) :
    m.RetainsAll (p.members elements) (m.ofMembers elements) true :=
  .items (fun _ _ h => h.weighs m) h

theorem Weight.RetainsAll.values {values : List Value} (h : ∀ v ∈ values, Value.Sound p v) :
    m.RetainsAll (p.values values) (m.ofValues values) true :=
  .items (fun _ _ h => h.weighs m) h

theorem Printer.opens_members {elements : List Member} (h : ∀ e ∈ elements, Member.Sound p e) :
    ∀ q ∈ p.members elements, OpensWithout .comma q.text := by
  intro q hq
  obtain ⟨e, he, rfl⟩ := List.mem_map.1 hq
  exact (h e he).spells.opensTyped.opensWithout (by decide) (by decide)

theorem Printer.opens_values {values : List Value} (h : ∀ v ∈ values, Value.Sound p v) :
    ∀ q ∈ p.values values, OpensWithout .comma q.text := by
  intro q hq
  obtain ⟨v, hv, rfl⟩ := List.mem_map.1 hq
  exact (h v hv).spells.opensWithout rfl

theorem Frame.Frames.framed_header {span : Span} {frame : Frame} {header sign : List Char}
    (h : frame.Frames p span header sign) (style : ListStyle) (items : List Piece) :
    ∃ rest, p.framed span frame style items = header ++ rest := by
  cases items with
  | nil => exact ⟨_, by rw [Printer.framed_nil, h.header_eq]⟩
  | cons q qs => exact ⟨_, by rw [Printer.framed_cons, h.header_eq]⟩

end Items

/-! ### Attributes -/

section Attributes

variable {p : Printer} (m : Weight)

/-- The printed text of an attribute starts with its name. -/
theorem Attribute.Sound.opens {a : Attribute} (h : a.Sound p) :
    OpensWithout .comma (p.attributeText a) := by
  obtain ⟨name, value, ⟨span, lead, sep⟩, frame⟩ := a
  obtain ⟨⟨hw, hshape⟩, -⟩ := h
  suffices ∃ rest, p.attributeText ⟨name, value, ⟨span, lead, sep⟩, frame⟩ = name.toList ++ rest by
    obtain ⟨rest, hrest⟩ := this
    exact hrest ▸ hw.opensWithout (by decide) rest
  cases span with
  | none => exact ⟨_, rfl⟩
  | some span =>
    cases frame with
    | none =>
      cases value with
      | flag =>
        obtain ⟨t, -, htext⟩ := hshape
        exact ⟨_, htext⟩
      | _ => exact hshape.elim
    | some frame =>
      cases value with
      | flag => exact hshape.elim
      | values values =>
        obtain ⟨t, -, hframes⟩ := hshape
        obtain ⟨rest, hrest⟩ := hframes.framed_header .values (p.values values)
        exact ⟨_, hrest.trans (List.append_assoc _ _ _)⟩
      | block attributes =>
        obtain ⟨t, t', -, -, hframes⟩ := hshape
        obtain ⟨rest, hrest⟩ := hframes.framed_header .statements (p.attributePieces attributes)
        exact ⟨_, hrest.trans (List.append_assoc _ _ _)⟩

theorem Printer.opens_attributePieces {as : List Attribute} (h : AllSound p as) :
    ∀ q ∈ p.attributePieces as, OpensWithout .comma q.text := by
  intro q hq
  rw [attributePieces_eq_map] at hq
  obtain ⟨a, ha, rfl⟩ := List.mem_map.1 hq
  exact (allSound_iff.1 h a ha).2.opens

theorem Attribute.retains_values {name : String} {values : List Value} {layout : Layout}
    {frame : Option Frame} (h : Attribute.HasShape p ⟨name, .values values, layout, frame⟩)
    (hvalues : ∀ v ∈ values, Value.Sound p v) :
    m.Retains (p.attributeText ⟨name, .values values, layout, frame⟩)
      (m.ofAttribute ⟨name, .values values, layout, frame⟩)
      (Attribute.joined p ⟨name, .values values, layout, frame⟩) := by
  obtain ⟨hw, hshape⟩ := h
  have hall := Weight.RetainsAll.values (m := m) hvalues
  obtain ⟨span, lead, sep⟩ := layout
  cases span with
  | none =>
    have hequals : m.Closes " = ".toList (m.sign '=') :=
      .trivia_append .space (.sign_append (κ := .equals) rfl (.trivia .space))
    have htext := (Weight.Weighs.word (m := m) hw).retains.append (hequals.retains.append
      (hall.inline.append (Weight.Closes.sign (m := m) (κ := .semicolon) rfl).retains))
    simpa [Printer.attributeText, Printer.newValue, Weight.ofAttribute, Weight.ofAttributeValue,
      Attribute.joined] using htext
  | some span =>
    cases frame with
    | none => exact hshape.elim
    | some frame =>
      obtain ⟨t, ht, hframes⟩ := hshape
      obtain ⟨text, htext, -, hretains⟩ := hframes.retains_framed (σ := .values)
        (κ := .semicolon) rfl (by decide) (Printer.fits_values hvalues)
        (Printer.opens_values hvalues)
      have hheader := ((Weight.Weighs.word (m := m) hw).close_sign ht (κ := .equals) rfl .nil)
      have := hheader.retains.append (hretains hall)
      rw [← htext] at this
      simpa [Printer.attributeText, Printer.framedValue, Weight.ofAttribute,
        Weight.ofAttributeValue, Attribute.joined, Attribute.pieces, Attribute.style,
        Nat.add_assoc] using this

theorem Attribute.retains_block {name : String} {attributes : List Attribute} {layout : Layout}
    {frame : Option Frame} {kept : Bool}
    (h : Attribute.HasShape p ⟨name, .block attributes, layout, frame⟩)
    (hsound : AllSound p attributes)
    (hall : m.RetainsAll (p.attributePieces attributes) (m.ofAttributes attributes) kept) :
    m.Retains (p.attributeText ⟨name, .block attributes, layout, frame⟩)
      (m.ofAttribute ⟨name, .block attributes, layout, frame⟩)
      (Attribute.joined p ⟨name, .block attributes, layout, frame⟩ && kept) := by
  obtain ⟨hw, hshape⟩ := h
  obtain ⟨span, lead, sep⟩ := layout
  cases span with
  | none =>
    have hopen : m.Closes " = \x7b".toList (m.sign '=' + m.sign '\x7b') :=
      .trivia_append .space (.sign_append (κ := .equals) rfl
        (.trivia_append .space (.sign (κ := .openBrace) rfl)))
    have hclose : m.Closes " \x7d".toList (m.sign '\x7d') :=
      .trivia_append .space (.sign (κ := .closeBrace) rfl)
    have hspaced : m.Retains (Printer.spaced (p.attributePieces attributes)) _ kept :=
      hall.flatMap (l := fun _ => [' ']) fun _ _ => rfl
    have htext := (Weight.Weighs.word (m := m) hw).retains.append (hopen.retains.append
      (hspaced.append hclose.retains))
    simpa [Printer.attributeText, Printer.newValue, Weight.ofAttribute, Weight.ofAttributeValue,
      Attribute.joined, Nat.add_assoc] using htext
  | some span =>
    cases frame with
    | none => exact hshape.elim
    | some frame =>
      obtain ⟨t, t', ht, ht', hframes⟩ := hshape
      obtain ⟨text, htext, -, hretains⟩ := hframes.retains_framed (σ := .statements)
        (κ := .closeBrace) rfl (by decide) (Printer.fits_attributePieces hsound)
        (Printer.opens_attributePieces hsound)
      have hheader := (Weight.Weighs.word (m := m) hw).close_sign ht (κ := .equals) rfl
        (.trivia_append ht' (.sign (κ := .openBrace) rfl))
      have := hheader.retains.append (hretains hall)
      rw [← htext] at this
      simpa [Printer.attributeText, Printer.framedValue, Weight.ofAttribute,
        Weight.ofAttributeValue, Attribute.joined, Attribute.pieces, Attribute.style, Bool.and_comm,
        Nat.add_assoc] using this

mutual

/-- The printed text of an attribute retains its weight if the attribute is intact. -/
theorem Attribute.Sound.retains : (a : Attribute) → a.Sound p →
    m.Retains (p.attributeText a) (m.ofAttribute a) (a.intact p)
  | ⟨name, .flag, layout, frame⟩, h => by
    have hintact : Attribute.intact p ⟨name, .flag, layout, frame⟩ = true := by
      obtain ⟨span, lead, sep⟩ := layout
      cases span <;> cases frame <;> rfl
    rw [hintact]
    have := ((Attribute.spells_flag h.1).closes m).retains
    simpa [Weight.ofAttribute] using this
  | ⟨name, .values values, layout, frame⟩, h => by
    rw [Attribute.intact, AttributeValue.intact, Bool.and_true]
    exact Attribute.retains_values m h.1 h.2
  | ⟨name, .block attributes, layout, frame⟩, h => by
    rw [Attribute.intact, AttributeValue.intact]
    exact Attribute.retains_block m h.1 h.2 (AllSound.retains attributes h.2)

/-- The printed texts of the attributes of a block retain their weight if all are intact. -/
theorem AllSound.retains : (as : List Attribute) → AllSound p as →
    m.RetainsAll (p.attributePieces as) (m.ofAttributes as) (allIntact p as)
  | [], _ => .nil
  | a :: as, h => .cons (Attribute.Sound.retains a h.1.2) (AllSound.retains as h.2)

end

end Attributes

/-! ### Unions and rules -/

namespace Union

variable {p : Printer} {u : Union} (m : Weight) {header : List Char}

theorem Header.keyword (h : u.Header header) : ∃ rest, header = u.role.keyword.toList ++ rest := by
  obtain ⟨t, -, hheader⟩ := h
  split at hheader
  · obtain ⟨t', -, rfl⟩ := hheader
    exact ⟨_, rfl⟩
  · exact ⟨_, hheader⟩

/-- The texts in front of the entries of a union with the weight of its keywords. -/
theorem Header.weighs (h : u.Header header) :
    m.Weighs header (m.text .between u.role.keyword.toList + (m.sign '=' +
      if u.foreach then m.text .between "foreach".toList else 0)) := by
  obtain ⟨t, ht, hheader⟩ := h
  have hkeyword := Weight.Weighs.word (m := m) (isWord_keyword u.role)
  cases hforeach : u.foreach with
  | true =>
    rw [hforeach, if_pos rfl] at hheader
    obtain ⟨t', ht', rfl⟩ := hheader
    have hw : IsWord "foreach".toList := by decide
    have hequals := hkeyword.close_sign ht (κ := .equals) rfl (Weight.Closes.trivia ht')
    have := hequals.append_weighs (Weight.Weighs.word (m := m) hw)
    simpa [Nat.add_assoc] using this
  | false =>
    rw [hforeach, if_neg Bool.false_ne_true] at hheader
    rw [hheader]
    exact (hkeyword.close_sign ht (κ := .equals) rfl .nil).weighs

/-- Behind the keyword `foreach` a word may go on. -/
theorem Header.after (h : u.Header header) (hforeach : u.foreach = true) :
    Scan.between.after header = .word := by
  obtain ⟨t, ht, hheader⟩ := h
  rw [hforeach, if_pos rfl] at hheader
  obtain ⟨t', ht', rfl⟩ := hheader
  have hequals := (Weight.Weighs.word (m := ⟨0, fun _ => 0⟩) (isWord_keyword u.role)).close_sign ht
    (κ := .equals) rfl (Weight.Closes.trivia ht')
  rw [show u.role.keyword.toList ++ (t ++ '=' :: (t' ++ "foreach".toList)) =
    u.role.keyword.toList ++ (t ++ '=' :: t') ++ "foreach".toList by simp, Scan.after_append,
    hequals.after]
  rfl

/-- The printed text of a union starts with its keyword. -/
theorem Sound.opens (h : u.Sound p) : OpensWithout .comma (p.unionText u) := by
  suffices ∃ rest, p.unionText u = u.role.keyword.toList ++ rest by
    obtain ⟨rest, hrest⟩ := this
    exact hrest ▸ (isWord_keyword u.role).opensWithout (by decide) rest
  obtain ⟨-, -, hshape⟩ := h
  rw [Printer.unionText]
  cases hspan : u.layout.span with
  | none => exact ⟨_, by simp only [Printer.newUnion, List.append_assoc]; rfl⟩
  | some span =>
    cases hframe : u.frame with
    | none =>
      rw [hspan, hframe] at hshape
      exact hshape.elim
    | some frame =>
      rw [hspan, hframe] at hshape
      obtain ⟨header, hheader, hframes⟩ := hshape
      obtain ⟨rest, hrest⟩ := hframes.framed_header .values (p.members u.elements)
      obtain ⟨text, htext⟩ := hheader.keyword
      exact ⟨text ++ rest, by rw [← List.append_assoc, ← htext]; exact hrest⟩

/-- The printed text of a parsed union retains its weight if the union is intact.  An empty union
loses nothing although it cannot be read. -/
theorem retains_framed {span : Span} {frame : Frame}
    (helements : ∀ e ∈ u.elements, Member.Sound p e) (hheader : u.Header header)
    (hframes : frame.Frames p span header [';']) :
    m.Retains (p.framed span frame .values (p.members u.elements)) (m.ofUnion u)
      (p.framedJoined span frame .values (p.members u.elements) && u.keepsForeach p span frame ||
        !u.isFilled) := by
  obtain ⟨text, htext, hfirst, hretains⟩ := hframes.retains_framed (σ := .values)
    (κ := .semicolon) rfl (by decide) (Printer.fits_members helements)
    (Printer.opens_members helements)
  have hitems := hretains (Weight.RetainsAll.members (m := m) helements)
  have hweighs := hheader.weighs m
  have hweight : m.ofUnion u = (m.text .between u.role.keyword.toList + (m.sign '=' +
      if u.foreach then m.text .between "foreach".toList else 0)) +
        (m.ofMembers u.elements + m.sign ';') := by
    rw [Weight.ofUnion]
    omega
  rw [htext, hweight]
  have hboth := hweighs.retains.append hitems
  refine ⟨hboth.le, fun hcounts hlost => ?_⟩
  rw [Bool.or_eq_false_iff, Bool.and_eq_false_iff, Bool.not_eq_false'] at hlost
  obtain ⟨hjoined | hkeeps, hfilled⟩ := hlost
  · exact hboth.lt hcounts hjoined
  · -- The keyword goes on with the first entry, which so is no word of its own.
    rw [keepsForeach, Bool.or_eq_false_iff, Bool.not_eq_false'] at hkeeps
    obtain ⟨hforeach, hkeeps⟩ := hkeeps
    cases helems : u.elements with
    | nil => simp [isFilled, hforeach, helems] at hfilled
    | cons e es =>
      rw [helems] at hkeeps hfirst hitems helements
      simp only [Bool.or_eq_false_iff, Bool.not_eq_false', List.isEmpty_iff] at hkeeps
      obtain ⟨hfront, hbang⟩ := hkeeps
      obtain ⟨rest, rfl⟩ : ∃ rest, text = p.item Element.chars e ++ rest := hfirst _ rfl
      obtain ⟨c, hc, hkind⟩ := (helements e List.mem_cons_self).spells.opensWord hbang
      obtain ⟨cs, hcs⟩ := List.head?_eq_some_iff.1 hc
      rw [hfront, List.nil_append, hcs, List.cons_append] at hitems ⊢
      calc m.text .between (header ++ c :: (cs ++ rest))
          = m.text .between header + m.text .word (c :: (cs ++ rest)) := by
            rw [Weight.text_append, hheader.after hforeach]
        _ < m.text .between header + m.text .between (c :: (cs ++ rest)) :=
            Nat.add_lt_add_left (Weight.text_word_lt hcounts hkind _) _
        _ ≤ _ := Nat.add_le_add hweighs.text.le hitems.le

/-- The printed text of a union retains its weight if the union is intact.  An empty union loses
nothing although it cannot be read. -/
theorem Sound.retains (h : u.Sound p) :
    m.Retains (p.unionText u) (m.ofUnion u) (u.intact p || !u.isFilled) := by
  obtain ⟨helements, -, hshape⟩ := h
  rw [Printer.unionText, intact]
  cases hspan : u.layout.span with
  | none =>
    have hkeyword := (Weight.Weighs.word (m := m) (isWord_keyword u.role)).retains
    have hequals : m.Closes " = ".toList (m.sign '=') :=
      .trivia_append .space (.sign_append (κ := .equals) rfl (.trivia .space))
    have hforeach : m.Closes (if u.foreach then "foreach ".toList else [])
        (if u.foreach then m.text .between "foreach".toList else 0) := by
      have hw : IsWord "foreach".toList := by decide
      split
      · exact (Weight.Weighs.word hw).close (.trivia .space) (.cons (by decide) _) (by simp)
      · exact .nil
    have := hkeyword.append (hequals.retains.append (hforeach.retains.append
      ((Weight.RetainsAll.members helements).inline.append
        (Weight.Closes.sign (m := m) (κ := .semicolon) rfl).retains)))
    rw [Bool.or_not_self]
    simpa only [Printer.newUnion, Weight.ofUnion, List.append_assoc, Bool.and_true] using this
  | some span =>
    cases hframe : u.frame with
    | none =>
      rw [hspan, hframe] at hshape
      exact hshape.elim
    | some frame =>
      rw [hspan, hframe] at hshape
      obtain ⟨header, hheader, hframes⟩ := hshape
      exact retains_framed m helements hheader hframes

end Union

namespace Rule

variable {p : Printer} {r : Rule} (m : Weight)

/-- The pieces of the parts of a rule retain their weight. -/
theorem SoundParts.retains (h : r.SoundParts p) :
    m.RetainsAll (p.rulePieces r) (m.ofUnion r.src + (m.ofUnion r.dst +
      (m.ofAttribute r.prt + (r.log.toList.map m.ofAttribute).sum))) (r.intact p) := by
  have hfilled {u : Union} (h : u.Sound p) (hrole : u.role ≠ .user) : u.isFilled = true := by
    rw [Union.isFilled]
    cases hforeach : u.foreach with
    | false => rfl
    | true => exact absurd (h.2.1 hforeach) hrole
  have hsrc := h.src.retains m
  have hdst := h.dst.retains m
  rw [hfilled h.src (by rw [h.src_role]; decide), Bool.not_true, Bool.or_false] at hsrc
  rw [hfilled h.dst (by rw [h.dst_role]; decide), Bool.not_true, Bool.or_false] at hdst
  have hprt := Attribute.Sound.retains m r.prt h.prt
  have hlog : m.RetainsAll (r.log.toList.map p.attributePiece) _ _ :=
    .map fun a ha => Attribute.Sound.retains m a (h.log a (by simpa using ha))
  have hall : r.log.toList.all (·.intact p) = r.log.all (·.intact p) := by
    cases r.log <;> simp
  have := Weight.RetainsAll.cons (q := p.unionPiece r.src) hsrc
    (.cons (q := p.unionPiece r.dst) hdst (.cons (q := p.attributePiece r.prt) hprt hlog))
  simpa [intact, Printer.rulePieces, Bool.and_assoc, hall] using this

/-- The printed text of a rule starts with its action. -/
theorem Sound.opens (h : r.Sound p) : OpensWithout .comma (p.ruleText r) := by
  suffices ∃ rest, p.ruleText r = r.action.keyword.toList ++ rest by
    obtain ⟨rest, hrest⟩ := this
    exact hrest ▸ (isWord_keyword r.action).opensWithout (by decide) rest
  have hshape := h.shape
  rw [Printer.ruleText]
  cases hspan : r.layout.span with
  | none => exact ⟨_, rfl⟩
  | some span =>
    cases hframe : r.frame with
    | none =>
      rw [hspan, hframe] at hshape
      exact hshape.elim
    | some frame =>
      rw [hspan, hframe] at hshape
      exact hshape.1.framed_header .statements (p.rulePieces r)

/-- The printed text of a rule retains its weight if the rule is intact. -/
theorem Sound.retains (h : r.Sound p) : m.Retains (p.ruleText r) (m.ofRule r) (r.intact p) := by
  have hparts := h.toSoundParts.retains m
  have hkeyword := (Weight.Weighs.word (m := m) (isWord_keyword r.action)).retains
  have hshape := h.shape
  rw [Printer.ruleText]
  cases hspan : r.layout.span with
  | none =>
    have hspaced : m.Retains (Printer.spaced (p.rulePieces r)) _ _ :=
      hparts.flatMap (l := fun _ => [' ']) fun _ _ => rfl
    exact hkeyword.append hspaced
  | some span =>
    cases hframe : r.frame with
    | none =>
      rw [hspan, hframe] at hshape
      exact hshape.elim
    | some frame =>
      rw [hspan, hframe] at hshape
      have hfits : ∀ q ∈ p.rulePieces r, q.layout.Fits p false := fun q hq => (h.pieces q hq).1
      have hfront := (hshape.1.front_isTrivia hfits).quiet
      have hlead (q : Piece) (hq : q ∈ p.rulePieces r) :=
        (Printer.lead_isTrivia (p.newLead_isTrivia span frame (p.rulePieces r)) (hfits q hq)).quiet
      dsimp only
      rw [h.framed_eq hspan hframe]
      refine hkeyword.append (.quiet_append hfront (hparts.of_text_le ?_))
      refine (m.text_append_le _ _ _).trans
        (Nat.add_le_add_left (m.text_flatMap_le fun q hq => ?_) _)
      exact m.text_quiet_append_le (hlead q (List.mem_cons_of_mem _ hq)) _

end Rule

/-! ### Bodies -/

namespace Body

variable {p : Printer} {type : String} {b : Body} (m : Weight)

/-- The items of a body retain their weight if the parts of the body are intact. -/
theorem Sound.retains (h : b.Sound p type) (hreadable : b.isReadable = true) :
    m.RetainsAll (p.bodyPieces b) (m.ofPieces b) (b.intact p) := by
  cases b with
  | struct b =>
    rw [intact, show Describable _ _ = true from hreadable, Bool.and_true]
    exact AllSound.retains m b.attributes h.2
  | network b =>
    rw [intact, show Describable _ _ = true from hreadable, Bool.and_true]
    exact AllSound.retains m b.attributes h.2
  | group g => exact .members h.2
  | protocol values => exact .values h.2
  | service s =>
    rw [isReadable, Bool.and_eq_true] at hreadable
    have huser := h.2.user.retains m
    rw [hreadable.2, Bool.not_true, Bool.or_false] at huser
    have hrules : m.RetainsAll (s.rules.map fun r => (⟨r.layout, p.ruleText r⟩ : Piece)) _ _ :=
      .map fun r hr => (h.2.rules r hr).2.retains m
    rw [intact, Service.intact, hreadable.1, Bool.and_true, Bool.and_assoc]
    exact (AllSound.retains m s.attributes h.2.attributes).append
      (.cons (q := p.unionPiece s.user) huser hrules)

theorem Sound.opens (h : b.Sound p type) :
    ∀ q ∈ p.bodyPieces b, OpensWithout .comma q.text := by
  cases b with
  | struct b => exact Printer.opens_attributePieces h.2
  | network b => exact Printer.opens_attributePieces h.2
  | group g => exact Printer.opens_members h.2
  | protocol values => exact Printer.opens_values h.2
  | service s =>
    simp only [Printer.bodyPieces, List.forall_mem_append, List.forall_mem_cons,
      List.forall_mem_map]
    exact ⟨Printer.opens_attributePieces h.2.attributes, h.2.user.opens,
      fun r hr => (h.2.rules r hr).2.opens⟩

/-- What stands in front of the items depends on the description and the kind of brackets only. -/
theorem Opening.congr {b' : Body} {text : List Char} (h : b.Opening text)
    (hdescription : b'.description = b.description) (hbraces : b'.hasBraces = b.hasBraces) :
    b'.Opening text := by
  rwa [Opening, hdescription, hbraces]

/-- A canonical text of a body: what stands in front of the items and the items, which retain their
weight. -/
structure Reprints (p : Printer) (b : Body) (t opening items : List Char) : Prop where
  eq : t = ' ' :: '=' :: (opening ++ items)
  opening : (b.mapDescription rereadDescription).Opening opening
  line : b.description.isSome → items.head? = some '\n'
  retains : ∀ {m : Weight} {kept : Bool}, m.RetainsAll (p.bodyPieces b) (m.ofPieces b) kept →
    m.Retains items (m.ofItems b) kept

/-- The canonical text of a block in braces. -/
theorem reprints_newBlock (hbraces : b.hasBraces = true)
    (hline : ∀ d ∈ b.description, '\n' ∉ d.toList) :
    ∃ opening items,
      b.Reprints p (p.newBlock b.description (p.bodyPieces b)) opening items := by
  refine ⟨[' '] ++ '\x7b' :: p.descriptionLine b.description,
    (p.bodyPieces b).flatMap (fun q => p.newLine q.text) ++ "\n\x7d".toList, ?_⟩
  have hbraces' : (b.mapDescription rereadDescription).hasBraces = true := by
    cases b <;> first | rfl | cases hbraces
  have hsign : b.sign = ['\x7d'] := by rw [sign, hbraces, if_pos rfl]
  refine
    { eq := by simp [Printer.newBlock]
      opening := ⟨_, description_mapDescription _ b ▸ p.spells_descriptionLine hline, ?_⟩
      line := fun _ => p.head?_lines _ _ rfl
      retains := fun {m kept} hall => ?_ }
  · rw [hbraces', if_pos rfl]
    exact ⟨[' '], .space, rfl⟩
  · have hlead := (Printer.isTrivia_newline (Printer.indentation_isTrivia p.indentation 1)).quiet
    have hclose : m.Closes "\n\x7d".toList (m.sign '\x7d') :=
      .trivia_append (a := ['\n']) ⟨rfl, rfl⟩ (.sign (κ := .closeBrace) rfl)
    have hlines : m.Retains ((p.bodyPieces b).flatMap fun q => p.newLine q.text) _ kept :=
      hall.flatMap (l := fun _ => '\n' :: p.indentation.text 1) fun _ _ => hlead
    rw [Weight.ofItems, hsign]
    exact Bool.and_true kept ▸ hlines.append hclose.retains

/-- The canonical text of an element list. -/
theorem reprints_newGroup {g : Group} (hline : ∀ d ∈ g.description, '\n' ∉ d.toList) :
    ∃ opening items, (group g).Reprints p (p.newBody (group g)) opening items := by
  rw [Printer.newBody]
  split
  · next hnil =>
    rw [Bool.and_eq_true, List.isEmpty_iff, Option.isNone_iff_eq_none] at hnil
    have hdescription : (group g).description = none := hnil.2
    refine ⟨[], [' ', ';'],
      { eq := rfl
        opening := ⟨[], ?_, rfl⟩
        line := fun h => by rw [hdescription] at h; cases h
        retains := fun {m kept} hall => ?_ }⟩
    · rw [description_mapDescription, hdescription]
      exact .absent
    · have hclose : m.Closes [' ', ';'] (m.sign ';') :=
        .trivia_append .space (.sign (κ := .semicolon) rfl)
      have := (hall.of_text_le (t := []) (Nat.zero_le _)).append hclose.retains
      rwa [Bool.and_true] at this
  · refine ⟨p.descriptionLine g.description,
      (p.bodyPieces (group g)).flatMap (fun q => p.newLine (q.text ++ [','])) ++ "\n;".toList,
      { eq := by simp
        opening := ⟨_, p.spells_descriptionLine hline, rfl⟩
        line := fun _ => p.head?_lines _ _ rfl
        retains := fun {m kept} hall => ?_ }⟩
    have hlead := (Printer.isTrivia_newline (Printer.indentation_isTrivia p.indentation 1)).quiet
    have hlines := hall.of_text_le (m.text_flatMap_le (f := fun q => p.newLine (q.text ++ [',']))
      fun q _ => (m.text_quiet_append_le hlead _).trans (m.text_append_le _ q.text [',']))
    have hclose : m.Closes "\n;".toList (m.sign ';') :=
      .trivia_append (a := ['\n']) ⟨rfl, rfl⟩ (.sign (κ := .semicolon) rfl)
    have := hlines.append hclose.retains
    rwa [Bool.and_true] at this

/-- The canonical text of a body retains the weight of its items. -/
theorem reprints_newBody (hline : ∀ d ∈ b.description, '\n' ∉ d.toList) :
    ∃ opening items, b.Reprints p (p.newBody b) opening items := by
  cases b with
  | struct b => exact reprints_newBlock rfl hline
  | network b => exact reprints_newBlock rfl hline
  | service s => exact reprints_newBlock rfl hline
  | group g => exact reprints_newGroup hline
  | protocol values =>
    refine ⟨[], ' ' :: (Printer.inline (p.values values) ++ [';']),
      { eq := by simp [Printer.newBody, Printer.bodyPieces]
        opening := ⟨[], .absent, rfl⟩
        line := fun h => by cases h
        retains := fun {m kept} hall => ?_ }⟩
    have := hall.inline.append (Weight.Closes.sign (m := m) (κ := .semicolon) rfl).retains
    rw [Bool.and_true] at this
    exact .quiet_append (a := [' ']) rfl this

end Body

/-! ### Definitions -/

namespace Definition

variable {p : Printer} {d : Definition}

/-- The printed text of a definition: its header, and its items with the weight that they retain. -/
structure Prints (p : Printer) (d : Definition) (header items : List Char) : Prop where
  eq : p.definitionText d = header ++ items
  header : d.printed.Header header
  line : d.body.description.isSome → items.head? = some '\n'
  retains : ∀ m : Weight, m.Retains items (m.ofItems d.body) (d.intact p)

/-- The canonical text of a definition retains the weight of its items. -/
theorem Sound.prints_newDefinition (h : d.Sound p) (hreadable : d.body.isReadable = true)
    (hline : ∀ text ∈ d.body.description, '\n' ∉ text.toList) :
    ∃ header items, p.newDefinition d = header ++ items ∧ d.detach.reread.Header header ∧
      (d.body.description.isSome → items.head? = some '\n') ∧
      ∀ m : Weight, m.Retains items (m.ofItems d.body) (d.body.intact p) := by
  obtain ⟨-, ⟨type, -, hbody⟩, -⟩ := h
  obtain ⟨opening, items, hreprints⟩ := Body.reprints_newBody (p := p) hline
  refine ⟨d.name.toList ++ ([' '] ++ '=' :: opening), items, ?_, ?_, hreprints.line,
    fun m => hreprints.retains (hbody.retains m hreadable)⟩
  · rw [Printer.newDefinition, hreprints.eq]
    simp
  · refine ⟨[' '], opening, .space, hreprints.opening.congr ?_ ?_, rfl⟩
    · show (d.body.detach.mapDescription rereadDescription).description = _
      rw [Body.description_mapDescription, Body.description_mapDescription,
        Body.description_detach]
    · show (d.body.detach.mapDescription rereadDescription).hasBraces = _
      rw [Body.hasBraces_mapDescription, Body.hasBraces_mapDescription, Body.hasBraces_detach]

/-- The text of a parsed definition that keeps its shape retains the weight of its items if they are
joined. -/
theorem Sound.prints_framed {span : Span} {frame : Frame} (h : d.Sound p)
    (hreadable : d.body.isReadable = true) (hshape : d.HasShape p span frame) :
    ∃ header items, p.framed span frame (Printer.bodyStyle d.body) (p.bodyPieces d.body) =
        header ++ items ∧ d.detach.Header header ∧
      (d.body.description.isSome → items.head? = some '\n') ∧
      ∀ m : Weight, m.Retains items (m.ofItems d.body) (d.body.intact p &&
        p.framedJoined span frame (Printer.bodyStyle d.body) (p.bodyPieces d.body)) := by
  obtain ⟨-, ⟨type, -, hbody⟩, -⟩ := h
  obtain ⟨header, ⟨t, opening, ht, hopening, heq⟩, hframes⟩ := hshape.frames
  have hframed : ∀ {κ : Token.Kind} {c : Char}, κ.sign? = some c → κ ≠ .comma →
      d.body.sign = [c] → ∃ text,
        p.framed span frame (Printer.bodyStyle d.body) (p.bodyPieces d.body) =
          header ++ (p.front span frame (p.bodyPieces d.body) ++ text) ∧
        ∀ m : Weight, m.Retains (p.front span frame (p.bodyPieces d.body) ++ text)
          (m.ofItems d.body) (d.body.intact p &&
            p.framedJoined span frame (Printer.bodyStyle d.body) (p.bodyPieces d.body)) := by
    intro κ c hs hcomma hsign
    rw [hsign] at hframes
    obtain ⟨text, htext, -, hretains⟩ := hframes.retains_framed hs hcomma hbody.fits hbody.opens
    refine ⟨text, htext, fun m => ?_⟩
    rw [Weight.ofItems, hsign, (Weight.Closes.sign hs).text]
    exact hretains (hbody.retains m hreadable)
  obtain ⟨text, htext, hretains⟩ : ∃ text, _ := by
    cases hbraces : d.body.hasBraces with
    | true => exact hframed (κ := .closeBrace) rfl (by decide) (by rw [Body.sign, hbraces]; rfl)
    | false => exact hframed (κ := .semicolon) rfl (by decide) (by rw [Body.sign, hbraces]; rfl)
  refine ⟨header, _, htext, ⟨t, opening, ht, hopening.congr ?_ ?_, heq⟩, fun hsome => ?_, hretains⟩
  · exact Body.description_detach d.body
  · exact Body.hasBraces_detach d.body
  · rw [List.head?_append, hshape.front_head? hsome]
    rfl

/-- The text of a definition retains the weight of its items if the definition is intact. -/
theorem Sound.prints (h : d.Sound p) (hreadable : d.body.isReadable = true) :
    ∃ header items, d.Prints p header items := by
  have hshape := h.2.2
  cases hspan : d.layout.span with
  | none =>
    rw [hspan] at hshape
    obtain ⟨header, items, htext, hheader, hline, hretains⟩ :=
      h.prints_newDefinition hreadable hshape
    refine ⟨header, items, ⟨?_, ?_, hline, fun m => ?_⟩⟩
    · rw [Printer.definitionText, hspan]
      exact htext
    · rw [printed, hspan]
      exact hheader
    · rw [intact, hspan, Bool.and_true]
      exact hretains m
  | some span =>
    cases hframe : d.frame with
    | none =>
      rw [hspan, hframe] at hshape
      exact hshape.elim
    | some frame =>
      rw [hspan, hframe] at hshape
      have hprinted : d.printed = d.detach := by rw [printed, hspan]; rfl
      cases hunfolds : d.unfolds p span frame with
      | true =>
        have hnone := HasShape.description_eq_none hshape hunfolds
        obtain ⟨header, items, htext, hheader, hline, hretains⟩ :=
          h.prints_newDefinition hreadable (by simp [hnone])
        refine ⟨header, items, ⟨?_, ?_, hline, fun m => ?_⟩⟩
        · rw [unfolds] at hunfolds
          simpa only [Printer.definitionText, hspan, hframe, hunfolds, if_true] using htext
        · rwa [hprinted, ← reread_detach hnone]
        · simpa only [intact, hspan, hframe, hunfolds, Bool.true_or, Bool.and_true] using hretains m
      | false =>
        obtain ⟨header, items, htext, hheader, hline, hretains⟩ :=
          h.prints_framed hreadable hshape
        refine ⟨header, items, ⟨?_, hprinted ▸ hheader, hline, fun m => ?_⟩⟩
        · rw [unfolds] at hunfolds
          simpa only [Printer.definitionText, hspan, hframe, hunfolds, Bool.false_eq_true, if_false]
            using htext
        · simpa only [intact, hspan, hframe, hunfolds, Bool.false_or] using hretains m

end Definition

end PolicyEditor
