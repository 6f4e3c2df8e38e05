import PolicyEditor.Proofs.RoundTrip
import PolicyEditor.Proofs.Weight.Printed

/-!
# Files that are read back

The printed text of a sound file is read as the definitions in memory if and only if the file is
intact.  One direction puts the texts of intact definitions together.  For the other one, a text
that is read as the definitions of the file is cut in two ways: at the texts that were printed, and
at the texts that were read.  Going backwards from the end of the file, no definition is read behind
the place where it was printed, because the text from there on weighs too little.  Going forwards,
the first definition is therefore read where it was printed and from a text of the same weight, so
it is intact and ends where its printed text ends; and so on.

## Main definitions

* `Weight.characters` : the weight that counts the characters of tokens.
* `Definition.Cuts` : the header of a definition is cut in front of the text of its description.

## Main results

* `Definition.Trail.all_intact` : definitions that are read from their printed texts are intact.
* `Forest.Sound.parse_iff`, `Forest.Sound.parseFile_iff` : a sound file is read back if and only if
  it is intact.
-/

namespace PolicyEditor

open Text

/-! ### The characters of tokens -/

namespace Weight

/-- The weight that counts the characters of tokens. -/
def characters : Weight := ⟨0, fun _ => 1⟩

/-- Outside of comments the characters of tokens count the same everywhere. -/
theorem text_characters {s : Scan} (hs : s ≠ .comment) (t : List Char) :
    characters.text s t = characters.text .between t := by
  cases t with
  | nil => rfl
  | cons c t =>
    cases s with
    | between => rfl
    | comment => exact absurd rfl hs
    | word =>
      refine congrArg (· + characters.text (Scan.start c) t) ?_
      simp only [cost]
      cases Token.Kind.ofChar c <;> rfl

theorem characters_append {a : List Char} (h : commentAfter false a = false) (b : List Char) :
    characters.text .between (a ++ b) =
      characters.text .between a + characters.text .between b := by
  have hscan : Scan.between.after a ≠ .comment := by
    rw [← beq_eq_false_iff_ne, Scan.after_beq_comment]
    exact h
  rw [text_append, text_characters hscan]

/-- A text that starts with a word weighs something. -/
theorem characters_pos {t : List Char} (h : ∃ c ∈ t.head?, Token.Kind.ofChar c = .word) :
    0 < characters.text .between t := by
  obtain ⟨c, hc, hword⟩ := h
  obtain ⟨t, rfl⟩ := List.head?_eq_some_iff.1 hc
  refine Nat.add_pos_left ?_ _
  simp [cost, hword, characters]

end Weight

/-- A part at the end of a text without an open comment has none. -/
theorem Text.commentAfter_of_append {a b : List Char} (h : commentAfter false (a ++ b) = false) :
    commentAfter false b = false := by
  by_contra hopen
  rw [Bool.not_eq_false] at hopen
  rw [commentAfter_append, commentAfter_of_open hopen] at h
  cases h

theorem Text.commentAfter_weighed {m : Weight} {t : List Char} {n : Nat} (h : m.Weighs t n) :
    commentAfter false t = false := by
  have := Scan.after_beq_comment .between t
  rw [beq_eq_false_iff_ne.2 h.closed] at this
  exact this.symm

theorem Text.commentAfter_closed {m : Weight} {t : List Char} {n : Nat} (h : m.Closes t n) :
    commentAfter false t = false :=
  commentAfter_weighed h.weighs

/-! ### Visible characters -/

namespace Text

/-- The characters of a line that a description keeps for sure. -/
def visible (text : List Char) : List Char :=
  text.filter fun c => !isWhite c && c != ';'

theorem visible_append (a b : List Char) : visible (a ++ b) = visible a ++ visible b :=
  List.filter_append a b

theorem visible_cons (c : Char) (text : List Char) :
    visible (c :: text) = visible [c] ++ visible text :=
  visible_append [c] text

theorem visible_trimStart (text : List Char) : visible (trimStart text) = visible text := by
  induction text with
  | nil => rfl
  | cons c text ih =>
    rw [trimStart, List.dropWhile_cons]
    split
    · next hc =>
      rw [visible_cons, show visible [c] = [] by simp [visible, hc]]
      exact ih
    · rfl

theorem visible_trimEnd (text : List Char) : visible (trimEnd text) = visible text := by
  induction text with
  | nil => rfl
  | cons c text ih =>
    rw [visible_cons, ← ih, trimEnd]
    split
    · next hnil =>
      rw [hnil]
      split
      · next hc => simp [visible, hc]
      · exact (List.append_nil _).symm
    · exact visible_cons _ _

theorem visible_dropLastChar (text : List Char) :
    visible (dropLastChar ';' text) = visible text := by
  fun_induction dropLastChar ';' text with
  | case1 => rfl
  | case2 => rfl
  | case3 => rfl
  | case4 c cs _ ih => rw [visible_cons, ih, ← visible_cons]

/-- A description has the visible characters of its line. -/
theorem visible_descriptionOf (line : List Char) :
    visible (descriptionOf line).toList = visible line := by
  rw [descriptionOf, String.toList_ofList, visible_trimEnd, visible_dropLastChar, trim,
    visible_trimEnd, visible_trimStart]

/-- The text ends with an equals sign or an opening brace, as a header does in front of a
description or of the items. -/
def EndsHeader (text : List Char) : Prop :=
  ∃ t c, text = t ++ [c] ∧ (c = '=' ∨ c = '\x7b')

theorem EndsHeader.suffix {a b : List Char} (h : EndsHeader (a ++ b)) (hne : b ≠ []) :
    EndsHeader b := by
  obtain ⟨t, c, heq, hc⟩ := h
  obtain ⟨b, d, rfl⟩ := (List.eq_nil_or_concat b).resolve_left hne
  rw [List.concat_eq_append, ← List.append_assoc] at heq
  obtain ⟨-, hd⟩ := List.append_inj' heq rfl
  obtain rfl : d = c := by simpa using hd
  exact ⟨b, d, List.concat_eq_append, hc⟩

theorem EndsHeader.append {b : List Char} (h : EndsHeader b) (a : List Char) :
    EndsHeader (a ++ b) := by
  obtain ⟨t, c, rfl, hc⟩ := h
  exact ⟨a ++ t, c, (List.append_assoc a t [c]).symm, hc⟩

theorem EndsHeader.visible_ne {text : List Char} (h : EndsHeader text) : visible text ≠ [] := by
  obtain ⟨t, c, rfl, hc⟩ := h
  have hvisible : visible [c] = [c] := by rcases hc with rfl | rfl <;> decide
  rw [visible_append, hvisible]
  simp

/-- A text that ends like a header and not within a comment weighs something. -/
theorem EndsHeader.characters_pos {text : List Char} (h : EndsHeader text)
    (hclosed : commentAfter false text = false) : 0 < Weight.characters.text .between text := by
  obtain ⟨t, c, rfl, hc⟩ := h
  have hopen : commentAfter false t = false := by
    by_contra hopen
    rw [Bool.not_eq_false] at hopen
    rw [commentAfter_append, hopen] at hclosed
    rcases hc with rfl | rfl <;> cases hclosed
  rw [Weight.characters_append hopen]
  refine Nat.add_pos_right _ ?_
  rcases hc with rfl | rfl <;> exact Nat.zero_lt_one

end Text

/-! ### Headers of definitions -/

/-- The weight of what stands in front of the items of a definition and of the text of its
description. -/
def Weight.ofHeader (m : Weight) (d : Definition) : Nat :=
  m.text .between d.name.toList + (m.sign '=' + ((if d.body.hasBraces then m.sign '\x7b' else 0) +
    if d.body.description.isSome then m.text .between "description".toList + m.sign '=' else 0))

namespace Definition

/-- The header of a definition is cut in front of the text of its description. -/
structure Cuts (d : Definition) (key line : List Char) : Prop where
  closes : ∀ m : Weight, m.Closes key (m.ofHeader d)
  opens : ∃ c ∈ key.head?, Token.Kind.ofChar c = .word
  ends : EndsHeader key
  newline : '\n' ∉ line
  absent : d.body.description = none → line = []
  present : ∀ text ∈ d.body.description, descriptionOf line = text

theorem Header.cut {d : Definition} {header : List Char} (hw : IsWord d.name.toList)
    (h : d.Header header) : ∃ key line, header = key ++ line ∧ d.Cuts key line := by
  obtain ⟨t, opening, ht, ⟨text, htext, hopening⟩, rfl⟩ := h
  -- The bracket behind the equals sign, if the body has one.
  obtain ⟨bracket, rfl, hbracket, hends⟩ : ∃ bracket, opening = bracket ++ text ∧
      (∀ m : Weight, m.Closes bracket (if d.body.hasBraces then m.sign '\x7b' else 0)) ∧
      EndsHeader ('=' :: bracket) := by
    cases hbraces : d.body.hasBraces with
    | true =>
      rw [hbraces, if_pos rfl] at hopening
      obtain ⟨t', ht', rfl⟩ := hopening
      exact ⟨t' ++ ['\x7b'], by simp,
        fun m => .trivia_append ht' (.sign (κ := .openBrace) rfl), '=' :: t', '\x7b', rfl, .inr rfl⟩
    | false =>
      rw [hbraces] at hopening
      exact ⟨[], hopening, fun m => .nil, [], '=', rfl, .inl rfl⟩
  have hname (m : Weight) {b : List Char} {n : Nat} (hb : m.Closes b n) :
      m.Closes (d.name.toList ++ (t ++ '=' :: b))
        (m.text .between d.name.toList + (m.sign '=' + n)) :=
    (Weight.Weighs.word hw).close_sign ht (κ := .equals) rfl hb
  generalize hdescription : d.body.description = description at htext
  cases htext with
  | absent =>
    obtain ⟨w, c, heq, hc⟩ := hends
    refine ⟨d.name.toList ++ (t ++ '=' :: bracket), [], by simp, ?_, hw.opensWord _, ?_, by simp,
      fun _ => rfl, ?_⟩
    · intro m
      simpa [Weight.ofHeader, hdescription] using hname m (hbracket m)
    · exact ⟨d.name.toList ++ (t ++ w), c, by rw [heq]; simp, hc⟩
    · rw [hdescription]
      intro _ h
      cases h
  | @present a b line ha hb hline =>
    have hword : IsWord "description".toList := by decide
    refine ⟨d.name.toList ++
        (t ++ '=' :: (bracket ++ (a ++ ("description".toList ++ (b ++ ['=']))))),
      line, by simp, ?_, hw.opensWord _, ?_, hline, ?_, ?_⟩
    · intro m
      have hkey := (Weight.Weighs.word (m := m) hword).close_sign hb (κ := .equals) rfl .nil
      simpa [Weight.ofHeader, hdescription] using
        hname m ((hbracket m).append (.trivia_append ha hkey))
    · exact ⟨d.name.toList ++ (t ++ '=' :: (bracket ++ (a ++ ("description".toList ++ b)))), '=',
        by simp, .inl rfl⟩
    · rw [hdescription]
      intro h
      cases h
    · rw [hdescription]
      rintro _ ⟨⟩
      rfl

namespace Cuts

variable {d : Definition} {key line key' line' rest rest' u z : List Char}

/-- The line of a description does not end with another line of the same description behind a
header. -/
theorem line_ne (h : d.Cuts key line) (h' : d.Cuts key' line') (hz : EndsHeader z) :
    line ≠ z ++ line' := by
  rintro rfl
  cases hdescription : d.body.description with
  | none =>
    have := hz.visible_ne
    rw [(List.append_eq_nil_iff.1 (h.absent hdescription)).1] at this
    exact this rfl
  | some text =>
    have hvisible : visible (z ++ line') = visible line' := by
      rw [← visible_descriptionOf, ← visible_descriptionOf line', h.present text hdescription,
        h'.present text hdescription]
    rw [visible_append, List.append_left_eq_self] at hvisible
    exact hz.visible_ne hvisible

/-- In front of a line feed the lines of a description are the same. -/
theorem line_eq (h : d.Cuts key (z ++ line)) (h' : d.Cuts key' line')
    (hrest : d.body.description.isSome → rest.head? = some '\n')
    (hrest' : d.body.description.isSome → rest'.head? = some '\n')
    (heq : line ++ rest = line' ++ rest') : line = line' := by
  cases hdescription : d.body.description with
  | none => rw [(List.append_eq_nil_iff.1 (h.absent hdescription)).2, h'.absent hdescription]
  | some text =>
    rw [hdescription] at hrest hrest'
    obtain ⟨rest, rfl⟩ := List.head?_eq_some_iff.1 (hrest rfl)
    obtain ⟨rest', rfl⟩ := List.head?_eq_some_iff.1 (hrest' rfl)
    have htake {line rest : List Char} (hline : '\n' ∉ line) :
        (line ++ '\n' :: rest).takeWhile (· != '\n') = line := by
      rw [List.takeWhile_append_of_pos (by simpa using fun c hc => ne_of_mem_of_not_mem hc hline)]
      simp
    have hline : '\n' ∉ line := fun hmem => h.newline (List.mem_append_right _ hmem)
    rw [← htake hline, heq, htake h'.newline]

/-- Behind a header the items weigh what they weigh alone. -/
theorem characters_eq (h : d.Cuts key line)
    (hrest : d.body.description.isSome → rest.head? = some '\n') {s : Scan} (hs : s ≠ .comment) :
    Weight.characters.text s (line ++ rest) = Weight.characters.text s line +
      Weight.characters.text .between rest := by
  rw [Weight.text_append]
  cases hdescription : d.body.description with
  | none =>
    rw [h.absent hdescription, Scan.after_nil, Weight.text_characters hs,
      Weight.text_characters hs]
  | some text =>
    rw [hdescription] at hrest
    obtain ⟨rest, rfl⟩ := List.head?_eq_some_iff.1 (hrest rfl)
    rw [Weight.text_newline, Weight.text_newline]

section Late

variable {n : Nat} (h : d.Cuts key line) (h' : d.Cuts key' line')
  (hrest : d.body.description.isSome → rest.head? = some '\n')
  (hrest' : d.body.description.isSome → rest'.head? = some '\n')
  (hle : Weight.characters.text .between rest ≤ n)
  (hge : n ≤ Weight.characters.text .between rest')

include h' hrest' hle hge

/-- Items of a definition do not contain a header in front of further items of the same weight. -/
theorem rest_ne (hz : EndsHeader z) (hclosed : commentAfter false z = false) :
    rest ≠ z ++ (line' ++ rest') := by
  rintro rfl
  have hpos := hz.characters_pos hclosed
  rw [Weight.characters_append hclosed, h'.characters_eq hrest' (by decide)] at hle
  omega

include h hrest

/-- A definition is not read behind the place where it was printed: the header and the items of the
definition do not contain another header of it in front of items of the same weight. -/
theorem eq_nil_of_late (hu : commentAfter false u = false)
    (heq : key ++ (line ++ rest) = u ++ (key' ++ (line' ++ rest'))) : u = [] := by
  have hclosed := Text.commentAfter_closed (h.closes .characters)
  have hclosed' := Text.commentAfter_closed (h'.closes .characters)
  have hline {w z : List Char} (hw : line = w ++ z) (hz : EndsHeader w)
      (htail : z ++ rest = line' ++ rest') : False := by
    obtain rfl : z = line' := line_eq (hw ▸ h) h' hrest hrest' htail
    exact h.line_ne h' hz hw
  have hkey {z : List Char} (hz : key = u ++ (key' ++ z)) : u = [] := by
    by_contra hne
    have hopens : ∃ c ∈ u.head?, Token.Kind.ofChar c = .word := by
      obtain ⟨c, hc, hword⟩ := h.opens
      obtain ⟨d, u, rfl⟩ := List.exists_cons_of_ne_nil hne
      rw [hz] at hc
      exact ⟨c, hc, hword⟩
    have hpos := Weight.characters_pos hopens
    have hweight := (h.closes .characters).text
    rw [hz, Weight.characters_append hu, Weight.characters_append hclosed',
      (h'.closes .characters).text] at hweight
    omega
  have htail {w z : List Char} (hw : key' = w ++ z) (hne : z ≠ [])
      (hz : rest = z ++ (line' ++ rest')) : False :=
    rest_ne h' hrest' hle hge ((hw ▸ h'.ends).suffix hne)
      (commentAfter_of_append (hw ▸ hclosed')) hz
  -- The read header starts behind the printed key, or within it.
  rcases List.append_eq_append_iff.1 heq with ⟨w, rfl, hw⟩ | ⟨w, hw, hw'⟩
  · exfalso
    rcases List.append_eq_append_iff.1 hw with ⟨v, rfl, hv⟩ | ⟨v, hv, hv'⟩
    · have hv' : commentAfter false (v ++ key') = false := by
        rw [commentAfter_append, commentAfter_of_append (commentAfter_of_append hu), hclosed']
      refine rest_ne h' hrest' hle hge (h'.ends.append v) hv' ?_
      rw [hv, List.append_assoc]
    · rcases List.append_eq_append_iff.1 hv' with ⟨z, rfl, hz⟩ | ⟨z, hz, hz'⟩
      · exact hline (by rw [hv, List.append_assoc]) (h'.ends.append w) hz.symm
      · by_cases hnil : z = []
        · subst hnil
          rw [List.append_nil] at hz
          exact hline (z := []) (by rw [hv, hz, List.append_nil]) (h'.ends.append w) hz'
        · exact htail hz hnil hz'
  · rcases List.append_eq_append_iff.1 hw' with ⟨z, rfl, -⟩ | ⟨z, hz, hz'⟩
    · exact hkey hw
    · by_cases hnil : z = []
      · exact hkey (z := []) (by rw [hw, hz, hnil, List.append_nil, List.append_nil])
      · exfalso
        have hends := (hz ▸ h'.ends).suffix hnil
        rcases List.append_eq_append_iff.1 hz' with ⟨v, rfl, hv⟩ | ⟨v, hv, hv'⟩
        · by_cases hnil' : v = []
          · subst hnil'
            rw [List.append_nil] at hends
            exact hline (z := []) (List.append_nil _).symm hends hv
          · exact htail (by rw [hz, List.append_assoc]) hnil' hv
        · exact hline hv hends hv'.symm

end Late

/-- One text has only one header of a definition. -/
theorem key_eq (h : d.Cuts key line) (h' : d.Cuts key' line') (heq : key ++ rest = key' ++ rest') :
    key = key' := by
  have hlonger {key key' w line line' : List Char} (h : d.Cuts key line) (h' : d.Cuts key' line')
      (hw : key' = key ++ w) : key = key' := by
    by_contra hne
    have hnil : w ≠ [] := by
      rintro rfl
      exact hne (by rw [hw, List.append_nil])
    subst hw
    have hclosed := Text.commentAfter_closed (h'.closes .characters)
    have hpos := (h'.ends.suffix hnil).characters_pos (commentAfter_of_append hclosed)
    have hweight := (h'.closes .characters).text
    rw [Weight.characters_append (Text.commentAfter_closed (h.closes .characters)),
      (h.closes .characters).text] at hweight
    omega
  rcases List.append_eq_append_iff.1 heq with ⟨w, hw, -⟩ | ⟨w, hw, -⟩
  · exact hlonger h h' hw
  · exact (hlonger h' h hw).symm

/-- One text has only one place where the items of a definition start. -/
theorem rest_eq (h : d.Cuts key line) (h' : d.Cuts key' line')
    (hrest : d.body.description.isSome → rest.head? = some '\n')
    (hrest' : d.body.description.isSome → rest'.head? = some '\n')
    (heq : key ++ (line ++ rest) = key' ++ (line' ++ rest')) : rest = rest' := by
  obtain rfl := h.key_eq h' heq
  have heq' := List.append_cancel_left heq
  obtain rfl : line = line' := line_eq (z := []) h h' hrest hrest' heq'
  exact List.append_cancel_left heq'

end Cuts

/-! ### One definition -/

variable {p : Printer} {d : Definition} {t : List Char}

theorem Spells.opened (h : Spells t d) :
    d.body.isReadable = true ∧ ∃ key line items, t = key ++ (line ++ items) ∧ d.Cuts key line ∧
      (d.body.description.isSome → items.head? = some '\n') ∧
      ∀ m : Weight, m.Closes items (m.ofItems d.body) := by
  cases h with
  | @mk w a _ type body hw htype ha hbody =>
    obtain ⟨hreadable, opening, items, rfl, hopening, hline, hcloses⟩ := hbody.opened
    have hheader : Header { name := String.ofList w, body } (w ++ (a ++ '=' :: opening)) :=
      ⟨a, opening, ha, hopening, by rw [String.toList_ofList]⟩
    have hname : IsWord (String.ofList w).toList := by rwa [String.toList_ofList]
    obtain ⟨key, line, hcut, hcuts⟩ := Header.cut hname hheader
    refine ⟨hreadable, key, line, items, ?_, hcuts, hline, hcloses⟩
    rw [← List.append_assoc key, ← hcut]
    simp

/-- The text of a definition does not end in a comment. -/
theorem Spells.closed (h : Spells t d) : commentAfter false t = false := by
  obtain ⟨-, key, line, items, rfl, hcuts, hline, hcloses⟩ := h.opened
  have hitems := Text.commentAfter_closed (hcloses .characters)
  rw [commentAfter_append, Text.commentAfter_closed (hcuts.closes .characters), commentAfter_append]
  cases hdescription : d.body.description with
  | none => rwa [hcuts.absent hdescription]
  | some text =>
    rw [hdescription] at hline
    rwa [commentAfter_of_newline _ false (List.mem_of_mem_head? (hline rfl))]

theorem isReadable_printed (d : Definition) : d.printed.body.isReadable = d.body.isReadable := by
  have hdescribable (description : Option String) (as : List Attribute) :
      Describable description (detachAttributes as) = Describable description as := by
    simpa using describable_detach id description as
  have hdetach : d.body.detach.isReadable = d.body.isReadable := by
    cases d.body <;> simp [Body.detach, Body.isReadable, Block.detach, Service.detach, hdescribable,
      Union.isFilled, Union.detach]
  have hmap (b : Body) : (b.mapDescription rereadDescription).isReadable = b.isReadable := by
    cases b <;> simp [Body.mapDescription, Body.isReadable, Describable]
  rw [printed]
  split
  · exact hdetach
  · exact (hmap _).trans hdetach

theorem ofItems_printed (m : Weight) (d : Definition) :
    m.ofItems d.printed.body = m.ofItems d.body := by
  have hmap (b : Body) : m.ofItems (b.mapDescription rereadDescription) = m.ofItems b := by
    cases b <;> rfl
  rw [printed]
  split
  · exact m.ofItems_detach d.body
  · exact (hmap _).trans (m.ofItems_detach d.body)

theorem description_printed (d : Definition) :
    d.printed.body.description.isSome = d.body.description.isSome := by
  have hdetach := congrArg Option.isSome d.body.description_detach
  rw [printed]
  split
  · exact hdetach
  · refine Eq.trans ?_ hdetach
    rw [reread, Body.description_mapDescription, Option.isSome_map]
    rfl

/-- The printed text of a sound definition is a header and items that retain their weight. -/
theorem Sound.printed_cut (h : d.Sound p) (hreadable : d.body.isReadable = true) :
    ∃ key line items, p.definitionText d = key ++ (line ++ items) ∧ d.printed.Cuts key line ∧
      (d.printed.body.description.isSome → items.head? = some '\n') ∧
      ∀ m : Weight, m.Retains items (m.ofItems d.printed.body) (d.intact p) := by
  obtain ⟨header, items, heq, hheader, hline, hretains⟩ := h.prints hreadable
  have hname : IsWord d.printed.name.toList := by
    rw [printed]
    split <;> exact h.1
  obtain ⟨key, line, rfl, hcuts⟩ := Header.cut hname hheader
  refine ⟨key, line, items, by rw [heq, List.append_assoc], hcuts, ?_, fun m => ?_⟩
  · rwa [description_printed]
  · rw [ofItems_printed]
    exact hretains m

/-- A printed definition and a text of it are each a header and items, of which the printed ones
weigh at most as much. -/
theorem Sound.cuts (h : d.Sound p) (ht : Spells t d.printed) :
    ∃ key line items key' line' items', p.definitionText d = key ++ (line ++ items) ∧
      t = key' ++ (line' ++ items') ∧ d.printed.Cuts key line ∧ d.printed.Cuts key' line' ∧
      (∀ a, d.printed.body.description.isSome → (items ++ a).head? = some '\n') ∧
      (∀ a, d.printed.body.description.isSome → (items' ++ a).head? = some '\n') ∧
      ∀ m : Weight, m.Retains items (m.text .between items') (d.intact p) := by
  obtain ⟨hreadable, key', line', items', rfl, hcuts', hline', hcloses⟩ := ht.opened
  rw [isReadable_printed] at hreadable
  obtain ⟨key, line, items, htext, hcuts, hline, hretains⟩ := h.printed_cut hreadable
  have hhead {a : List Char} (h : a.head? = some '\n') (b : List Char) :
      (a ++ b).head? = some '\n' := by
    rw [List.head?_append, h]
    rfl
  refine ⟨key, line, items, key', line', items', htext, rfl, hcuts, hcuts',
    fun a h => hhead (hline h) a, fun a h => hhead (hline' h) a, fun m => ?_⟩
  rw [(hcloses m).text]
  exact hretains m

/-- A definition is not read behind the place where it was printed. -/
theorem Sound.eq_nil_of_late (h : d.Sound p) (ht : Spells t d.printed) {q u v : List Char}
    (hquiet : isQuiet false q = true) (hu : commentAfter false u = false)
    (heq : p.definitionText d ++ q = u ++ (t ++ v)) : u = [] := by
  obtain ⟨key, line, items, key', line', items', htext, rfl, hcuts, hcuts', hline, hline',
    hretains⟩ := h.cuts ht
  have hle : Weight.characters.text .between (items ++ q) ≤ _ :=
    (Weight.text_append_le _ _ items q).trans_eq
      (by rw [Weight.characters.text_eq_zero _ hquiet, Nat.add_zero])
  have hge : Weight.characters.text .between items' ≤
      Weight.characters.text .between (items' ++ v) := by
    rw [Weight.text_append]
    exact Nat.le_add_right _ _
  refine hcuts.eq_nil_of_late hcuts' (hline q) (hline' v) (hle.trans (hretains _).le) hge hu ?_
  rw [htext] at heq
  simpa using heq

/-- A definition that is read from its printed text is intact. -/
theorem Sound.intact_of_spells (h : d.Sound p) (ht : Spells t d.printed) {q v : List Char}
    (hquiet : isQuiet false q = true) (heq : p.definitionText d ++ q = t ++ v) :
    d.intact p = true := by
  obtain ⟨key, line, items, key', line', items', htext, rfl, hcuts, hcuts', hline, hline',
    hretains⟩ := h.cuts ht
  have hitems : items ++ q = items' ++ v := by
    refine hcuts.rest_eq hcuts' (hline q) (hline' v) ?_
    rw [htext] at heq
    simpa using heq
  -- Every word and every character counts, so that whatever is lost is missed.
  let m : Weight := ⟨1, fun _ => 1⟩
  have hle : m.text .between items' ≤ m.text .between items := by
    rcases List.append_eq_append_iff.1 hitems with ⟨w, rfl, hw⟩ | ⟨w, rfl, -⟩
    · rw [hw, isQuiet_append, Bool.and_eq_true] at hquiet
      exact (m.text_append_le _ items w).trans_eq (by rw [m.text_eq_zero _ hquiet.1, Nat.add_zero])
    · rw [Weight.text_append]
      exact Nat.le_add_right _ _
  by_contra hlost
  rw [Bool.not_eq_true] at hlost
  have hlt := (hretains m).lt ⟨Nat.one_pos, fun _ => Nat.one_pos⟩ hlost
  omega

end Definition

/-! ### Files -/

/-- The first text of a definition starts with a token. -/
theorem Definition.Trail.opens {ds : List Definition} {text : List Char} (h : Trail Spells ds text)
    (hne : ds ≠ []) : ∃ c ∈ text.head?, (Token.Kind.ofChar c).isTrivia = false := by
  cases h with
  | nil => exact absurd rfl hne
  | cons ht =>
    obtain ⟨c, hc, htoken, -⟩ := ht.opensWithout (κ := .comma) (by decide)
    exact ⟨c, by rw [List.head?_append, hc]; rfl, htoken⟩

theorem Definition.Trail.ne_nil {S : List Char → Definition → Prop} {ds : List Definition}
    {text : List Char} (h : Trail S ds text) (hne : text ≠ []) : ds ≠ [] := by
  cases h with
  | nil => exact absurd rfl hne
  | cons => exact List.cons_ne_nil _ _

/-- Blanks and comments that are followed by a token do not go on with it. -/
theorem eq_nil_of_quiet {q w text : List Char} (hclosed : commentAfter false q = false)
    (hquiet : isQuiet false (q ++ w) = true)
    (hopens : ∃ c ∈ (w ++ text).head?, (Token.Kind.ofChar c).isTrivia = false) : w = [] := by
  cases w with
  | nil => rfl
  | cons c w =>
    obtain ⟨c, ⟨⟩, htoken⟩ := hopens
    rw [isQuiet_append, hclosed, isQuiet, htoken] at hquiet
    simp at hquiet

/-- Two cuts of a text of which the second one is not late leave a gap. -/
theorem exists_gap {a b text text' : List Char} (hclosed : text ≠ [] → commentAfter false b = false)
    (hlate : ∀ {w}, commentAfter false w = false → text = w ++ text' → w = [])
    (heq : a ++ text = b ++ text') : ∃ w, a = b ++ w ∧ text' = w ++ text := by
  rcases List.append_eq_append_iff.1 heq with ⟨w, rfl, hw⟩ | ⟨w, hw, hw'⟩
  · have hnil : w = [] := by
      by_cases htext : text = []
      · exact (List.append_eq_nil_iff.1 (hw ▸ htext)).1
      · exact hlate (commentAfter_of_append (hclosed htext)) hw
    subst hnil
    exact ⟨[], by simp, hw.symm⟩
  · exact ⟨w, hw, hw'⟩

namespace Definition.Trail

variable {p : Printer} {ds : List Definition} {text text' u : List Char}

/-- Going backwards from the end of a file, no definition is read behind the place where it was
printed. -/
theorem eq_nil_of_late (h : p.Trail ds text) (hsound : ∀ d ∈ ds, d.Sound p)
    (h' : Definition.Trail Definition.Spells (ds.map Definition.printed) text')
    (hu : commentAfter false u = false) (heq : text = u ++ text') : u = [] := by
  induction h generalizing text' u with
  | nil => exact (List.append_eq_nil_iff.1 heq.symm).1
  | @cons d ds _ q text hprint hquiet _ h ih =>
    subst hprint
    rw [List.forall_mem_cons] at hsound
    obtain _ | ⟨ht, hquiet', hclosed, htrail⟩ := h'
    rename_i t q' text'
    have hgap : text ≠ [] → commentAfter false (u ++ (t ++ q')) = false := fun hne => by
      rw [commentAfter_append, hu, commentAfter_append, ht.closed]
      exact hclosed (by simpa using h.ne_nil hne)
    obtain ⟨w, hw, -⟩ := exists_gap hgap (fun hclosed heq => ih hsound.2 htrail hclosed heq)
      (a := p.definitionText d ++ q) (by simpa using heq)
    exact hsound.1.eq_nil_of_late ht hquiet hu (by simpa using hw)

/-- Definitions that are read from their printed texts are intact. -/
theorem all_intact (h : p.Trail ds text) (hsound : ∀ d ∈ ds, d.Sound p)
    (h' : Definition.Trail Definition.Spells (ds.map Definition.printed) text) :
    ∀ d ∈ ds, d.intact p = true := by
  induction h with
  | nil => simp
  | @cons d ds _ q text hprint hquiet _ h ih =>
    subst hprint
    rw [List.forall_mem_cons] at hsound
    rw [List.map_cons] at h'
    generalize hcase : p.definitionText d ++ (q ++ text) = whole at h'
    obtain _ | ⟨ht, hquiet', hclosed, htrail⟩ := h'
    rename_i t q' text'
    have hgap : text ≠ [] → commentAfter false (t ++ q') = false := fun hne => by
      rw [commentAfter_append, ht.closed]
      exact hclosed (by simpa using h.ne_nil hne)
    obtain ⟨w, hw, hw'⟩ := exists_gap hgap (h.eq_nil_of_late hsound.2 htrail)
      (a := p.definitionText d ++ q) (by simpa using hcase)
    rw [List.append_assoc] at hw
    have hintact := hsound.1.intact_of_spells ht hquiet hw
    -- Now the printed text is a text of the definition too, and one text is read in one way.
    obtain ⟨_, m, hread, -⟩ :=
      Definition.read_accepts (hsound.1.spells hintact) 0 [] (q ++ text) .nil trivial
    obtain ⟨_, m', hread', -⟩ := Definition.read_accepts ht 0 [] (q' ++ text') .nil trivial
    rw [hcase, hread'] at hread
    obtain ⟨-, -, hrest⟩ : _ ∧ m' = m ∧ q' ++ text' = q ++ text := by simpa using hread
    subst hw'
    have hq : q = q' ++ w := by
      rw [← List.append_assoc] at hrest
      exact (List.append_cancel_right hrest).symm
    have hnil : w = [] := by
      cases ds with
      | nil =>
        generalize hnil : w ++ text = rest at htrail
        cases htrail
        exact (List.append_eq_nil_iff.1 hnil).1
      | cons => exact eq_nil_of_quiet (hclosed (by simp)) (hq ▸ hquiet) (htrail.opens (by simp))
    subst hnil
    exact List.forall_mem_cons.2 ⟨hintact, ih hsound.2 htrail⟩

end Definition.Trail

namespace Forest

variable {p : Printer} {f : Forest}

/-- A text that is accepted consists of texts of its definitions. -/
theorem trail_of_parse {text : List Char} (h : Forest.parse text = .ok f) :
    ∃ q text', text = q ++ text' ∧ isQuiet false q = true ∧
      (f.content ≠ [] → commentAfter false q = false) ∧
      Definition.Trail Definition.Spells f.content text' := by
  obtain ⟨ts, body, rest, rfl, hrest, hstrung, hspells⟩ := strung_of_parse h
  exact Definition.Trail.of_strung hstrung hspells hrest

/-- A sound file is read back if and only if it is intact. -/
theorem Sound.parse_iff (h : f.Sound p) :
    (∃ g, Forest.parse (p.forestText f) = .ok g ∧
      g.content = f.definitions.map Definition.printed) ↔ f.intact p = true := by
  refine ⟨fun ⟨g, hparse, hcontent⟩ => ?_, h.parse⟩
  obtain ⟨q, text, htext, hquiet, htrail, hiff⟩ := h.trail
  obtain ⟨q', text', htext', hquiet', hclosed, htrail'⟩ := trail_of_parse hparse
  rw [hcontent] at hclosed htrail'
  have hsound : ∀ d ∈ f.definitions, d.Sound p := fun d hd => (h.definitions d hd).2
  rw [hiff]
  by_cases hne : f.definitions = []
  · rw [hne]
    exact ⟨by simp, fun h => absurd rfl h⟩
  have hne' : f.definitions.map Definition.printed ≠ [] := by simpa using hne
  have hclosed := hclosed hne'
  -- Both cuts start with the same blanks and comments.
  have hstart : q' = q := by
    rw [htext] at htext'
    rcases List.append_eq_append_iff.1 htext' with ⟨w, rfl, hw⟩ | ⟨w, rfl, hw⟩
    · rw [htrail.eq_nil_of_late hsound htrail' (commentAfter_of_append hclosed) hw,
        List.append_nil]
    · rw [eq_nil_of_quiet hclosed hquiet (hw ▸ htrail'.opens hne'), List.append_nil]
  rw [htext, hstart] at htext'
  obtain rfl := List.append_cancel_left htext'
  exact ⟨htrail.all_intact hsound htrail', fun _ => hstart ▸ hclosed⟩

/-- The rendered text of a sound file is read back if and only if the file is intact. -/
theorem Sound.parseFile_iff {source file : String} {indentation : Indentation}
    (h : f.Sound { source := source.toList, indentation }) :
    (∃ g, parseFile (f.render source indentation) file = .ok g ∧
      g.content = f.definitions.map Definition.printed) ↔
      f.intact { source := source.toList, indentation } = true := by
  have hrender : (f.render source indentation).toList =
      Printer.forestText { source := source.toList, indentation } f := String.toList_ofList
  rw [← h.parse_iff]
  constructor
  · rintro ⟨g, hparse, hcontent⟩
    exact ⟨g, hrender ▸ parse_of_parseFile hparse, hcontent⟩
  · rintro ⟨g, hparse, hcontent⟩
    exact ⟨g, parseFile_of_parse (hrender.symm ▸ hparse) file, hcontent⟩

end Forest

end PolicyEditor
