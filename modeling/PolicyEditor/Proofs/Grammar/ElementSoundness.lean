import PolicyEditor.Proofs.Grammar.Elements

/-!
# What is read as an element

The readers of elements accept nothing else than texts of elements.  Together with the lemmas of
the other direction this makes the reading of an element independent of its surroundings.  The
canonical text of an element is one of its texts.

## Main results

* `Element.readItem_recovers` : an entry of an element list that was read is a text of its element.
* `Element.SpellsItem.chars` : the canonical text of such an element is a text of it too.
-/

namespace PolicyEditor

open Text

/-! ### Typed names -/

theorem Text.cutAt?_eq_some {sep : Char} {text a b : List Char} :
    cutAt? sep text = some (a, b) ↔ text = a ++ sep :: b ∧ sep ∉ a := by
  induction text generalizing a with
  | nil => simp [cutAt?]
  | cons c text ih =>
    rw [cutAt?]
    by_cases hc : c = sep
    · subst hc
      rw [if_pos rfl]
      cases a with
      | nil => simp
      | cons d a =>
        simp only [Option.some.injEq, Prod.mk.injEq, reduceCtorEq, false_and, List.cons_append,
          List.cons.injEq, List.mem_cons, not_or, false_iff, not_and]
        rintro ⟨rfl, -⟩ h
        exact absurd rfl h
    · rw [if_neg hc, Option.map_eq_some_iff]
      cases a with
      | nil => simp [hc]
      | cons d a =>
        simp only [Prod.mk.injEq, List.cons.injEq, List.cons_append, List.mem_cons, not_or]
        constructor
        · rintro ⟨⟨a', b'⟩, hcut, ⟨rfl, rfl⟩, rfl⟩
          obtain ⟨rfl, hmem⟩ := ih.1 hcut
          exact ⟨⟨rfl, rfl⟩, Ne.symm hc, hmem⟩
        · rintro ⟨⟨rfl, rfl⟩, -, hmem⟩
          exact ⟨(a, b), ih.2 ⟨rfl, hmem⟩, ⟨rfl, rfl⟩, rfl⟩

/-- A typed name is cut at its first colon. -/
theorem splitTyped?_eq_some {full type name : String} :
    splitTyped? full = some (type, name) ↔ full = type ++ ":" ++ name ∧ ':' ∉ type.toList := by
  rw [splitTyped?, Option.map_eq_some_iff]
  constructor
  · rintro ⟨⟨a, b⟩, hcut, heq⟩
    cases heq
    obtain ⟨htext, hmem⟩ := cutAt?_eq_some.1 hcut
    exact ⟨by rw [← String.toList_inj]; simp [htext], by simpa using hmem⟩
  · rintro ⟨rfl, hmem⟩
    exact ⟨(type.toList, name.toList), cutAt?_eq_some.2 ⟨by simp, hmem⟩, by simp⟩

namespace Element

/-! ### Selectors and the parts of automatic groups -/

theorem readSelector_recovers : Recovers readSelector SpellsSelector := by
  intro c selector c' h
  obtain ⟨⟨t₁, c₁⟩, h₁, h⟩ := Except.bind_eq_ok.1 h
  obtain ⟨⟨t₂, c₂⟩, h₂, h⟩ := Except.bind_eq_ok.1 h
  obtain ⟨⟨t₃, c₃⟩, h₃, h⟩ := Except.bind_eq_ok.1 h
  cases h
  obtain ⟨trivia, htrivia, hstart, hreads₁⟩ := Cursor.reads_of_expect h₁ rfl
  obtain ⟨a, w, ha, hw, -, htext, -, hreads₂⟩ := Cursor.reads_of_expectWord h₂
  obtain ⟨b, hb, -, hreads₃⟩ := Cursor.reads_of_expect h₃ rfl
  refine ⟨trivia, '[' :: (a ++ (w ++ (b ++ [']']))), htrivia, hstart, ?_, ?_⟩
  · simpa using (hreads₁.trans hreads₂).trans hreads₃
  · rw [htext]
    exact .mk hw ha hb

/-- There is no trivia in front of a token that touches the place. -/
theorem eq_nil_of_touches {c : Cursor} {kind : Token.Kind} {trivia : List Char}
    (htouches : c.touches kind = true) (hstart : c.start = c.offset + byteLength trivia) :
    trivia = [] := by
  have := (Cursor.touches_iff.1 htouches).2
  exact eq_nil_of_byteLength (by omega)

/-- A selector that touches the place is read from there. -/
theorem readSelector_reads {c c' : Cursor} {selector : String}
    (htouches : c.touches .openBracket = true) (h : readSelector c = .ok (selector, c')) :
    ∃ t, c.Reads t c' ∧ SpellsSelector t selector := by
  obtain ⟨trivia, t, -, hstart, hreads, hspells⟩ := readSelector_recovers c selector c' h
  obtain rfl := eq_nil_of_touches htouches hstart
  exact ⟨t, hreads, hspells⟩

theorem readAutoSelector_reads {c c' : Cursor} {selector : Option String}
    (h : readAutoSelector c = .ok (selector, c')) :
    ∃ t, c.Reads t c' ∧ SpellsAutoSelector t selector := by
  rw [readAutoSelector] at h
  split at h
  · next hdot =>
    rw [Bool.and_eq_true, beq_iff_eq] at hdot
    obtain ⟨trivia, -, -, -, hstart, hreads⟩ := Cursor.reads_bump_of_seesWord hdot.1
    obtain rfl : trivia = [] := eq_nil_of_byteLength (by omega)
    dsimp only at h
    split at h
    · next htouches =>
      obtain ⟨⟨word, c₁⟩, h₁, h⟩ := Except.bind_eq_ok.1 h
      cases h
      obtain ⟨t, hreads', hspells⟩ := readSelector_reads htouches h₁
      exact ⟨'.' :: t, hreads.trans hreads', .present hspells⟩
    · cases h
  · cases h
    exact ⟨[], .refl c, .absent⟩

theorem readAutoIp_reads {c c' : Cursor} {ip : Option String} (h : readAutoIp c = .ok (ip, c')) :
    ∃ t, c.Reads t c' ∧ SpellsIp t ip := by
  rw [readAutoIp] at h
  split at h
  · next hkey =>
    obtain ⟨⟨t₁, c₁⟩, h₁, h⟩ := Except.bind_eq_ok.1 h
    obtain ⟨⟨t₂, c₂⟩, h₂, h⟩ := Except.bind_eq_ok.1 h
    cases h
    obtain ⟨a, b, ha, hb, -, hreads⟩ := Cursor.reads_bump_of_seesKey hkey rfl
    obtain ⟨d, w, hd, hw, -, htext, -, hreads₁⟩ := Cursor.reads_of_expectWord h₁
    obtain ⟨e, he, -, hreads₂⟩ := Cursor.reads_of_expect h₂ rfl
    refine ⟨_, (hreads.trans hreads₁).trans hreads₂, ?_⟩
    rw [htext]
    simpa using SpellsIp.present hw ha hb hd he
  · cases h
    exact ⟨[], .refl c, .absent⟩

/-- The place behind the part `managed &`, if it is there. -/
theorem reads_skipManaged (c : Cursor) :
    ∃ t, c.Reads t (if c.seesKey "managed" .ampersand then c.bump.bump else c) ∧
      SpellsManaged t (c.seesKey "managed" .ampersand) := by
  cases hkey : c.seesKey "managed" .ampersand with
  | true =>
    obtain ⟨a, b, ha, hb, -, hreads⟩ := Cursor.reads_bump_of_seesKey hkey rfl
    exact ⟨_, hreads, .present ha hb⟩
  | false => exact ⟨[], .refl c, .absent⟩

/-! ### The levels of the grammar -/

section Levels

variable {element : Cursor → Reading (Element × Cursor)}

theorem readTerm_recovers (helement : Recovers element Spells) :
    Recovers (readTerm element) SpellsTerm := by
  intro c e c' h
  rw [readTerm] at h
  split at h
  · next c₁ heat =>
    obtain ⟨⟨inner, c₂⟩, h₂, h⟩ := Except.bind_eq_ok.1 h
    cases h
    obtain ⟨trivia, htrivia, hstart, hreads⟩ := Cursor.reads_of_eat? heat rfl
    obtain ⟨trivia', t, htrivia', -, hreads', hspells⟩ := helement _ _ _ h₂
    exact ⟨trivia, '!' :: (trivia' ++ t), htrivia, hstart, by simpa using hreads.trans hreads',
      .complement htrivia' hspells⟩
  · obtain ⟨trivia, t, htrivia, hstart, hreads, hspells⟩ := helement _ _ _ h
    exact ⟨trivia, t, htrivia, hstart, hreads, .plain hspells⟩

theorem readConjuncts_reads (helement : Recovers element Spells) {limit : Nat} {c c' : Cursor}
    {es : List Element} (h : readConjuncts element limit c = .ok (es, c')) :
    ∃ t, c.Reads t c' ∧ SpellsConjuncts t es := by
  induction limit generalizing c es with
  | zero =>
    cases h
    exact ⟨[], .refl _, .nil⟩
  | succ limit ih =>
    rw [readConjuncts] at h
    split at h
    · cases h
      exact ⟨[], .refl _, .nil⟩
    · next c₁ heat =>
      obtain ⟨⟨e, c₂⟩, h₂, h⟩ := Except.bind_eq_ok.1 h
      obtain ⟨⟨es, c₃⟩, h₃, h⟩ := Except.bind_eq_ok.1 h
      cases h
      obtain ⟨trivia, htrivia, -, hreads⟩ := Cursor.reads_of_eat? heat rfl
      obtain ⟨trivia', t, htrivia', -, hreads', hspells⟩ := readTerm_recovers helement _ _ _ h₂
      obtain ⟨text, hreads'', hspells'⟩ := ih h₃
      exact ⟨_, by simpa using (hreads.trans hreads').trans hreads'',
        .cons htrivia htrivia' hspells hspells'⟩

theorem readIntersection_recovers (helement : Recovers element Spells) :
    Recovers (readIntersection element) SpellsItem := by
  intro c e c' h
  obtain ⟨⟨first, c₁⟩, h₁, h⟩ := Except.bind_eq_ok.1 h
  obtain ⟨⟨parts, c₂⟩, h₂, h⟩ := Except.bind_eq_ok.1 h
  cases h
  obtain ⟨trivia, t, htrivia, hstart, hreads, hspells⟩ := readTerm_recovers helement _ _ _ h₁
  obtain ⟨text, hreads', hspells'⟩ := readConjuncts_reads helement h₂
  cases hspells' with
  | nil => exact ⟨trivia, t, htrivia, hstart, by simpa using hreads.trans hreads', .term hspells⟩
  | cons ha hb hterm hrest =>
    exact ⟨trivia, _, htrivia, hstart, List.append_assoc .. ▸ hreads.trans hreads',
      .intersection hspells (.cons ha hb hterm hrest)⟩

theorem readAuto_reads (helement : Recovers element Spells) {type : String} {c c' : Cursor}
    {e : Element} (htouches : c.touches .openBracket = true)
    (h : readAuto element type c = .ok (e, c')) :
    ∃ t, c.Reads t c' ∧ ∀ w, IsWord w → splitTyped? (String.ofList w) = some (type, "") →
      Spells (w ++ t) e := by
  obtain ⟨⟨t₁, c₁⟩, h₁, h⟩ := Except.bind_eq_ok.1 h
  obtain ⟨⟨ip, c₂⟩, h₂, h⟩ := Except.bind_eq_ok.1 h
  obtain ⟨⟨⟨items, frame⟩, c₃⟩, h₃, h⟩ := Except.bind_eq_ok.1 h
  obtain ⟨⟨selector, c₄⟩, h₄, h⟩ := Except.bind_eq_ok.1 h
  cases h
  obtain ⟨trivia, -, hstart, hreads₁⟩ := Cursor.reads_of_expect h₁ rfl
  obtain rfl := eq_nil_of_touches htouches hstart
  obtain ⟨managedText, hmanaged, hspellsManaged⟩ := reads_skipManaged c₁
  obtain ⟨ipText, hip, hspellsIp⟩ := readAutoIp_reads h₂
  obtain ⟨ts, body, hbody, hseparated, hall⟩ :=
    Layout.readList_recovers rfl (readIntersection_recovers helement) h₃
  obtain ⟨selectorText, hselector, hspellsSelector⟩ := readAutoSelector_reads h₄
  refine ⟨_, (((hreads₁.trans hmanaged).trans hip).trans hbody).trans hselector,
    fun w hw hsplit => ?_⟩
  simpa using Spells.auto hw hsplit hspellsManaged hspellsIp hseparated (.of_forall₂ hall)
    hspellsSelector

theorem read_recovers (depth : Nat) : Recovers (read depth) Spells := by
  induction depth with
  | zero =>
    intro c e c' h
    cases h
  | succ depth ih =>
    intro c e c' h
    obtain ⟨⟨word, c₁⟩, h₁, h⟩ := Except.bind_eq_ok.1 h
    obtain ⟨trivia, w, htrivia, hw, -, htext, hstart, hreads⟩ := Cursor.reads_of_expectWord h₁
    simp only [htext] at h
    split at h
    · next huser =>
      cases h
      obtain rfl : w = "user".toList := by rw [← huser, String.toList_ofList]
      exact ⟨trivia, _, htrivia, hstart, hreads, .user⟩
    · split at h
      · cases h
      · next type name hsplit =>
        split at h
        · next hname =>
          obtain rfl := String.isEmpty_iff.1 hname
          split at h
          · next htouches =>
            obtain ⟨t, hreads', hspells⟩ := readAuto_reads ih htouches h
            exact ⟨trivia, w ++ t, htrivia, hstart, List.append_assoc .. ▸ hreads.trans hreads',
              hspells w hw hsplit⟩
          · cases h
        · next hname =>
          split at h
          · next hselected =>
            simp only [Bool.and_eq_true, decide_eq_true_eq] at hselected
            obtain ⟨⟨selector, c₂⟩, h₂, h⟩ := Except.bind_eq_ok.1 h
            cases h
            obtain ⟨t, hreads', hspells⟩ := readSelector_reads hselected.2 h₂
            exact ⟨trivia, w ++ t, htrivia, hstart, List.append_assoc .. ▸ hreads.trans hreads',
              .selected hw hsplit hselected.1 hspells⟩
          · cases h
            exact ⟨trivia, w, htrivia, hstart, hreads,
              .named hw hsplit (by simpa using hname)⟩

end Levels

/-- An entry of an element list that was read is a text of its element. -/
theorem readItem_recovers : Recovers readItem SpellsItem :=
  fun c => readIntersection_recovers (read_recovers _) c

/-! ### Canonical texts -/

theorem toList_of_splitTyped? {w : List Char} {type name : String}
    (h : splitTyped? (String.ofList w) = some (type, name)) :
    w = type.toList ++ ':' :: name.toList := by
  have hw := congrArg String.toList (splitTyped?_eq_some.1 h).1
  simpa using hw

theorem SpellsSelector.canonical {text : List Char} {selector : String}
    (h : SpellsSelector text selector) :
    SpellsSelector ('[' :: (selector.toList ++ [']'])) selector := by
  cases h with
  | mk hw _ _ => simpa using SpellsSelector.mk hw .nil .nil

/-- The canonical text in front of the elements of an automatic group. -/
theorem spells_autoOpening {managedText ipText w : List Char} {type : String} {managed : Bool}
    {ip : Option String} (hmanaged : SpellsManaged managedText managed) (hip : SpellsIp ipText ip)
    (hsplit : splitTyped? (String.ofList w) = some (type, "")) :
    ∃ managedText' ipText' lead, autoOpening type managed ip =
        w ++ '[' :: (managedText' ++ (ipText' ++ lead)) ∧
      SpellsManaged managedText' managed ∧ SpellsIp ipText' ip ∧ IsTrivia lead := by
  have hw : w = type.toList ++ [':'] := by simpa using toList_of_splitTyped? hsplit
  cases hmanaged with
  | absent =>
    cases hip with
    | absent => exact ⟨[], [], [], by simp [autoOpening, hw], .absent, .absent, .nil⟩
    | present hip =>
      exact ⟨[], _, [' '], by simp [autoOpening, hw], .absent,
        .present hip .nil IsTrivia.space IsTrivia.space IsTrivia.space, IsTrivia.space⟩
  | present =>
    have hpresent := SpellsManaged.present .nil IsTrivia.space
    cases hip with
    | absent =>
      exact ⟨_, [], [' '], by simp [autoOpening, hw], hpresent, .absent, IsTrivia.space⟩
    | present hip =>
      exact ⟨_, _, [' '], by simp [autoOpening, hw], hpresent,
        .present hip IsTrivia.space IsTrivia.space IsTrivia.space IsTrivia.space, IsTrivia.space⟩

theorem spells_autoClosing {text : List Char} {selector : Option String}
    (h : SpellsAutoSelector text selector) :
    ∃ text', autoClosing selector = ']' :: text' ∧ SpellsAutoSelector text' selector := by
  cases h with
  | absent => exact ⟨[], rfl, .absent⟩
  | present h => exact ⟨_, by simp [autoClosing], .present h.canonical⟩

theorem separated_commaChars : (es : List Element) →
    Separated (es.map Element.chars) (commaChars es)
  | [] => .nil .nil
  | [e] => by simpa [commaChars] using Separated.last (t := e.chars) .nil .nil
  | e :: d :: es => by
    have hrest := (separated_commaChars (d :: es)).prepend IsTrivia.space
    simpa [commaChars] using Separated.cons (t := e.chars) .nil .nil hrest

mutual

/-- The canonical text of an element is one of its texts. -/
theorem Spells.chars {t : List Char} {e : Element} (h : Spells t e) : Spells e.chars e := by
  match h with
  | .user => exact .user
  | @Spells.named _ type name hw hsplit hname =>
    have hchars : (named type name).chars = t := (toList_of_splitTyped? hsplit).symm
    rw [hchars]
    exact .named hw hsplit hname
  | @Spells.selected w text type name selector hw hsplit hname hselector =>
    have hchars : (named type (name ++ "[" ++ selector ++ "]")).chars =
        w ++ '[' :: (selector.toList ++ [']']) := by
      rw [toList_of_splitTyped? hsplit]
      simp [Element.chars]
    rw [hchars]
    exact .selected hw hsplit hname hselector.canonical
  | @Spells.auto _ _ _ _ _ type managed ip selector _ es hw hsplit hmanaged hip _ hitems
      hselector =>
    have hchars := hitems.chars
    obtain ⟨_, _, lead, hopening, hmanaged, hip, hlead⟩ := spells_autoOpening hmanaged hip hsplit
    obtain ⟨_, hclosing, hselector⟩ := spells_autoClosing hselector
    have hbody := (separated_commaChars es).prepend hlead
    rw [Element.chars, hopening, hclosing]
    simpa using Spells.auto hw hsplit hmanaged hip hbody hchars hselector

theorem SpellsTerm.chars {t : List Char} {e : Element} (h : SpellsTerm t e) :
    SpellsTerm e.chars e := by
  match h with
  | .plain h => exact .plain h.chars
  | .complement _ h => exact .complement .nil h.chars

theorem SpellsConjuncts.chars {text : List Char} {es : List Element}
    (h : SpellsConjuncts text es) : SpellsConjuncts (furtherChars es) es := by
  match h with
  | .nil => exact .nil
  | .cons _ _ (.complement _ h) hrest =>
    have := SpellsConjuncts.cons IsTrivia.space .nil (.complement IsTrivia.space h.chars)
      hrest.chars
    simpa [furtherChars] using this
  | @SpellsConjuncts.cons _ _ _ _ e es _ _ (.plain h) hrest =>
    have := SpellsConjuncts.cons IsTrivia.space IsTrivia.space (.plain h.chars) hrest.chars
    have hchars : furtherChars (e :: es) = " & ".toList ++ e.chars ++ furtherChars es := by
      cases h <;> rfl
    rw [hchars]
    simpa using this

theorem SpellsItem.chars {t : List Char} {e : Element} (h : SpellsItem t e) :
    SpellsItem e.chars e := by
  match h with
  | .term h => exact .term h.chars
  | .intersection h hrest => exact .intersection h.chars hrest.chars

theorem SpellsItems.chars {ts : List (List Char)} {es : List Element} (h : SpellsItems ts es) :
    SpellsItems (es.map Element.chars) es := by
  match h with
  | .nil => exact .nil
  | .cons h hrest => exact .cons h.chars hrest.chars

end

/-- The elements that are read up to the end of a text have texts. -/
theorem readAll_spells {limit : Nat} {c : Cursor} {es : List Element}
    (h : readAll limit c = .ok es) : ∀ e ∈ es, ∃ t, SpellsItem t e := by
  induction limit generalizing c es with
  | zero =>
    cases h
    simp
  | succ limit ih =>
    rw [readAll] at h
    split at h
    · cases h
      simp
    · obtain ⟨⟨e, c'⟩, hitem, h⟩ := Except.bind_eq_ok.1 h
      obtain ⟨_, t, -, -, -, ht⟩ := readItem_recovers c e c' hitem
      dsimp only at h
      split at h
      · next c'' hcomma =>
        obtain ⟨es', hrest, h⟩ := Except.bind_eq_ok.1 h
        cases h
        exact List.forall_mem_cons.2 ⟨⟨t, ht⟩, ih hrest⟩
      · split at h
        · cases h
          exact List.forall_mem_cons.2 ⟨⟨t, ht⟩, by simp⟩
        · cases h

/-- The canonical text of an element of a list that was read is one of its texts. -/
theorem parseList_chars {text : List Char} {es : List Element} (h : parseList text = .ok es) :
    ∀ e ∈ es, SpellsItem e.chars e := by
  intro e he
  obtain ⟨t, ht⟩ := readAll_spells h e he
  exact ht.chars

end Element

end PolicyEditor
