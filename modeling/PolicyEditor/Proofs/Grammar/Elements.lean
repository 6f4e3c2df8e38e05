import PolicyEditor.Proofs.Grammar.Lists

/-!
# Texts of elements

An element can be written in many ways, which differ in the blanks and comments between its tokens
and in a final comma inside the brackets of an automatic group.  The relations of this file say
which texts stand for an element, and the readers of all levels of the grammar are shown to accept
each of these texts.  What follows an element has to be a token that cannot extend it.

## Main definitions

* `Element.Spells`, `Element.SpellsTerm`, `Element.SpellsItem` : the texts of an element, of a term
  and of an entry of an element list.
* `EndsElement`, `EndsItem` : the texts that may follow them.
* `OpensTyped` : a text that starts like an element.

## Main results

* `Element.Spells.accepts`, `Element.SpellsItem.accepts` : the texts of an element are read.
* `Element.readItem_accepts` : the text of an entry is read, however deep its groups nest.
-/

namespace PolicyEditor

open Text

/-! ### What follows an element -/

/-- A text that may follow an element. -/
def EndsElement (rest : List Char) : Prop :=
  kindAhead? rest ≠ some .word ∧ kindAhead? rest ≠ some .openBracket

/-- A text that may follow an entry of an element list. -/
def EndsItem (rest : List Char) : Prop :=
  EndsElement rest ∧ kindAhead? rest ≠ some .ampersand

theorem EndsElement.stopsWord {rest : List Char} (h : EndsElement rest) : StopsWord rest :=
  .of_kindAhead h.1

theorem EndsElement.of_kindAhead {rest : List Char} {kind : Token.Kind}
    (h : kindAhead? rest = some kind) (hword : kind ≠ .word) (hopen : kind ≠ .openBracket) :
    EndsElement rest := by
  rw [EndsElement, h]
  exact ⟨fun heq => hword (Option.some.inj heq), fun heq => hopen (Option.some.inj heq)⟩

theorem EndsItem.of_endsEntry {close : Token.Kind} {rest : List Char}
    (hclose : close = .semicolon ∨ close = .closeBracket) (h : Layout.EndsEntry close rest) :
    EndsItem rest := by
  rw [EndsItem, EndsElement]
  rcases h with h | h <;> rcases hclose with rfl | rfl <;> simp [h]

/-- A text that starts with `!`, with `user` or with a typed name. -/
inductive OpensTyped : List Char → Prop
  | bang (text : List Char) : OpensTyped ('!' :: text)
  | word {w : List Char} (hw : IsWord w)
    (htyped : String.ofList w = "user" ∨ (splitTyped? (String.ofList w)).isSome)
    {text : List Char} (htext : ∀ rest, EndsElement rest → StopsWord (text ++ rest)) :
    OpensTyped (w ++ text)

namespace OpensTyped

variable {t : List Char}

theorem opensWithout (h : OpensTyped t) {κ : Token.Kind} (hword : κ ≠ .word)
    (hbang : κ ≠ .bang) : OpensWithout κ t := by
  cases h with
  | bang text => exact ⟨'!', rfl, rfl, hbang.symm⟩
  | @word w hw _ text _ => exact hw.opensWithout hword text

theorem append (h : OpensTyped t) {text : List Char}
    (htext : ∀ rest, EndsElement rest → EndsElement (text ++ rest)) : OpensTyped (t ++ text) := by
  cases h with
  | bang text' => exact .bang _
  | word hw htyped hstops =>
    rw [List.append_assoc]
    exact .word hw htyped fun rest hrest => by
      rw [List.append_assoc]
      exact hstops _ (htext rest hrest)

/-- An element does not start with a word that is neither `user` nor a typed name. -/
theorem seesWord_eq_false (h : OpensTyped t) {word : String} (huser : word ≠ "user")
    (huntyped : splitTyped? word = none) {n : Nat} {trivia rest : List Char}
    (htrivia : IsTrivia trivia) (hrest : EndsElement rest) :
    (⟨n, trivia ++ (t ++ rest)⟩ : Cursor).seesWord word = false := by
  cases h with
  | bang text =>
    apply Cursor.seesWord_eq_false
    rw [List.cons_append, kindAhead?_append_sign (κ := .bang) htrivia rfl]
    decide
  | word hw htyped hstops =>
    rw [List.append_assoc, Cursor.seesWord_word htrivia hw (hstops rest hrest),
      beq_eq_false_iff_ne]
    rintro rfl
    rcases htyped with htyped | htyped
    · exact huser htyped
    · rw [huntyped] at htyped
      cases htyped

theorem kindAhead {trivia : List Char} (h : OpensTyped t) (htrivia : IsTrivia trivia)
    (rest : List Char) : kindAhead? (trivia ++ (t ++ rest)) = some .word ∨
      kindAhead? (trivia ++ (t ++ rest)) = some .bang := by
  cases h with
  | bang text => exact .inr (kindAhead?_append_sign htrivia rfl _)
  | @word w hw _ text _ =>
    obtain ⟨c, hc, hword⟩ := hw.opensWord (text ++ rest)
    obtain ⟨text', htext⟩ := List.head?_eq_some_iff.1 hc
    refine .inl ?_
    rw [kindAhead?_append htrivia, List.append_assoc, htext, kindAhead?_cons (by rw [hword]; rfl),
      hword]

end OpensTyped

namespace Element

/-! ### Texts of elements -/

/-- The texts of a selector `[word]`. -/
inductive SpellsSelector : List Char → String → Prop
  | mk {w trivia trivia' : List Char} (hw : IsWord w) (h : IsTrivia trivia)
    (h' : IsTrivia trivia') :
    SpellsSelector ('[' :: (trivia ++ (w ++ (trivia' ++ [']'])))) (String.ofList w)

/-- The texts of the part `managed &` of an automatic group. -/
inductive SpellsManaged : List Char → Bool → Prop
  | absent : SpellsManaged [] false
  | present {trivia trivia' : List Char} (h : IsTrivia trivia) (h' : IsTrivia trivia') :
    SpellsManaged (trivia ++ ("managed".toList ++ (trivia' ++ ['&']))) true

/-- The texts of the part `ip = address &` of an automatic group. -/
inductive SpellsIp : List Char → Option String → Prop
  | absent : SpellsIp [] none
  | present {w a b c d : List Char} (hw : IsWord w) (ha : IsTrivia a) (hb : IsTrivia b)
    (hc : IsTrivia c) (hd : IsTrivia d) :
    SpellsIp (a ++ ("ip".toList ++ (b ++ '=' :: (c ++ (w ++ (d ++ ['&']))))))
      (some (String.ofList w))

/-- The texts behind the brackets of an automatic group. -/
inductive SpellsAutoSelector : List Char → Option String → Prop
  | absent : SpellsAutoSelector [] none
  | present {text : List Char} {selector : String} (h : SpellsSelector text selector) :
    SpellsAutoSelector ('.' :: text) (some selector)

mutual

/-- The texts of a single element. -/
inductive Spells : List Char → Element → Prop
  | user : Spells "user".toList user
  | named {w : List Char} {type name : String} (hw : IsWord w)
    (hsplit : splitTyped? (String.ofList w) = some (type, name)) (hname : name.isEmpty = false) :
    Spells w (named type name)
  | selected {w text : List Char} {type name selector : String} (hw : IsWord w)
    (hsplit : splitTyped? (String.ofList w) = some (type, name))
    (hname : name.toList.getLast? = some '.') (hselector : SpellsSelector text selector) :
    Spells (w ++ text) (named type (name ++ "[" ++ selector ++ "]"))
  | auto {w managedText ipText body selectorText : List Char} {type : String} {managed : Bool}
    {ip selector : Option String} {ts : List (List Char)} {es : List Element} (hw : IsWord w)
    (hsplit : splitTyped? (String.ofList w) = some (type, ""))
    (hmanaged : SpellsManaged managedText managed) (hip : SpellsIp ipText ip)
    (hbody : Separated ts body) (hitems : SpellsItems ts es)
    (hselector : SpellsAutoSelector selectorText selector) :
    Spells (w ++ '[' :: (managedText ++ (ipText ++ (body ++ ']' :: selectorText))))
      (auto type managed ip es selector)

/-- The texts of a term, which is an element or a complement. -/
inductive SpellsTerm : List Char → Element → Prop
  | plain {t : List Char} {e : Element} (h : Spells t e) : SpellsTerm t e
  | complement {trivia t : List Char} {e : Element} (htrivia : IsTrivia trivia) (h : Spells t e) :
    SpellsTerm ('!' :: (trivia ++ t)) (complement e)

/-- The texts of the terms of an intersection behind the first one. -/
inductive SpellsConjuncts : List Char → List Element → Prop
  | nil : SpellsConjuncts [] []
  | cons {trivia trivia' t text : List Char} {e : Element} {es : List Element}
    (htrivia : IsTrivia trivia) (htrivia' : IsTrivia trivia') (h : SpellsTerm t e)
    (hrest : SpellsConjuncts text es) :
    SpellsConjuncts (trivia ++ '&' :: (trivia' ++ (t ++ text))) (e :: es)

/-- The texts of an entry of an element list. -/
inductive SpellsItem : List Char → Element → Prop
  | term {t : List Char} {e : Element} (h : SpellsTerm t e) : SpellsItem t e
  | intersection {t text : List Char} {e d : Element} {es : List Element} (h : SpellsTerm t e)
    (hrest : SpellsConjuncts text (d :: es)) :
    SpellsItem (t ++ text) (intersection (e :: d :: es))

/-- The texts of the entries of an element list, one by one. -/
inductive SpellsItems : List (List Char) → List Element → Prop
  | nil : SpellsItems [] []
  | cons {t : List Char} {e : Element} {ts : List (List Char)} {es : List Element}
    (h : SpellsItem t e) (hrest : SpellsItems ts es) : SpellsItems (t :: ts) (e :: es)

end

theorem SpellsItems.of_forall₂ {ts : List (List Char)} {es : List Element}
    (h : List.Forall₂ SpellsItem ts es) : SpellsItems ts es := by
  induction h with
  | nil => exact .nil
  | cons hitem _ ih => exact .cons hitem ih

theorem SpellsItems.forall₂ : {ts : List (List Char)} → {es : List Element} → SpellsItems ts es →
    List.Forall₂ SpellsItem ts es
  | _, _, .nil => .nil
  | _, _, .cons h hrest => .cons h hrest.forall₂

/-! ### How they start -/

theorem SpellsSelector.stopsWord {text : List Char} {selector : String}
    (h : SpellsSelector text selector) (rest : List Char) : StopsWord (text ++ rest) := by
  cases h
  exact .cons (by decide) _

theorem SpellsSelector.touches {text : List Char} {selector : String}
    (h : SpellsSelector text selector) (n : Nat) (rest : List Char) :
    (⟨n, text ++ rest⟩ : Cursor).touches .openBracket = true := by
  cases h
  exact Cursor.touches_sign rfl

theorem Spells.opensTyped {t : List Char} {e : Element} (h : Spells t e) : OpensTyped t := by
  cases h with
  | user =>
    have hw : IsWord "user".toList := by decide
    exact List.append_nil "user".toList ▸ .word hw (.inl (by decide)) fun _ h => h.stopsWord
  | named hw hsplit _ =>
    exact List.append_nil t ▸ .word hw (.inr (by simp [hsplit])) fun _ h => h.stopsWord
  | selected hw hsplit _ hselector =>
    exact .word hw (.inr (by simp [hsplit])) fun rest _ => hselector.stopsWord rest
  | auto hw hsplit =>
    exact .word hw (.inr (by simp [hsplit])) fun _ _ => .cons (by decide) _

theorem SpellsTerm.opensTyped {t : List Char} {e : Element} (h : SpellsTerm t e) :
    OpensTyped t := by
  cases h with
  | plain h => exact h.opensTyped
  | complement => exact .bang _

theorem SpellsConjuncts.endsElement {text rest : List Char} {es : List Element}
    (h : SpellsConjuncts text es) (hrest : EndsElement rest) : EndsElement (text ++ rest) := by
  cases h with
  | nil => exact hrest
  | cons htrivia =>
    rw [List.append_assoc, List.cons_append]
    exact .of_kindAhead (kindAhead?_append_sign (κ := .ampersand) htrivia rfl _) (by decide)
      (by decide)

/-- Terms behind the first one do not go on with a word. -/
theorem SpellsConjuncts.stopsWord {text rest : List Char} {es : List Element}
    (h : SpellsConjuncts text es) (hrest : StopsWord rest) : StopsWord (text ++ rest) := by
  cases h with
  | nil => exact hrest
  | cons htrivia =>
    rw [List.append_assoc]
    exact htrivia.stopsWord_append (.cons (by decide) _)

theorem SpellsItem.opensTyped {t : List Char} {e : Element} (h : SpellsItem t e) :
    OpensTyped t := by
  cases h with
  | term h => exact h.opensTyped
  | intersection h hrest => exact h.opensTyped.append fun _ => hrest.endsElement

/-- The entries of an element list in front of the closing token do not start with a word that is
neither `user` nor a typed name. -/
theorem seesWord_items_eq_false {κ : Token.Kind} {s : Char} (hs : κ.sign? = some s)
    (hclose : κ = .semicolon ∨ κ = .closeBracket)
    {ts : List (List Char)} {body : List Char} (hbody : Separated ts body)
    (hopens : ∀ t ∈ ts, OpensTyped t) {word : String}
    (huser : word ≠ "user") (huntyped : splitTyped? word = none) (n : Nat) (rest : List Char) :
    (⟨n, body ++ s :: rest⟩ : Cursor).seesWord word = false := by
  have hends {trivia : List Char} (htrivia : IsTrivia trivia) :
      EndsElement (trivia ++ s :: rest) := by
    exact .of_kindAhead (kindAhead?_append_sign htrivia hs rest)
      (by rcases hclose with rfl | rfl <;> decide) (by rcases hclose with rfl | rfl <;> decide)
  cases hbody with
  | nil htrivia => exact Cursor.seesWord_eq_false (hends htrivia).1 word
  | last htrivia htrivia' =>
    simpa [List.append_assoc] using (hopens _ List.mem_cons_self).seesWord_eq_false huser huntyped
      (n := n) htrivia (hends htrivia')
  | @cons trivia t trivia' body' ts htrivia htrivia' _ =>
    have hcomma : EndsElement (trivia' ++ ',' :: (body' ++ s :: rest)) :=
      .of_kindAhead (kindAhead?_append_sign (κ := .comma) htrivia' rfl _) (by decide) (by decide)
    simpa [List.append_assoc] using (hopens _ List.mem_cons_self).seesWord_eq_false huser huntyped
      (n := n) htrivia hcomma

theorem SpellsItems.opensTyped : {ts : List (List Char)} → {es : List Element} →
    SpellsItems ts es → ∀ t ∈ ts, OpensTyped t
  | _, _, .nil => by simp
  | _, _, .cons h hrest => List.forall_mem_cons.2 ⟨h.opensTyped, hrest.opensTyped⟩

/-! ### Reading them -/

theorem readSelector_accepts {text : List Char} {selector : String}
    (h : SpellsSelector text selector) (n : Nat) (rest : List Char) :
    ∃ m, readSelector ⟨n, text ++ rest⟩ = .ok (selector, ⟨m, rest⟩) := by
  cases h with
  | @mk w trivia trivia' hw htrivia htrivia' =>
    obtain ⟨t, m, ht⟩ := Cursor.expectAs_sign (n := n)
      (r := trivia ++ (w ++ (trivia' ++ ']' :: rest))) .nil (κ := .openBracket) rfl
      Token.Kind.openBracket.describe
    obtain ⟨t', m', t'', m'', ht', htext, ht''⟩ := Cursor.expectAs_keyed (n := m) (r := rest)
      (κ := .closeBracket) htrivia hw htrivia' rfl Token.Kind.word.describe
    refine ⟨m'', ?_⟩
    simp only [List.append_assoc, List.cons_append, List.nil_append] at ht ⊢
    refine Except.bind_eq_ok.2 ⟨_, ht, Except.bind_eq_ok.2 ⟨_, ht', ?_⟩⟩
    exact Except.bind_eq_ok.2 ⟨_, ht'', by rw [← htext]; rfl⟩

theorem readAutoSelector_accepts {text : List Char} {selector : Option String}
    (h : SpellsAutoSelector text selector) (n : Nat) {rest : List Char} (hrest : EndsElement rest) :
    ∃ m, readAutoSelector ⟨n, text ++ rest⟩ = .ok (selector, ⟨m, rest⟩) := by
  cases h with
  | absent =>
    refine ⟨n, ?_⟩
    rw [readAutoSelector, List.nil_append, Cursor.seesWord_eq_false hrest.1, Bool.false_and,
      if_neg Bool.false_ne_true]
  | @present text selector hselector =>
    have hdot : IsWord ['.'] := by decide
    have hstop := hselector.stopsWord rest
    have hsees : (⟨n, '.' :: text ++ rest⟩ : Cursor).seesWord "." = true :=
      (Cursor.seesWord_word (n := n) .nil hdot hstop ".").trans (by decide)
    have hstart : (⟨n, '.' :: text ++ rest⟩ : Cursor).start = n :=
      Cursor.start_eq .nil (by decide) rfl
    obtain ⟨m, hbump⟩ := Cursor.bump_word (n := n) .nil hdot hstop
    obtain ⟨m', hread⟩ := readSelector_accepts hselector m rest
    refine ⟨m', ?_⟩
    simp only [readAutoSelector, hsees, hstart, beq_self_eq_true, Bool.and_self, if_true]
    rw [show (⟨n, '.' :: text ++ rest⟩ : Cursor).bump = ⟨m, text ++ rest⟩ from hbump,
      hselector.touches, if_pos rfl]
    exact Except.bind_eq_ok.2 ⟨_, hread, rfl⟩

theorem readAutoIp_accepts {text : List Char} {ip : Option String} (h : SpellsIp text ip) (n : Nat)
    {rest : List Char} (hrest : ∀ m, (⟨m, rest⟩ : Cursor).seesWord "ip" = false) :
    ∃ m, readAutoIp ⟨n, text ++ rest⟩ = .ok (ip, ⟨m, rest⟩) := by
  cases h with
  | absent =>
    refine ⟨n, ?_⟩
    rw [readAutoIp, List.nil_append, Cursor.seesKey_eq_false (hrest n), if_neg Bool.false_ne_true]
  | @present w a b c d hw ha hb hc hd =>
    have hkey : IsWord "ip".toList := by decide
    have hsees : (⟨n, a ++ ("ip".toList ++ (b ++ '=' :: (c ++ (w ++ (d ++ '&' :: rest)))))⟩ :
        Cursor).seesKey "ip" .equals = true :=
      (Cursor.seesKey_keyed ha hkey hb rfl "ip").trans (by decide)
    obtain ⟨m, hm⟩ := Cursor.bump_bump_keyed (n := n) (r := c ++ (w ++ (d ++ '&' :: rest)))
      (κ := .equals) ha hkey hb rfl
    obtain ⟨t, k, t', k', ht, htext, ht'⟩ := Cursor.expectAs_keyed (n := m) (r := rest)
      (κ := .ampersand) hc hw hd rfl Token.Kind.word.describe
    refine ⟨k', ?_⟩
    simp only [List.append_assoc, List.cons_append, List.nil_append]
    rw [readAutoIp, hsees, if_pos rfl, hm]
    refine Except.bind_eq_ok.2 ⟨_, ht, Except.bind_eq_ok.2 ⟨_, ht', ?_⟩⟩
    rw [← htext]
    rfl

/-- The part `managed &` is found and skipped. -/
theorem skipManaged {text : List Char} {managed : Bool} (h : SpellsManaged text managed) (n : Nat)
    {rest : List Char} (hrest : ∀ m, (⟨m, rest⟩ : Cursor).seesWord "managed" = false) :
    (⟨n, text ++ rest⟩ : Cursor).seesKey "managed" .ampersand = managed ∧
      (managed = true → ∃ m, (⟨n, text ++ rest⟩ : Cursor).bump.bump = ⟨m, rest⟩) := by
  cases h with
  | absent => exact ⟨Cursor.seesKey_eq_false (hrest n) _, fun h => by cases h⟩
  | @present a b ha hb =>
    have hkey : IsWord "managed".toList := by decide
    simp only [List.append_assoc, List.cons_append, List.nil_append]
    rw [Cursor.seesKey_keyed ha hkey hb rfl]
    exact ⟨by decide, fun _ => Cursor.bump_bump_keyed (κ := .ampersand) ha hkey hb rfl⟩

theorem readTerm_complement {element : Cursor → Reading (Element × Cursor)} {t trivia : List Char}
    {e : Element} (htrivia : IsTrivia trivia) (h : Accepts element t EndsElement (· = e)) :
    Accepts (readTerm element) ('!' :: (trivia ++ t)) EndsElement (· = complement e) := by
  intro n lead rest hlead hrest
  obtain ⟨m, hm⟩ := Cursor.eat?_sign (n := n) (r := trivia ++ (t ++ rest)) hlead
    (κ := .bang) rfl
  obtain ⟨_, m', hread, rfl⟩ := h m trivia rest htrivia hrest
  refine ⟨_, m', ?_, rfl⟩
  simp only [List.append_assoc, List.cons_append, readTerm, hm]
  exact Except.bind_eq_ok.2 ⟨_, hread, rfl⟩

theorem readTerm_plain {element : Cursor → Reading (Element × Cursor)} {t : List Char} {e : Element}
    (hopens : OpensWithout .bang t) (h : Accepts element t EndsElement (· = e)) :
    Accepts (readTerm element) t EndsElement (· = e) := by
  intro n lead rest hlead hrest
  obtain ⟨a, m, hread, ha⟩ := h n lead rest hlead hrest
  have heat : (⟨n, lead ++ (t ++ rest)⟩ : Cursor).eat? .bang = none :=
    Cursor.eat?_eq_none.2 (hopens.kindAhead_ne hlead rest)
  exact ⟨a, m, by rw [readTerm, heat]; exact hread, ha⟩

theorem readConjuncts_cons {element : Cursor → Reading (Element × Cursor)}
    {trivia trivia' t text rest : List Char} {e : Element} {es : List Element} {limit : Nat}
    (htrivia : IsTrivia trivia) (htrivia' : IsTrivia trivia')
    (h : Accepts (readTerm element) t EndsElement (· = e)) (hnext : EndsElement (text ++ rest))
    (hrest : ∀ n, ∃ m, readConjuncts element limit ⟨n, text ++ rest⟩ = .ok (es, ⟨m, rest⟩))
    (n : Nat) :
    ∃ m, readConjuncts element (limit + 1) ⟨n, trivia ++ '&' :: (trivia' ++ (t ++ text)) ++ rest⟩ =
      .ok (e :: es, ⟨m, rest⟩) := by
  obtain ⟨m, hm⟩ := Cursor.eat?_sign (n := n) (r := trivia' ++ (t ++ (text ++ rest))) htrivia
    (κ := .ampersand) rfl
  obtain ⟨_, m', hread, rfl⟩ := h m trivia' _ htrivia' hnext
  obtain ⟨m'', hrest⟩ := hrest m'
  refine ⟨m'', ?_⟩
  simp only [List.append_assoc, List.cons_append, readConjuncts, hm]
  exact Except.bind_eq_ok.2 ⟨_, hread, Except.bind_eq_ok.2 ⟨_, hrest, rfl⟩⟩

theorem readConjuncts_nil {element : Cursor → Reading (Element × Cursor)} {limit : Nat} {c : Cursor}
    (h : kindAhead? c.rest ≠ some .ampersand) :
    readConjuncts element limit c = .ok ([], c) := by
  cases limit with
  | zero => rfl
  | succ limit => rw [readConjuncts, Cursor.eat?_eq_none.2 h]

theorem SpellsConjuncts.length_le : {text : List Char} → {es : List Element} →
    SpellsConjuncts text es → es.length ≤ text.length
  | _, _, .nil => Nat.le_refl 0
  | _, _, .cons _ _ _ hrest => by
    have := hrest.length_le
    simp only [List.length_append, List.length_cons]
    omega

theorem readIntersection_accepts {element : Cursor → Reading (Element × Cursor)}
    {t text : List Char} {e : Element} {es : List Element}
    (h : Accepts (readTerm element) t EndsElement (· = e)) (hconjuncts : SpellsConjuncts text es)
    (hrest : ∀ n rest limit, es.length ≤ limit → EndsItem rest →
      ∃ m, readConjuncts element limit ⟨n, text ++ rest⟩ = .ok (es, ⟨m, rest⟩)) :
    Accepts (readIntersection element) (t ++ text) EndsItem
      (· = if es.isEmpty then e else intersection (e :: es)) := by
  intro n lead rest hlead hends
  obtain ⟨_, m, hread, rfl⟩ := h n lead (text ++ rest) hlead (hconjuncts.endsElement hends.1)
  have hlength : es.length ≤ (text ++ rest).length := by
    rw [List.length_append]
    exact hconjuncts.length_le.trans (Nat.le_add_right _ _)
  obtain ⟨m', hm'⟩ := hrest m rest _ hlength hends
  refine ⟨_, m', ?_, rfl⟩
  rw [List.append_assoc]
  exact Except.bind_eq_ok.2 ⟨_, hread, Except.bind_eq_ok.2 ⟨_, hm', rfl⟩⟩

/-- An automatic group is read if its elements are. -/
theorem readAuto_accepts {element : Cursor → Reading (Element × Cursor)}
    {managedText ipText body selectorText : List Char} (type : String) {managed : Bool}
    {ip selector : Option String} {ts : List (List Char)} {es : List Element}
    (hmanaged : SpellsManaged managedText managed) (hip : SpellsIp ipText ip)
    (hbody : Separated ts body) (hopens : ∀ t ∈ ts, OpensTyped t)
    (hitems : List.Forall₂ (fun t e => OpensWithout .closeBracket t ∧
      Accepts (readIntersection element) t (Layout.EndsEntry .closeBracket) (· = e)) ts es)
    (hselector : SpellsAutoSelector selectorText selector) (n : Nat) {rest : List Char}
    (hrest : EndsElement rest) :
    ∃ m, readAuto element type
        ⟨n, '[' :: (managedText ++ (ipText ++ (body ++ ']' :: (selectorText ++ rest))))⟩ =
      .ok (auto type managed ip es selector, ⟨m, rest⟩) := by
  have hnone {word : String} (huser : word ≠ "user") (huntyped : splitTyped? word = none)
      (m : Nat) : (⟨m, body ++ ']' :: (selectorText ++ rest)⟩ : Cursor).seesWord word = false :=
    seesWord_items_eq_false (κ := .closeBracket) rfl (.inr rfl) hbody hopens huser huntyped m _
  have hnone' (m : Nat) :
      (⟨m, ipText ++ (body ++ ']' :: (selectorText ++ rest))⟩ : Cursor).seesWord "managed" =
        false := by
    cases hip with
    | absent => exact hnone (by decide) (by decide) m
    | @present w a b c d hw ha hb hc hd =>
      simp only [List.append_assoc, List.cons_append, List.nil_append]
      rw [Cursor.seesWord_word ha (by decide) (hb.stopsWord_sign (κ := .equals) rfl _)]
      decide
  obtain ⟨t, m, ht⟩ := Cursor.expectAs_sign (n := n) .nil
    (r := managedText ++ (ipText ++ (body ++ ']' :: (selectorText ++ rest))))
    (κ := .openBracket) rfl Token.Kind.openBracket.describe
  obtain ⟨hsees, hskip⟩ := skipManaged hmanaged m hnone'
  obtain ⟨k, hk⟩ : ∃ k, (if managed then
      (⟨m, managedText ++ (ipText ++ (body ++ ']' :: (selectorText ++ rest)))⟩ : Cursor).bump.bump
      else ⟨m, managedText ++ (ipText ++ (body ++ ']' :: (selectorText ++ rest)))⟩) =
      (⟨k, ipText ++ (body ++ ']' :: (selectorText ++ rest))⟩ : Cursor) := by
    cases managed with
    | true => exact hskip rfl
    | false =>
      cases hmanaged
      exact ⟨m, rfl⟩
  obtain ⟨k', hk'⟩ := readAutoIp_accepts hip k (hnone (by decide) (by decide))
  obtain ⟨items, frame, k'', hk'', hall⟩ := Layout.readList_separated (κ := .closeBracket) rfl
    (by decide) (fun _ _ h => h) hbody hitems k' (selectorText ++ rest)
  have hcontents : items.map (·.1) = es := List.forall₂_eq_eq_eq ▸ hall
  obtain ⟨j, hj⟩ := readAutoSelector_accepts hselector k'' hrest
  refine ⟨j, ?_⟩
  refine Except.bind_eq_ok.2 ⟨_, ht, ?_⟩
  simp only [hsees, hk]
  refine Except.bind_eq_ok.2 ⟨_, hk', Except.bind_eq_ok.2 ⟨_, hk'', ?_⟩⟩
  refine Except.bind_eq_ok.2 ⟨_, hj, ?_⟩
  rw [← hcontents]
  rfl

/-! ### All levels at once -/

theorem ne_user_of_splitTyped? {word : String} {p : String × String}
    (h : splitTyped? word = some p) : word ≠ "user" := by
  rintro rfl
  rw [show splitTyped? "user" = none by decide] at h
  cases h

theorem Spells.opensWord {t : List Char} {e : Element} (h : Spells t e) (text : List Char) :
    ∃ c ∈ (t ++ text).head?, Token.Kind.ofChar c = .word := by
  cases h with
  | user => exact ⟨'u', rfl, by decide⟩
  | named hw => exact hw.opensWord text
  | selected hw | auto hw =>
    rw [List.append_assoc]
    exact hw.opensWord _

theorem Spells.opensWithout_bang {t : List Char} {e : Element} (h : Spells t e) :
    OpensWithout .bang t :=
  .of_word (List.append_nil t ▸ h.opensWord []) (by decide)

mutual

/-- Every text of an element is read as this element. -/
theorem Spells.accepts {t : List Char} {e : Element} (h : Spells t e) (depth : Nat) :
    t.length < depth → Accepts (read depth) t EndsElement (· = e) := by
  intro hdepth n trivia rest htrivia hrest
  obtain ⟨depth, rfl⟩ : ∃ d, depth = d + 1 := ⟨depth - 1, by omega⟩
  match h, hdepth with
  | .user, _ =>
    obtain ⟨word, m, hword, htext⟩ := Cursor.expectAs_word (n := n) htrivia
      (w := "user".toList) (by decide) hrest.stopsWord "element"
    refine ⟨_, m, Except.bind_eq_ok.2 ⟨_, hword, ?_⟩, rfl⟩
    simp only [htext, String.ofList_toList, if_true]
    rfl
  | @Spells.named _ type name hw hsplit hname, _ =>
    obtain ⟨word, m, hword, htext⟩ := Cursor.expectAs_word (n := n) htrivia hw hrest.stopsWord
      "element"
    have htouches : (⟨m, rest⟩ : Cursor).touches .openBracket = false :=
      Cursor.touches_eq_false hrest.2
    refine ⟨_, m, Except.bind_eq_ok.2 ⟨_, hword, ?_⟩, rfl⟩
    simp only [htext, if_neg (ne_user_of_splitTyped? hsplit), hsplit, hname, htouches,
      Bool.and_false]
    rfl
  | @Spells.selected w text type name selector hw hsplit hname hselector, _ =>
    obtain ⟨word, m, hword, htext⟩ := Cursor.expectAs_word (n := n) htrivia hw
      (hselector.stopsWord rest) "element"
    obtain ⟨k, hk⟩ := readSelector_accepts hselector m rest
    have htouches := hselector.touches m rest
    have hname' : name.isEmpty = false := by
      rw [Bool.eq_false_iff, Ne, String.isEmpty_iff]
      rintro rfl
      exact absurd hname (by decide)
    refine ⟨_, k, ?_, rfl⟩
    rw [List.append_assoc]
    refine Except.bind_eq_ok.2 ⟨_, hword, ?_⟩
    simp only [htext, if_neg (ne_user_of_splitTyped? hsplit), hsplit, hname', hname, htouches,
      decide_true, Bool.and_self, if_true]
    exact Except.bind_eq_ok.2 ⟨_, hk, rfl⟩
  | @Spells.auto w managedText ipText body selectorText type managed ip selector ts es hw hsplit
      hmanaged hip hbody hitems hselector, hdepth =>
    simp only [List.length_append, List.length_cons] at hdepth
    obtain ⟨word, m, hword, htext⟩ := Cursor.expectAs_word (n := n) htrivia hw
      (r := '[' :: (managedText ++ (ipText ++ (body ++ ']' :: (selectorText ++ rest)))))
      (.cons (by decide) _) "element"
    have hlength : ∀ t ∈ ts, t.length < depth := fun t ht => by
      have := hbody.length_le_of_mem t ht
      omega
    obtain ⟨k, hk⟩ := readAuto_accepts type hmanaged hip hbody hitems.opensTyped
      (hitems.accepts depth (.inr rfl) hlength) hselector m hrest
    have htouches : (⟨m, '[' :: (managedText ++ (ipText ++ (body ++ ']' ::
        (selectorText ++ rest))))⟩ : Cursor).touches .openBracket = true :=
      Cursor.touches_sign rfl
    refine ⟨_, k, ?_, rfl⟩
    simp only [List.append_assoc, List.cons_append]
    refine Except.bind_eq_ok.2 ⟨_, hword, ?_⟩
    simp only [htext, if_neg (ne_user_of_splitTyped? hsplit), hsplit, htouches, if_true]
    exact hk

theorem SpellsTerm.accepts {t : List Char} {e : Element} (h : SpellsTerm t e) (depth : Nat) :
    t.length < depth → Accepts (readTerm (read depth)) t EndsElement (· = e) := by
  intro hdepth
  match h, hdepth with
  | .plain h, hdepth => exact readTerm_plain h.opensWithout_bang (h.accepts depth hdepth)
  | .complement htrivia h, hdepth =>
    simp only [List.length_append, List.length_cons] at hdepth
    exact readTerm_complement htrivia (h.accepts depth (by omega))

theorem SpellsConjuncts.accepts {text : List Char} {es : List Element}
    (h : SpellsConjuncts text es) (depth : Nat) (n : Nat) (rest : List Char) (limit : Nat)
    (hrest : EndsItem rest) : text.length < depth → es.length ≤ limit →
    ∃ m, readConjuncts (read depth) limit ⟨n, text ++ rest⟩ = .ok (es, ⟨m, rest⟩) := by
  intro hdepth hlimit
  match h, hdepth, hlimit with
  | .nil, _, _ => exact ⟨n, readConjuncts_nil hrest.2⟩
  | .cons htrivia htrivia' hterm hconjuncts, hdepth, hlimit =>
    obtain ⟨limit, rfl⟩ : ∃ k, limit = k + 1 :=
      ⟨limit - 1, by rw [List.length_cons] at hlimit; omega⟩
    simp only [List.length_append, List.length_cons] at hdepth hlimit
    exact readConjuncts_cons htrivia htrivia' (hterm.accepts depth (by omega))
      (hconjuncts.endsElement hrest.1)
      (fun m => hconjuncts.accepts depth m rest limit hrest (by omega) (by omega)) n

theorem SpellsItem.accepts {t : List Char} {e : Element} (h : SpellsItem t e) (depth : Nat) :
    t.length < depth → Accepts (readIntersection (read depth)) t EndsItem (· = e) := by
  intro hdepth
  match h, hdepth with
  | .term h, hdepth =>
    have hnil : SpellsConjuncts [] [] := .nil
    simpa using readIntersection_accepts (h.accepts depth hdepth) hnil
      (fun n rest limit hlimit hrest => ⟨n, readConjuncts_nil hrest.2⟩)
  | .intersection h hconjuncts, hdepth =>
    rw [List.length_append] at hdepth
    exact readIntersection_accepts (h.accepts depth (by omega)) hconjuncts
      fun n rest limit hlimit hrest =>
        hconjuncts.accepts depth n rest limit hrest (by omega) hlimit

theorem SpellsItems.accepts {ts : List (List Char)} {es : List Element} (h : SpellsItems ts es)
    (depth : Nat) {close : Token.Kind} (hclose : close = .semicolon ∨ close = .closeBracket) :
    (∀ t ∈ ts, t.length < depth) → List.Forall₂ (fun t e => OpensWithout close t ∧
      Accepts (readIntersection (read depth)) t (Layout.EndsEntry close) (· = e)) ts es := by
  intro hdepth
  match h, hdepth with
  | .nil, _ => exact .nil
  | .cons h hrest, hdepth =>
    rw [List.forall_mem_cons] at hdepth
    refine .cons ⟨h.opensTyped.opensWithout ?_ ?_, ?_⟩ (hrest.accepts depth hclose hdepth.2)
    · rcases hclose with rfl | rfl <;> decide
    · rcases hclose with rfl | rfl <;> decide
    · exact (h.accepts depth hdepth.1).imp (fun _ => .of_endsEntry hclose) fun _ => id

end

/-- The text of an entry of an element list is read, however deep its groups nest. -/
theorem readItem_accepts {t : List Char} {e : Element} (h : SpellsItem t e) :
    Accepts readItem t EndsItem (· = e) := by
  intro n trivia rest htrivia hrest
  have hdepth : t.length < (trivia ++ (t ++ rest)).length + 1 := by
    simp only [List.length_append]
    omega
  exact h.accepts _ hdepth n trivia rest htrivia hrest

end Element

end PolicyEditor
