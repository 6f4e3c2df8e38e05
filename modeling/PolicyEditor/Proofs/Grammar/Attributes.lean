import PolicyEditor.Proofs.Grammar.Values

/-!
# Texts of attributes

An attribute is a flag, a list of values or a block of further attributes.  The relation of this
file says which texts stand for an attribute without layout, and all of them are read.

## Main definitions

* `Attribute.Spells` : the texts of an attribute.
* `Attribute.isFlag` : the attribute has no value.

## Main results

* `Attribute.Spells.seesWord`, `Attribute.Spells.seesKey` : how the text of an attribute starts.
* `readBlock_strung` : the attributes of a block are read.
* `Attribute.read_accepts` : the text of an attribute is read, however deep its blocks nest.
-/

namespace PolicyEditor

open Text

theorem Strung.length_le_of_mem {ts : List (List Char)} {text : List Char} (h : Strung ts text) :
    ∀ t ∈ ts, t.length ≤ text.length := by
  induction h with
  | nil => simp
  | cons _ _ ih =>
    simp only [List.forall_mem_cons, List.length_append]
    exact ⟨by omega, fun t ht => by have := ih t ht; omega⟩

/-- The first token of a comma list is that of its first entry, or the closing token. -/
theorem Separated.kindAhead_ne {ts : List (List Char)} {body : List Char} (h : Separated ts body)
    {kind κ : Token.Kind} {s : Char} (hs : κ.sign? = some s) (hclose : κ ≠ kind)
    (hopens : ∀ t ∈ ts, OpensWithout kind t) (rest : List Char) :
    kindAhead? (body ++ s :: rest) ≠ some kind := by
  cases h with
  | nil htrivia =>
    rw [kindAhead?_append_sign htrivia hs]
    exact fun heq => hclose (Option.some.inj heq)
  | last htrivia =>
    simpa [List.append_assoc] using (hopens _ List.mem_cons_self).kindAhead_ne htrivia _
  | cons htrivia =>
    simpa [List.append_assoc] using (hopens _ List.mem_cons_self).kindAhead_ne htrivia _

namespace Attribute

/-- The attribute has no value. -/
def isFlag (a : Attribute) : Bool :=
  match a.value with
  | .flag => true
  | _ => false

/-- The attribute does not depend on its layout once it is detached. -/
theorem detach_withLayout (a : Attribute) (layout : Layout) :
    ({ a with layout } : Attribute).detach = a.detach := by
  cases a
  rfl

theorem detach_eq (a : Attribute) : a.detach = { name := a.name, value := a.value.detach } := by
  cases a
  rfl

mutual

/-- The texts of an attribute. -/
inductive Spells : List Char → Attribute → Prop
  | flag {w trivia : List Char} (hw : IsWord w) (htrivia : IsTrivia trivia) :
    Spells (w ++ (trivia ++ [';'])) { name := String.ofList w, value := .flag }
  | values {w trivia body : List Char} {ts : List (List Char)} {vs : List String} (hw : IsWord w)
    (htrivia : IsTrivia trivia) (hbody : Separated ts body)
    (hvalues : List.Forall₂ Value.Spells ts vs) :
    Spells (w ++ (trivia ++ '=' :: (body ++ [';'])))
      { name := String.ofList w, value := .values (vs.map fun v => { content := v }) }
  | block {w a b body c : List Char} {ts : List (List Char)} {as : List Attribute} (hw : IsWord w)
    (ha : IsTrivia a) (hb : IsTrivia b) (hbody : Strung ts body) (hitems : SpellsAll ts as)
    (hc : IsTrivia c) :
    Spells (w ++ (a ++ '=' :: (b ++ '\x7b' :: (body ++ (c ++ ['\x7d'])))))
      { name := String.ofList w, value := .block as }

/-- The texts of attributes, one by one. -/
inductive SpellsAll : List (List Char) → List Attribute → Prop
  | nil : SpellsAll [] []
  | cons {t : List Char} {a : Attribute} {ts : List (List Char)} {as : List Attribute}
    (h : Spells t a) (hrest : SpellsAll ts as) : SpellsAll (t :: ts) (a :: as)

end

theorem SpellsAll.forall₂ : {ts : List (List Char)} → {as : List Attribute} → SpellsAll ts as →
    List.Forall₂ Spells ts as
  | _, _, .nil => .nil
  | _, _, .cons h hrest => .cons h hrest.forall₂

theorem SpellsAll.of_forall₂ {ts : List (List Char)} {as : List Attribute}
    (h : List.Forall₂ Spells ts as) : SpellsAll ts as := by
  induction h with
  | nil => exact .nil
  | cons hitem _ ih => exact .cons hitem ih

/-! ### How they start -/

/-- An attribute starts with its name, behind which its kind shows. -/
theorem Spells.name {t : List Char} {a : Attribute} (h : Spells t a) :
    ∃ w text, t = w ++ text ∧ IsWord w ∧ a.name = String.ofList w ∧ ∀ rest,
      kindAhead? (text ++ rest) = some (if a.isFlag then .semicolon else .equals) := by
  cases h with
  | flag hw htrivia =>
    refine ⟨_, _, rfl, hw, rfl, fun rest => ?_⟩
    rw [List.append_assoc]
    exact kindAhead?_append_sign (κ := .semicolon) htrivia rfl rest
  | values hw htrivia =>
    refine ⟨_, _, rfl, hw, rfl, fun rest => ?_⟩
    rw [List.append_assoc]
    exact kindAhead?_append_sign (κ := .equals) htrivia rfl _
  | block hw ha =>
    refine ⟨_, _, rfl, hw, rfl, fun rest => ?_⟩
    rw [List.append_assoc]
    exact kindAhead?_append_sign (κ := .equals) ha rfl _

section Starts

variable {t trivia : List Char} {a : Attribute}

theorem Spells.opensWithout (h : Spells t a) {κ : Token.Kind} (hkind : κ ≠ .word) :
    OpensWithout κ t := by
  obtain ⟨w, text, rfl, hw, -, -⟩ := h.name
  exact hw.opensWithout hkind text

private theorem stopsWord_of_kindAhead {text rest : List Char} {flag : Bool}
    (h : kindAhead? (text ++ rest) = some (if flag then .semicolon else .equals)) :
    StopsWord (text ++ rest) :=
  .of_kindAhead (by rw [h]; cases flag <;> decide)

theorem Spells.seesWord (h : Spells t a) (htrivia : IsTrivia trivia) (n : Nat) (rest : List Char)
    (word : String) :
    (⟨n, trivia ++ (t ++ rest)⟩ : Cursor).seesWord word = (a.name == word) := by
  obtain ⟨w, text, rfl, hw, hname, hahead⟩ := h.name
  rw [List.append_assoc, Cursor.seesWord_word htrivia hw (stopsWord_of_kindAhead (hahead rest)),
    hname]

theorem Spells.seesKey (h : Spells t a) (htrivia : IsTrivia trivia) (n : Nat) (rest : List Char)
    (word : String) :
    (⟨n, trivia ++ (t ++ rest)⟩ : Cursor).seesKey word .equals = (a.name == word && !a.isFlag) := by
  obtain ⟨w, text, rfl, hw, hname, hahead⟩ := h.name
  rw [List.append_assoc, Cursor.seesKey_word htrivia hw (stopsWord_of_kindAhead (hahead rest)),
    hahead, hname]
  cases a.isFlag <;> rfl

end Starts

end Attribute

/-! ### Reading them -/

theorem Value.readList_accepts {ts : List (List Char)} {body : List Char} {vs : List String}
    (hbody : Separated ts body) (hvalues : List.Forall₂ Value.Spells ts vs) (n : Nat)
    (rest : List Char) :
    ∃ values frame m, Value.readList ⟨n, body ++ ';' :: rest⟩ =
        .ok ((values, frame), ⟨m, rest⟩) ∧
      values.map Item.detach = vs.map fun v => { content := v } := by
  obtain ⟨items, frame, m, hread, hall⟩ := Layout.readList_separated (f := Value.readText)
    (κ := .semicolon) (E := (· = ·)) rfl (by decide)
    (fun t v h => ⟨h.opensWithout rfl, Value.readText_accepts h⟩) hbody hvalues n rest
  have hcontents : items.map (·.1) = vs := List.forall₂_eq_eq_eq ▸ hall
  refine ⟨items.map fun p => ⟨p.1, p.2⟩, frame, m,
    Except.bind_eq_ok.2 ⟨_, hread, rfl⟩, ?_⟩
  rw [← hcontents, List.map_map, List.map_map]
  rfl

/-- The attributes of a block are read up to its closing brace. -/
theorem readBlock_strung {entry : Cursor → Reading (Attribute × Cursor)} {ts : List (List Char)}
    {body trivia : List Char} {as : List Attribute} (hbody : Strung ts body)
    (hitems : List.Forall₂ (fun t a => OpensWithout .closeBrace t ∧
      Accepts entry t (fun _ => True) (·.detach = a)) ts as)
    (htrivia : IsTrivia trivia) (n : Nat) (rest : List Char) :
    ∃ attributes frame m, readBlock entry ⟨n, body ++ (trivia ++ '\x7d' :: rest)⟩ =
        .ok ((attributes, frame), ⟨m, rest⟩) ∧
      attributes.map Attribute.detach = as := by
  have hclose : kindAhead? (trivia ++ '\x7d' :: rest) = some .closeBrace :=
    kindAhead?_append_sign htrivia rfl rest
  let item : Cursor → Reading (Attribute × Cursor) := fun c =>
    if c.atEnd then .error (c.unexpected "'\x7d'") else entry c
  -- A further attribute starts with a token, so the text is not at its end there.
  have haccepts : ∀ t a, (OpensWithout .closeBrace t ∧
      Accepts entry t (fun _ => True) (·.detach = a)) →
      Accepts item t (fun _ => True) (·.detach = a) := by
    intro t a h n lead rest hlead _
    obtain ⟨b, m, hread, hb⟩ := h.2 n lead rest hlead trivial
    refine ⟨b, m, ?_, hb⟩
    show (if _ then _ else _) = _
    rw [h.1.atEnd_eq_false hlead, if_neg Bool.false_ne_true]
    exact hread
  have hlength := hbody.length_le (forall_of_forall₂ (fun t a h => h.1.length_pos) hitems)
  obtain ⟨items, m, hread, hall⟩ := Layout.readStatements_strung (f := item)
    (g := (·.sees .closeBrace)) (E := fun b a => b.detach = a) haccepts
    (fun t a h n lead rest hlead => ⟨h.1.sees_eq_false hlead n rest, trivial⟩)
    (fun n => Cursor.sees_iff.2 hclose) trivial hbody hitems
    ((body ++ (trivia ++ '\x7d' :: rest)).length + 1) (by rw [List.length_append]; omega) none n
  obtain ⟨t, k, hexpect⟩ := Cursor.expectAs_sign (n := m) (r := rest) htrivia
    (κ := .closeBrace) rfl Token.Kind.closeBrace.describe
  refine ⟨items.map fun p => { p.1 with layout := p.2 }, _, k,
    Except.bind_eq_ok.2 ⟨_, hread, Except.bind_eq_ok.2 ⟨_, hexpect, rfl⟩⟩, ?_⟩
  rw [← map_eq_of_forall₂ hall, List.map_map, List.map_map]
  exact List.map_congr_left fun p _ => p.1.detach_withLayout p.2

namespace Attribute

private theorem eat?_semicolon_eq_none {trivia : List Char} (htrivia : IsTrivia trivia) (n : Nat)
    (rest : List Char) : (⟨n, trivia ++ '=' :: rest⟩ : Cursor).eat? .semicolon = none := by
  rw [Cursor.eat?_eq_none, kindAhead?_append_sign (κ := .equals) htrivia rfl]
  decide

mutual

/-- Every text of an attribute is read as this attribute. -/
theorem Spells.accepts {t : List Char} {a : Attribute} (h : Spells t a) (depth : Nat) :
    t.length < depth → Accepts (readNested depth) t (fun _ => True) (·.detach = a) := by
  intro hdepth n lead rest hlead _
  obtain ⟨depth, rfl⟩ : ∃ d, depth = d + 1 := ⟨depth - 1, by omega⟩
  match h, hdepth with
  | @Spells.flag w trivia hw htrivia, _ =>
    obtain ⟨name, m, hname, htext⟩ := Cursor.expectAs_word (n := n) hlead hw
      (htrivia.stopsWord_sign (κ := .semicolon) rfl rest) "attribute"
    obtain ⟨k, hk⟩ := Cursor.eat?_sign (n := m) (r := rest) htrivia (κ := .semicolon) rfl
    refine ⟨{ name := String.ofList w, value := .flag }, k, ?_, rfl⟩
    simp only [List.append_assoc, List.cons_append, List.nil_append]
    refine Except.bind_eq_ok.2 ⟨_, hname, ?_⟩
    simp only [hk, htext]
    rfl
  | @Spells.values w trivia body ts vs hw htrivia hbody hvalues, _ =>
    obtain ⟨name, m, t', k, hname, htext, hexpect⟩ := Cursor.expectAs_keyed (n := n)
      (r := body ++ ';' :: rest) (κ := .equals) hlead hw htrivia rfl "attribute"
    have heat : (⟨m, trivia ++ '=' :: (body ++ ';' :: rest)⟩ : Cursor).eat? .semicolon = none :=
      eat?_semicolon_eq_none htrivia m _
    have hopens := forall_of_forall₂
      (fun t v (h : Value.Spells t v) => h.opensWithout (κ := .openBrace) rfl) hvalues
    have heat' : (⟨k, body ++ ';' :: rest⟩ : Cursor).eat? .openBrace = none :=
      Cursor.eat?_eq_none.2 (hbody.kindAhead_ne (κ := .semicolon) rfl (by decide) hopens rest)
    obtain ⟨values, frame, k', hread, hdetach⟩ := Value.readList_accepts hbody hvalues k rest
    refine ⟨{ name := String.ofList w, value := .values values, frame := some frame }, k', ?_, ?_⟩
    · simp only [List.append_assoc, List.cons_append, List.nil_append]
      refine Except.bind_eq_ok.2 ⟨_, hname, ?_⟩
      simp only [heat, htext]
      refine Except.bind_eq_ok.2 ⟨_, hexpect, ?_⟩
      simp only [heat']
      exact Except.bind_eq_ok.2 ⟨_, hread, rfl⟩
    · dsimp only
      rw [detach_eq, AttributeValue.detach, hdetach]
  | @Spells.block w a b body c ts as hw ha hb hbody hitems hc, hdepth =>
    obtain ⟨name, m, t', k, hname, htext, hexpect⟩ := Cursor.expectAs_keyed (n := n)
      (r := b ++ '\x7b' :: (body ++ (c ++ '\x7d' :: rest))) (κ := .equals) hlead hw ha rfl
      "attribute"
    have heat : (⟨m, a ++ '=' :: (b ++ '\x7b' :: (body ++ (c ++ '\x7d' :: rest)))⟩ :
        Cursor).eat? .semicolon = none := eat?_semicolon_eq_none ha m _
    obtain ⟨k', heat'⟩ := Cursor.eat?_sign (n := k) (r := body ++ (c ++ '\x7d' :: rest)) hb
      (κ := .openBrace) rfl
    simp only [List.length_append, List.length_cons] at hdepth
    have hlength : ∀ t ∈ ts, t.length < depth := fun t ht => by
      have := hbody.length_le_of_mem t ht
      omega
    obtain ⟨attributes, frame, k'', hread, hdetach⟩ :=
      readBlock_strung hbody (hitems.accepts depth hlength) hc k' rest
    refine ⟨{ name := String.ofList w, value := .block attributes, frame := some frame }, k'', ?_,
      ?_⟩
    · simp only [List.append_assoc, List.cons_append, List.nil_append]
      refine Except.bind_eq_ok.2 ⟨_, hname, ?_⟩
      simp only [heat, htext]
      refine Except.bind_eq_ok.2 ⟨_, hexpect, ?_⟩
      simp only [heat']
      exact Except.bind_eq_ok.2 ⟨_, hread, rfl⟩
    · dsimp only
      rw [detach_eq, AttributeValue.detach, detachAttributes_eq_map, hdetach]

theorem SpellsAll.accepts {ts : List (List Char)} {as : List Attribute} (h : SpellsAll ts as)
    (depth : Nat) : (∀ t ∈ ts, t.length < depth) → List.Forall₂ (fun t a =>
      OpensWithout .closeBrace t ∧ Accepts (readNested depth) t (fun _ => True) (·.detach = a))
      ts as := by
  intro hdepth
  match h, hdepth with
  | .nil, _ => exact .nil
  | .cons h hrest, hdepth =>
    rw [List.forall_mem_cons] at hdepth
    exact .cons ⟨h.opensWithout (by decide), h.accepts depth hdepth.1⟩
      (hrest.accepts depth hdepth.2)

end

/-- The text of an attribute is read, however deep its blocks nest. -/
theorem read_accepts {t : List Char} {a : Attribute} (h : Spells t a) :
    Accepts read t (fun _ => True) (·.detach = a) := by
  intro n trivia rest htrivia hrest
  have hdepth : t.length < (trivia ++ (t ++ rest)).length + 1 := by
    simp only [List.length_append]
    omega
  exact h.accepts _ hdepth n trivia rest htrivia hrest

end Attribute

end PolicyEditor
