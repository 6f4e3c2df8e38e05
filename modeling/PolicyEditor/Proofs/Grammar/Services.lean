import PolicyEditor.Proofs.Grammar.Attributes
import PolicyEditor.Proofs.Grammar.Elements

/-!
# Texts of services

A service has a description, attributes, its users and its rules.  A description takes the rest of
its line whatever is written there, so what follows it starts with a line feed.  Where there is no
description, the first attribute must not look like one.

## Main definitions

* `SpellsDescription`, `FollowsDescription` : the texts of a description and what may follow them.
* `Union.Spells`, `Rule.Spells`, `Service.Spells` : the texts of the parts of a service.
* `Describable` : the first attribute does not look like a description.

## Main results

* `Union.read_accepts`, `Rule.read_accepts`, `Service.read_accepts` : these texts are read.
-/

namespace PolicyEditor

open Text

/-! ### Descriptions -/

/-- The description that is read from a line. -/
def descriptionOf (line : List Char) : String :=
  String.ofList (trimEnd (dropLastChar ';' (trim line)))

/-- The texts of a description that may be absent, up to the end of its line. -/
inductive SpellsDescription : Option String → List Char → Prop
  | absent : SpellsDescription none []
  | present {a b line : List Char} (ha : IsTrivia a) (hb : IsTrivia b) (hline : '\n' ∉ line) :
    SpellsDescription (some (descriptionOf line))
      (a ++ ("description".toList ++ (b ++ '=' :: line)))

/-- The text behind a description, or in place of one. -/
def FollowsDescription (description : Option String) (rest : List Char) : Prop :=
  match description with
  | none => ∀ n, (⟨n, rest⟩ : Cursor).seesKey "description" .equals = false
  | some _ => rest.head? = some '\n'

/-- The first attribute of a body without description does not look like one. -/
def Describable (description : Option String) (attributes : List Attribute) : Bool :=
  description.isSome || match attributes with
    | [] => true
    | a :: _ => a.name != "description" || a.isFlag

theorem readDescription_accepts {description : Option String} {text rest : List Char}
    (h : SpellsDescription description text) (hrest : FollowsDescription description rest)
    (n : Nat) : ∃ m, readDescription ⟨n, text ++ rest⟩ = .ok (description, ⟨m, rest⟩) := by
  cases h with
  | absent =>
    exact ⟨n, by rw [List.nil_append, readDescription, hrest n, if_neg Bool.false_ne_true]⟩
  | @present a b line ha hb hline =>
    obtain ⟨rest, rfl⟩ := List.head?_eq_some_iff.1 hrest
    have hkey : IsWord "description".toList := by decide
    obtain ⟨k, hk⟩ := Cursor.bump_bump_keyed (n := n) (r := line ++ '\n' :: rest) (κ := .equals)
      ha hkey hb rfl
    have hsees : (⟨n, a ++ ("description".toList ++ (b ++ '=' :: (line ++ '\n' :: rest)))⟩ :
        Cursor).seesKey "description" .equals = true :=
      (Cursor.seesKey_keyed ha hkey hb rfl "description").trans (by decide)
    have hfirst : firstLine (line ++ '\n' :: rest) = line := by
      rw [firstLine, List.takeWhile_append_of_pos fun c hc => by
        simpa using fun heq : c = '\n' => hline (heq ▸ hc)]
      simp
    refine ⟨k + byteLength line, ?_⟩
    simp only [List.append_assoc, List.cons_append]
    simp only [readDescription, hsees, if_true, hk, hfirst, Cursor.lineEnd, Cursor.advance,
      List.drop_left]
    rfl

/-- Attributes without a description in front do not look like one. -/
theorem followsDescription_strung {ts : List (List Char)} {body rest : List Char}
    {as : List Attribute} (hbody : Strung ts body) (hitems : List.Forall₂ Attribute.Spells ts as)
    (h : Describable none as = true)
    (hrest : as = [] → ∀ n, (⟨n, rest⟩ : Cursor).seesKey "description" .equals = false) :
    FollowsDescription none (body ++ rest) := by
  intro n
  cases hbody with
  | nil =>
    cases hitems
    exact hrest rfl n
  | cons htrivia _ =>
    obtain _ | ⟨ha, -⟩ := hitems
    simp only [List.append_assoc]
    rw [ha.seesKey htrivia, Bool.and_eq_false_iff, Bool.not_eq_false',
      beq_eq_false_iff_ne]
    simpa [Describable] using h

/-! ### Unions -/

theorem Element.readUnion_accepts {ts : List (List Char)} {body : List Char} {es : List Element}
    (hbody : Separated ts body) (hitems : SpellsItems ts es) (n : Nat) (rest : List Char) :
    ∃ items frame m, readUnion ⟨n, body ++ ';' :: rest⟩ = .ok ((items, frame), ⟨m, rest⟩) ∧
      items.map (·.1) = es := by
  have hall : List.Forall₂ SpellsItem ts es := hitems.forall₂
  obtain ⟨items, frame, m, hread, hall⟩ := Layout.readList_separated (f := readItem)
    (κ := .semicolon) (E := (· = ·)) rfl (by decide)
    (fun t e h => ⟨h.opensTyped.opensWithout (by decide) (by decide),
      (readItem_accepts h).imp (fun _ => .of_endsEntry (.inl rfl)) fun _ => id⟩) hbody hall n rest
  exact ⟨items, frame, m, hread, List.forall₂_eq_eq_eq ▸ hall⟩

namespace Union

/-- The texts of a union. -/
inductive Spells : List Char → Union → Prop
  | plain {role : Role} {a body : List Char} {ts : List (List Char)} {es : List Element}
    (ha : IsTrivia a) (hbody : Separated ts body) (hitems : Element.SpellsItems ts es) :
    Spells (role.keyword.toList ++ (a ++ '=' :: (body ++ [';'])))
      { role, elements := es.map fun e => { content := e } }
  | foreach {a b body : List Char} {ts : List (List Char)} {es : List Element}
    (ha : IsTrivia a) (hb : IsTrivia b) (hbody : Separated ts body)
    (hitems : Element.SpellsItems ts es) (hne : ts ≠ []) (hstop : StopsWord body) :
    Spells ("user".toList ++ (a ++ '=' :: (b ++ ("foreach".toList ++ (body ++ [';'])))))
      { role := .user, foreach := true, elements := es.map fun e => { content := e } }

theorem isWord_keyword (role : Role) : IsWord role.keyword.toList := by
  cases role <;> decide

theorem Spells.keyword {t : List Char} {u : Union} (h : Spells t u) :
    ∃ text, t = u.role.keyword.toList ++ text ∧
      ∀ rest, kindAhead? (text ++ rest) = some .equals := by
  cases h with
  | plain ha =>
    refine ⟨_, rfl, fun rest => ?_⟩
    rw [List.append_assoc]
    exact kindAhead?_append_sign (κ := .equals) ha rfl _
  | foreach ha =>
    refine ⟨_, rfl, fun rest => ?_⟩
    rw [List.append_assoc]
    exact kindAhead?_append_sign (κ := .equals) ha rfl _

section Starts

variable {t trivia : List Char} {u : Union}

theorem Spells.seesKey (h : Spells t u) (htrivia : IsTrivia trivia) (n : Nat) (rest : List Char)
    (word : String) :
    (⟨n, trivia ++ (t ++ rest)⟩ : Cursor).seesKey word .equals = (u.role.keyword == word) := by
  obtain ⟨text, rfl, hahead⟩ := h.keyword
  rw [List.append_assoc, Cursor.seesKey_word htrivia (isWord_keyword _)
    (.of_kindAhead (by rw [hahead]; decide)), hahead, String.ofList_toList]
  simp

/-- The keyword and the equals sign of a union are read. -/
theorem reads_keyword (role : Role) {a r : List Char} (htrivia : IsTrivia trivia)
    (ha : IsTrivia a) (n : Nat) : ∃ m t k,
      (⟨n, trivia ++ (role.keyword.toList ++ (a ++ '=' :: r))⟩ : Cursor).expectWord
        role.keyword = .ok ⟨m, a ++ '=' :: r⟩ ∧
      (⟨m, a ++ '=' :: r⟩ : Cursor).expect .equals = .ok (t, ⟨k, r⟩) := by
  have hstop : StopsWord (a ++ '=' :: r) := ha.stopsWord_sign (κ := .equals) rfl r
  obtain ⟨m, hm⟩ := Cursor.bump_word (n := n) htrivia (isWord_keyword role) hstop
  obtain ⟨t, k, ht⟩ := Cursor.expectAs_sign (n := m) (r := r) ha (κ := .equals) rfl
    Token.Kind.equals.describe
  have hsees : (⟨n, trivia ++ (role.keyword.toList ++ (a ++ '=' :: r))⟩ :
      Cursor).seesWord role.keyword = true := by
    rw [Cursor.seesWord_word htrivia (isWord_keyword role) hstop, String.ofList_toList,
      beq_self_eq_true]
  exact ⟨m, t, k, by rw [Cursor.expectWord, hsees, if_pos rfl, hm], ht⟩

end Starts

/-- The text of a union is read. -/
theorem read_accepts {t : List Char} {u : Union} (h : Spells t u) :
    Accepts (read u.role) t (fun _ => True) (·.detach = u) := by
  intro n trivia rest htrivia _
  cases h with
  | @plain role a body ts es ha hbody hitems =>
    obtain ⟨m, t, k, hword, hequals⟩ := reads_keyword (n := n) (r := body ++ ';' :: rest) role
      htrivia ha
    have hsees : (⟨k, body ++ ';' :: rest⟩ : Cursor).seesWord "foreach" = false :=
      Element.seesWord_items_eq_false (κ := .semicolon) rfl (.inl rfl) hbody hitems.opensTyped
        (by decide) (by decide) k rest
    obtain ⟨items, frame, k', hread, hcontents⟩ := Element.readUnion_accepts hbody hitems k rest
    refine ⟨{ role, elements := items.map fun p => ⟨p.1, p.2⟩, frame := some frame }, k', ?_, ?_⟩
    · simp only [List.append_assoc, List.cons_append, List.nil_append]
      refine Except.bind_eq_ok.2 ⟨_, hword, Except.bind_eq_ok.2 ⟨_, hequals, ?_⟩⟩
      simp only [Cursor.seesKey_eq_false hsees, Bool.or_self, Bool.and_false, Bool.false_eq_true,
        if_false]
      exact Except.bind_eq_ok.2 ⟨_, hread, rfl⟩
    · simp only [detach, ← hcontents, List.map_map]
      rfl
  | @foreach a b body ts es ha hb hbody hitems hne hstop =>
    obtain ⟨m, t, k, hword, hequals⟩ := reads_keyword (n := n)
      (r := b ++ ("foreach".toList ++ (body ++ ';' :: rest))) .user htrivia ha
    have hkey : IsWord "foreach".toList := by decide
    have hstop' : StopsWord (body ++ ';' :: rest) :=
      hstop.append fun _ => .cons (by decide) _
    obtain ⟨k', hk'⟩ := Cursor.bump_word (n := k) hb hkey hstop'
    have hahead : kindAhead? (body ++ ';' :: rest) = some .word ∨
        kindAhead? (body ++ ';' :: rest) = some .bang := by
      cases hbody with
      | nil => exact (hne rfl).elim
      | last hlead =>
        simpa [List.append_assoc] using (hitems.opensTyped _ List.mem_cons_self).kindAhead hlead _
      | cons hlead =>
        simpa [List.append_assoc] using (hitems.opensTyped _ List.mem_cons_self).kindAhead hlead _
    have hforeach : ((⟨k, b ++ ("foreach".toList ++ (body ++ ';' :: rest))⟩ : Cursor).seesKey
          "foreach" .word ||
        (⟨k, b ++ ("foreach".toList ++ (body ++ ';' :: rest))⟩ : Cursor).seesKey
          "foreach" .bang) = true := by
      rw [Cursor.seesKey_word hb hkey hstop', Cursor.seesKey_word hb hkey hstop']
      rcases hahead with hahead | hahead <;> rw [hahead] <;> decide
    obtain ⟨items, frame, k'', hread, hcontents⟩ := Element.readUnion_accepts hbody hitems k' rest
    let u : Union :=
      { role := .user
        foreach := true
        elements := items.map fun p => ⟨p.1, p.2⟩
        frame := some frame }
    refine ⟨u, k'', ?_, ?_⟩
    · simp only [List.append_assoc, List.cons_append, List.nil_append]
      refine Except.bind_eq_ok.2 ⟨_, hword, Except.bind_eq_ok.2 ⟨_, hequals, ?_⟩⟩
      simp only [hforeach, beq_self_eq_true, Bool.and_self, if_true, hk']
      exact Except.bind_eq_ok.2 ⟨_, hread, rfl⟩
    · simp only [u, detach, ← hcontents, List.map_map]
      rfl

end Union

/-! ### Rules -/

namespace Rule

/-- The texts of the attribute `log` of a rule, which may be absent. -/
inductive SpellsLog : List Char → Option Attribute → Prop
  | absent : SpellsLog [] none
  | present {trivia t : List Char} {a : Attribute} (htrivia : IsTrivia trivia)
    (h : Attribute.Spells t a) (hname : a.name = "log") : SpellsLog (trivia ++ t) (some a)

/-- The texts of a rule. -/
inductive Spells : List Char → Rule → Prop
  | mk {action : Action} {a b c srcText dstText prtText logText : List Char} {src dst : Union}
    {prt : Attribute} {log : Option Attribute} (ha : IsTrivia a) (hne : a ≠ []) (hb : IsTrivia b)
    (hc : IsTrivia c) (hsrc : Union.Spells srcText src) (hsrcRole : src.role = .src)
    (hdst : Union.Spells dstText dst) (hdstRole : dst.role = .dst)
    (hprt : Attribute.Spells prtText prt) (hname : prt.name = "prt")
    (hlog : SpellsLog logText log) :
    Spells (action.keyword.toList ++ (a ++ (srcText ++ (b ++ (dstText ++ (c ++
      (prtText ++ logText))))))) { action, src, dst, prt, log }

/-- A text that may follow a rule. -/
def Ends (rest : List Char) : Prop :=
  ∀ n, (⟨n, rest⟩ : Cursor).seesWord "log" = false

theorem isWord_keyword (action : Action) : IsWord action.keyword.toList := by
  cases action <;> decide

/-- A rule starts with the word of its action. -/
theorem Spells.word {t : List Char} {r : Rule} (h : Spells t r) :
    ∃ text, t = r.action.keyword.toList ++ text ∧ ∀ rest, StopsWord (text ++ rest) := by
  cases h with
  | mk ha hne =>
    refine ⟨_, rfl, fun rest => ?_⟩
    rw [List.append_assoc]
    exact IsTrivia.stopsWord ha hne _

theorem Spells.opensWithout {t : List Char} {r : Rule} (h : Spells t r) {κ : Token.Kind}
    (hkind : κ ≠ .word) : OpensWithout κ t := by
  obtain ⟨text, rfl, -⟩ := h.word
  exact (isWord_keyword r.action).opensWithout hkind text

theorem Spells.ends {t trivia : List Char} {r : Rule} (h : Spells t r) (htrivia : IsTrivia trivia)
    (rest : List Char) : Ends (trivia ++ (t ++ rest)) := by
  intro n
  obtain ⟨text, rfl, hstop⟩ := h.word
  rw [List.append_assoc, Cursor.seesWord_word htrivia (isWord_keyword _) (hstop rest),
    String.ofList_toList]
  cases r.action <;> decide

theorem readSide_accepts {t : List Char} {u : Union} (h : Union.Spells t u)
    (previous : Option Nat) :
    Accepts (readSide u.role previous) t (fun _ => True) (·.detach = u) := by
  intro n trivia rest htrivia hrest
  obtain ⟨v, m, hread, hv⟩ := Union.read_accepts h n trivia rest htrivia hrest
  exact ⟨_, m, Except.bind_eq_ok.2 ⟨_, hread, rfl⟩, hv⟩

theorem readAttribute_accepts {t : List Char} {a : Attribute} (h : Attribute.Spells t a)
    (previous : Option Nat) :
    Accepts (readAttribute a.name previous) t (fun _ => True) (·.detach = a) := by
  intro n trivia rest htrivia hrest
  obtain ⟨b, m, hread, hb⟩ := Attribute.read_accepts h n trivia rest htrivia hrest
  let layout := Layout.placed previous (⟨n, trivia ++ (t ++ rest)⟩ : Cursor).start m
  refine ⟨{ b with layout }, m, ?_, (b.detach_withLayout layout).trans hb⟩
  rw [readAttribute, h.seesWord htrivia, beq_self_eq_true, if_pos rfl]
  exact Except.bind_eq_ok.2 ⟨_, hread, rfl⟩

theorem action_read {trivia : List Char} (action : Action) (htrivia : IsTrivia trivia)
    {r : List Char} (hrest : StopsWord r) (n : Nat) :
    ∃ m, Action.read ⟨n, trivia ++ (action.keyword.toList ++ r)⟩ =
      .ok (action, ⟨m, r⟩) := by
  have hnext := Cursor.next?_word (n := n) htrivia (isWord_keyword action) hrest
  have haction : Action.ofKeyword? (String.ofList action.keyword.toList) = some action := by
    rw [String.ofList_toList]
    cases action <;> rfl
  refine ⟨n + byteLength trivia + byteLength action.keyword.toList, ?_⟩
  simp only [Action.read, hnext, if_true, haction]

/-- The text of a rule is read. -/
theorem read_accepts {t : List Char} {r : Rule} (h : Spells t r) :
    Accepts read t Ends (·.detach = r) := by
  intro n lead rest hlead hrest
  cases h with
  | @mk action a b c srcText dstText prtText logText src dst prt log ha hne hb hc hsrc hsrcRole
      hdst hdstRole hprt hname hlog =>
    obtain ⟨m, hm⟩ := action_read action hlead (n := n) (r := a ++ (srcText ++ (b ++
      (dstText ++ (c ++ (prtText ++ (logText ++ rest))))))) (IsTrivia.stopsWord ha hne _)
    obtain ⟨src', m₁, hsrc', hsrcEq⟩ := readSide_accepts hsrc none m a
      (b ++ (dstText ++ (c ++ (prtText ++ (logText ++ rest))))) ha trivial
    obtain ⟨dst', m₂, hdst', hdstEq⟩ := readSide_accepts hdst (some m₁) m₁ b
      (c ++ (prtText ++ (logText ++ rest))) hb trivial
    obtain ⟨prt', m₃, hprt', hprtEq⟩ := readAttribute_accepts hprt (some m₂) m₂ c
      (logText ++ rest) hc trivial
    rw [hsrcRole] at hsrc'
    rw [hdstRole] at hdst'
    rw [hname] at hprt'
    let layouts := [src'.layout, dst'.layout, prt'.layout]
    cases hlog with
    | absent =>
      let frame := Frame.ofLayouts m m₃ false layouts
      refine ⟨{ action, src := src', dst := dst', prt := prt', frame := some frame }, m₃, ?_, ?_⟩
      · simp only [List.append_assoc]
        refine Except.bind_eq_ok.2 ⟨_, hm, ?_⟩
        refine Except.bind_eq_ok.2 ⟨_, hsrc', Except.bind_eq_ok.2 ⟨_, hdst', ?_⟩⟩
        refine Except.bind_eq_ok.2 ⟨_, hprt', ?_⟩
        simp only [List.nil_append, hrest m₃, Bool.false_eq_true, if_false]
        rfl
      · simp only [detach, hsrcEq, hdstEq, hprtEq, Option.map_none]
    | @present d t log hd hlog hlogName =>
      obtain ⟨log', m₄, hlog', hlogEq⟩ := readAttribute_accepts hlog (some m₃) m₃ d rest hd trivial
      rw [hlogName] at hlog'
      let frame := Frame.ofLayouts m m₄ false (layouts ++ [log'.layout])
      refine ⟨{ action, src := src', dst := dst', prt := prt', log := some log',
                frame := some frame }, m₄, ?_, ?_⟩
      · have hsees : (⟨m₃, d ++ (t ++ rest)⟩ : Cursor).seesWord "log" = true := by
          rw [hlog.seesWord hd, hlogName, beq_self_eq_true]
        simp only [List.append_assoc] at hm hsrc' hdst' hprt' ⊢
        refine Except.bind_eq_ok.2 ⟨_, hm, ?_⟩
        refine Except.bind_eq_ok.2 ⟨_, hsrc', Except.bind_eq_ok.2 ⟨_, hdst', ?_⟩⟩
        refine Except.bind_eq_ok.2 ⟨_, hprt', ?_⟩
        simp only [hsees, if_true]
        exact Except.bind_eq_ok.2 ⟨_, hlog', rfl⟩
      · simp only [detach, hsrcEq, hdstEq, hprtEq, hlogEq, Option.map_some]

end Rule

/-! ### Services -/

namespace Service

/-- The texts of the body of a service. -/
inductive Spells : List Char → Service → Prop
  | mk {a header attributeText b userText ruleText c : List Char} {description : Option String}
    {attributeTexts ruleTexts : List (List Char)} {attributes : List Attribute} {user : Union}
    {rules : List Rule} (ha : IsTrivia a) (hheader : SpellsDescription description header)
    (hfollows : description.isSome → (attributeText ++ (b ++ (userText ++ (ruleText ++
      (c ++ ['\x7d']))))).head? = some '\n')
    (hdescribable : Describable description attributes = true)
    (hattributeText : Strung attributeTexts attributeText)
    (hattributes : List.Forall₂ Attribute.Spells attributeTexts attributes)
    (hnames : ∀ a ∈ attributes, a.name = "user" → a.isFlag = true) (hb : IsTrivia b)
    (huser : Union.Spells userText user) (hrole : user.role = .user)
    (hruleText : Strung ruleTexts ruleText) (hrules : List.Forall₂ Rule.Spells ruleTexts rules)
    (hc : IsTrivia c) :
    Spells (a ++ '\x7b' :: (header ++ (attributeText ++ (b ++ (userText ++ (ruleText ++
      (c ++ ['\x7d']))))))) { description, attributes, user, rules }

theorem readAttribute_accepts {t : List Char} {a : Attribute} (h : Attribute.Spells t a) :
    Accepts readAttribute t (fun _ => True) (·.detach = a) := by
  intro n trivia rest htrivia hrest
  obtain ⟨b, m, hread, hb⟩ := Attribute.read_accepts h n trivia rest htrivia hrest
  have hopens : OpensWithout .closeBrace t := h.opensWithout (by decide)
  refine ⟨b, m, ?_, hb⟩
  rw [readAttribute, hopens.sees_eq_false htrivia, hopens.atEnd_eq_false htrivia, Bool.or_self,
    if_neg Bool.false_ne_true]
  exact hread

/-- The attributes of a service are read up to its users. -/
theorem readAttributes {ts : List (List Char)} {body b userText : List Char}
    {as : List Attribute} {u : Union} (hbody : Strung ts body)
    (hitems : List.Forall₂ Attribute.Spells ts as)
    (hnames : ∀ a ∈ as, a.name = "user" → a.isFlag = true) (hb : IsTrivia b)
    (huser : Union.Spells userText u) (hrole : u.role = .user) (n : Nat) (rest : List Char) :
    ∃ items m, Layout.readStatements (·.seesKey "user" .equals) readAttribute
        ((body ++ (b ++ (userText ++ rest))).length + 1) none
        ⟨n, body ++ (b ++ (userText ++ rest))⟩ =
        .ok (items, ⟨m, b ++ (userText ++ rest)⟩) ∧
      List.Forall₂ (fun x a => x.detach = a) (items.map (·.1)) as := by
  have hitems' : List.Forall₂ (fun t a => Attribute.Spells t a ∧
      (a.name = "user" → a.isFlag = true)) ts as := by
    induction hitems generalizing body with
    | nil => exact .nil
    | cons h _ ih =>
      rw [List.forall_mem_cons] at hnames
      cases hbody with
      | cons _ hbody => exact .cons ⟨h, hnames.1⟩ (ih hbody hnames.2)
  have hlength := hbody.length_le (forall_of_forall₂ (P := fun t => 0 < t.length)
    (fun t a h => (Attribute.Spells.opensWithout h (κ := .comma) (by decide)).length_pos) hitems)
  refine Layout.readStatements_strung (F := fun _ => True)
    (fun t a h => readAttribute_accepts h.1) (fun t a h n trivia rest htrivia => ⟨?_, trivial⟩)
    (fun n => ?_) trivial hbody hitems' _ (by rw [List.length_append]; omega) none n
  · rw [h.1.seesKey htrivia, Bool.and_eq_false_iff, Bool.not_eq_false', beq_eq_false_iff_ne]
    by_cases hname : a.name = "user"
    · exact .inr (h.2 hname)
    · exact .inl hname
  · rw [huser.seesKey hb, hrole]
    decide

/-- The rules of a service are read up to its closing brace. -/
theorem readRules {ts : List (List Char)} {body c : List Char} {rs : List Rule}
    (hbody : Strung ts body) (hitems : List.Forall₂ Rule.Spells ts rs) (hc : IsTrivia c)
    (previous : Option Nat) (n : Nat) (rest : List Char) :
    ∃ items m, Layout.readStatements (·.sees .closeBrace) Rule.read
        ((body ++ (c ++ '\x7d' :: rest)).length + 1) previous
        ⟨n, body ++ (c ++ '\x7d' :: rest)⟩ =
        .ok (items, ⟨m, c ++ '\x7d' :: rest⟩) ∧
      List.Forall₂ (fun x r => x.detach = r) (items.map (·.1)) rs := by
  have hclose : kindAhead? (c ++ '\x7d' :: rest) = some .closeBrace :=
    kindAhead?_append_sign hc rfl rest
  have hlength := hbody.length_le (forall_of_forall₂ (P := fun t => 0 < t.length)
    (fun t r h => (Rule.Spells.opensWithout h (κ := .comma) (by decide)).length_pos) hitems)
  refine Layout.readStatements_strung (F := Rule.Ends) (fun t r h => Rule.read_accepts h)
    (fun t r h n trivia rest htrivia => ⟨?_, h.ends htrivia rest⟩)
    (fun n => Cursor.sees_iff.2 hclose)
    (fun n => Cursor.seesWord_eq_false (by rw [hclose]; decide) _) hbody hitems _
    (by rw [List.length_append]; omega) previous n
  exact (h.opensWithout (by decide)).sees_eq_false htrivia n rest

/-- The text of the body of a service is read. -/
theorem read_accepts {t : List Char} {s : Service} (h : Spells t s) :
    Accepts read t (fun _ => True) (fun p => p.1.detach = s) := by
  intro n lead rest hlead _
  cases h with
  | @mk a header attributeText b userText ruleText c description attributeTexts ruleTexts
      attributes user rules ha hheader hfollows hdescribable hattributeText hattributes hnames hb
      huser hrole hruleText hrules hc =>
    obtain ⟨t, m, hopen⟩ := Cursor.expectAs_sign (n := n) (r := header ++ (attributeText ++
      (b ++ (userText ++ (ruleText ++ (c ++ '\x7d' :: rest)))))) (hlead.append ha)
      (κ := .openBrace) rfl Token.Kind.openBrace.describe
    have hrest : FollowsDescription description (attributeText ++ (b ++ (userText ++ (ruleText ++
        (c ++ '\x7d' :: rest))))) := by
      cases description with
      | none =>
        refine followsDescription_strung hattributeText hattributes hdescribable fun _ n => ?_
        rw [huser.seesKey hb, hrole]
        decide
      | some description =>
        have heq : attributeText ++ (b ++ (userText ++ (ruleText ++ (c ++ '\x7d' :: rest)))) =
            attributeText ++ (b ++ (userText ++ (ruleText ++ (c ++ ['\x7d'])))) ++ rest := by simp
        rw [FollowsDescription, heq, List.head?_append, hfollows rfl]
        rfl
    obtain ⟨m₁, hdescription⟩ := readDescription_accepts hheader hrest m
    obtain ⟨items, m₂, hitems, hall⟩ := readAttributes hattributeText hattributes hnames hb huser
      hrole m₁ (ruleText ++ (c ++ '\x7d' :: rest))
    obtain ⟨user', m₃, huser', huserEq⟩ := Union.read_accepts huser m₂ b
      (ruleText ++ (c ++ '\x7d' :: rest)) hb trivial
    rw [hrole] at huser'
    let start := (⟨m₂, b ++ (userText ++ (ruleText ++ (c ++ '\x7d' :: rest)))⟩ : Cursor).start
    let c₃ : Cursor := ⟨m₃, ruleText ++ (c ++ '\x7d' :: rest)⟩
    let userLayout := Layout.placed (Layout.lastFinish none items) start m₃ c₃.tail?
    obtain ⟨items', m₄, hitems', hall'⟩ := readRules hruleText hrules hc (some userLayout.finish)
      m₃ rest
    obtain ⟨t', m₅, hclose⟩ := Cursor.expectAs_sign (n := m₄) (r := rest) hc
      (κ := .closeBrace) rfl Token.Kind.closeBrace.describe
    let service : Service :=
      { description
        attributes := items.map fun p => { p.1 with layout := p.2 }
        user := { user' with layout := userLayout }
        rules := items'.map fun p => { p.1 with layout := p.2 } }
    let layouts := items.map (·.2) ++ userLayout :: items'.map (·.2)
    let stop := (⟨m₄, c ++ '\x7d' :: rest⟩ : Cursor).start
    refine ⟨(service, Frame.ofLayouts m₁ stop false layouts), m₅, ?_, ?_⟩
    · simp only [List.append_assoc, List.cons_append, List.nil_append] at hopen ⊢
      refine Except.bind_eq_ok.2 ⟨_, hopen, Except.bind_eq_ok.2 ⟨_, hdescription, ?_⟩⟩
      refine Except.bind_eq_ok.2 ⟨_, hitems, Except.bind_eq_ok.2 ⟨_, huser', ?_⟩⟩
      exact Except.bind_eq_ok.2 ⟨_, hitems', Except.bind_eq_ok.2 ⟨_, hclose, rfl⟩⟩
    · have hattributes' : detachAttributes service.attributes = attributes := by
        rw [detachAttributes_eq_map, ← map_eq_of_forall₂ hall, List.map_map, List.map_map]
        exact List.map_congr_left fun p _ => p.1.detach_withLayout p.2
      have hrules' : service.rules.map Rule.detach = rules := by
        rw [← map_eq_of_forall₂ hall', List.map_map, List.map_map]
        rfl
      have huser' : service.user.detach = user := huserEq
      simp only [Service.detach, hattributes', hrules', huser']
      rfl

end Service

end PolicyEditor
