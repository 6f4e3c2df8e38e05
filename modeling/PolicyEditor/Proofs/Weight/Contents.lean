import PolicyEditor.Proofs.Grammar.ElementSoundness
import PolicyEditor.Proofs.Layout.Soundness
import PolicyEditor.Proofs.Weight.Scan

/-!
# The weight of a content

A content can be written in many ways, which differ in blanks, comments and final commas only.  So
all texts of a content have the same weight, which is computed from the content alone.

## Main definitions

* `Weight.ofElement`, `Weight.ofAttribute`, `Weight.ofUnion`, `Weight.ofRule` : the weight of a
  node.
* `Weight.ofPieces`, `Weight.ofItems` : the weight of the items of a body, and of a body from its
  first item on.
* `Body.isReadable` : a content that some text can have.

## Main results

* `Element.SpellsItem.weighs`, `Attribute.Spells.closes`, `Union.Spells.closes`,
  `Rule.Spells.closes` : every text of a node has its weight.
* `Definition.Spells.opened` : a text of a definition is a header and items of their weight.
-/

namespace PolicyEditor

open Text

namespace Weight

variable (m : Weight)

/-! ### Elements -/

/-- The weight of a selector in brackets. -/
def ofSelector (selector : String) : Nat :=
  m.sign '[' + (m.text .between selector.toList + m.sign ']')

/-- The weight of the part `managed &` of an automatic group. -/
def ofManaged (managed : Bool) : Nat :=
  if managed then m.text .between "managed".toList + m.sign '&' else 0

/-- The weight of the part `ip = address &` of an automatic group. -/
def ofIp : Option String → Nat
  | none => 0
  | some ip =>
    m.text .between "ip".toList + (m.sign '=' + (m.text .between ip.toList + m.sign '&'))

/-- The weight behind the brackets of an automatic group. -/
def ofAutoSelector : Option String → Nat
  | none => 0
  | some selector => m.text .between ['.'] + m.ofSelector selector

mutual

/-- The weight of an element. -/
def ofElement : Element → Nat
  | .user => m.text .between "user".toList
  | .named type name => m.text .between (type.toList ++ ':' :: name.toList)
  | .auto type managed ip elements selector =>
    m.text .between (type.toList ++ [':']) + (m.sign '[' + (m.ofManaged managed + (m.ofIp ip +
      (ofElements elements + (m.sign ']' + m.ofAutoSelector selector)))))
  | .intersection parts => ofTerms parts
  | .complement inner => m.sign '!' + ofElement inner

/-- The weight of the entries of an element list. -/
def ofElements : List Element → Nat
  | [] => 0
  | e :: es => ofElement e + ofElements es

/-- The weight of the terms of an intersection. -/
def ofTerms : List Element → Nat
  | [] => 0
  | e :: es => ofElement e + ofConjuncts es

/-- The weight of the terms of an intersection behind the first one. -/
def ofConjuncts : List Element → Nat
  | [] => 0
  | e :: es => m.sign '&' + (ofElement e + ofConjuncts es)

end

theorem ofElements_eq_sum (es : List Element) : m.ofElements es = (es.map m.ofElement).sum := by
  induction es with
  | nil => rfl
  | cons e es ih => rw [ofElements, ih, List.map_cons, List.sum_cons]

/-! ### Attributes -/

/-- The weight of a value. -/
def ofValue (v : String) : Nat :=
  m.text .between v.toList

/-- The weight of the members of a list. -/
def ofMembers (elements : List Member) : Nat :=
  (elements.map fun e => m.ofElement e.content).sum

/-- The weight of the entries of a value list. -/
def ofValues (values : List Value) : Nat :=
  (values.map fun v => m.ofValue v.content).sum

mutual

/-- The weight of an attribute. -/
def ofAttribute : Attribute → Nat
  | ⟨name, value, _, _⟩ => m.text .between name.toList + ofAttributeValue value

/-- The weight of an attribute behind its name. -/
def ofAttributeValue : AttributeValue → Nat
  | .flag => m.sign ';'
  | .values values => m.sign '=' + (m.ofValues values + m.sign ';')
  | .block attributes => m.sign '=' + (m.sign '\x7b' + (ofAttributes attributes + m.sign '\x7d'))

/-- The weight of the attributes of a block. -/
def ofAttributes : List Attribute → Nat
  | [] => 0
  | a :: as => ofAttribute a + ofAttributes as

end

theorem ofAttributes_eq_sum (as : List Attribute) :
    m.ofAttributes as = (as.map m.ofAttribute).sum := by
  induction as with
  | nil => rfl
  | cons a as ih => rw [ofAttributes, ih, List.map_cons, List.sum_cons]

/-! ### Unions, rules and bodies -/

/-- The weight of a union. -/
def ofUnion (u : Union) : Nat :=
  m.text .between u.role.keyword.toList + (m.sign '=' +
    ((if u.foreach then m.text .between "foreach".toList else 0) +
      (m.ofMembers u.elements + m.sign ';')))

/-- The weight of a rule. -/
def ofRule (r : Rule) : Nat :=
  m.text .between r.action.keyword.toList + (m.ofUnion r.src + (m.ofUnion r.dst +
    (m.ofAttribute r.prt + (r.log.toList.map m.ofAttribute).sum)))

/-- The weight of the items of a body. -/
def ofPieces : Body → Nat
  | .struct b | .network b => m.ofAttributes b.attributes
  | .group g => m.ofMembers g.elements
  | .protocol values => m.ofValues values
  | .service s => m.ofAttributes s.attributes + (m.ofUnion s.user + (s.rules.map m.ofRule).sum)

/-- The weight of a body from its first item on. -/
def ofItems (b : Body) : Nat :=
  m.ofPieces b + m.text .between b.sign

/-! ### Layouts weigh nothing -/

theorem ofMembers_detach (es : List Member) :
    m.ofMembers (es.map Item.detach) = m.ofMembers es := by
  rw [ofMembers, List.map_map]
  rfl

theorem ofValues_detach (vs : List Value) : m.ofValues (vs.map Item.detach) = m.ofValues vs := by
  rw [ofValues, List.map_map]
  rfl

mutual

theorem ofAttribute_detach : (a : Attribute) → m.ofAttribute a.detach = m.ofAttribute a
  | ⟨_, value, _, _⟩ => congrArg (_ + ·) (ofAttributeValue_detach value)

theorem ofAttributeValue_detach : (v : AttributeValue) →
    m.ofAttributeValue v.detach = m.ofAttributeValue v
  | .flag => rfl
  | .values values => by
    rw [AttributeValue.detach, ofAttributeValue, ofAttributeValue, ofValues_detach]
  | .block attributes => by
    rw [AttributeValue.detach, ofAttributeValue, ofAttributeValue, ofAttributes_detach]

theorem ofAttributes_detach : (as : List Attribute) →
    m.ofAttributes (detachAttributes as) = m.ofAttributes as
  | [] => rfl
  | a :: as => congrArg₂ (· + ·) (ofAttribute_detach a) (ofAttributes_detach as)

end

theorem ofUnion_detach (u : Union) : m.ofUnion u.detach = m.ofUnion u := by
  rw [ofUnion, ofUnion, Union.detach, ofMembers_detach]

theorem ofRule_detach (r : Rule) : m.ofRule r.detach = m.ofRule r := by
  have hlog : ((r.log.map Attribute.detach).toList.map m.ofAttribute).sum =
      (r.log.toList.map m.ofAttribute).sum := by
    cases r.log <;> simp [ofAttribute_detach]
  rw [ofRule, Rule.detach, ofUnion_detach, ofUnion_detach, ofAttribute_detach, hlog, ofRule]

theorem ofItems_detach (b : Body) : m.ofItems b.detach = m.ofItems b := by
  have hrules (rs : List Rule) :
      ((rs.map Rule.detach).map m.ofRule).sum = (rs.map m.ofRule).sum := by
    rw [List.map_map, show m.ofRule ∘ Rule.detach = m.ofRule from funext m.ofRule_detach]
  have hsign : b.detach.sign = b.sign := by cases b <;> rfl
  have hpieces : m.ofPieces b.detach = m.ofPieces b := by
    cases b <;>
      simp only [Body.detach, ofPieces, Block.detach, Group.detach, Service.detach,
        ofAttributes_detach, ofMembers_detach, ofValues_detach, ofUnion_detach, hrules]
  rw [ofItems, ofItems, hpieces, hsign]

end Weight

/-! ### Texts of elements -/

namespace Element

variable (m : Weight) {t : List Char}

theorem SpellsSelector.closes {selector : String} (h : SpellsSelector t selector) :
    m.Closes t (m.ofSelector selector) := by
  cases h with
  | mk hw h h' =>
    have := (Weight.Weighs.word (m := m) hw).close_sign h' (κ := .closeBracket) rfl .nil
    simpa [Weight.ofSelector] using
      Weight.Closes.sign_append (κ := .openBracket) rfl (.trivia_append h this)

theorem SpellsManaged.closes {managed : Bool} (h : SpellsManaged t managed) :
    m.Closes t (m.ofManaged managed) := by
  cases h with
  | absent => exact .nil
  | present h h' =>
    have hw : IsWord "managed".toList := by decide
    have := (Weight.Weighs.word (m := m) hw).close_sign h' (κ := .ampersand) rfl .nil
    simpa [Weight.ofManaged] using Weight.Closes.trivia_append h this

theorem SpellsIp.closes {ip : Option String} (h : SpellsIp t ip) : m.Closes t (m.ofIp ip) := by
  cases h with
  | absent => exact .nil
  | present hw ha hb hc hd =>
    have hip : IsWord "ip".toList := by decide
    have haddress := (Weight.Weighs.word (m := m) hw).close_sign hd (κ := .ampersand) rfl .nil
    have := (Weight.Weighs.word (m := m) hip).close_sign hb (κ := .equals) rfl
      (.trivia_append hc haddress)
    simpa [Weight.ofIp] using Weight.Closes.trivia_append ha this

theorem SpellsAutoSelector.closes {selector : Option String} (h : SpellsAutoSelector t selector) :
    m.Closes t (m.ofAutoSelector selector) := by
  cases h with
  | absent => exact .nil
  | present h =>
    have hw : IsWord ['.'] := by decide
    have := h.closes m
    cases h with
    | mk => exact (Weight.Weighs.word (m := m) hw).close this (.cons (by decide) _) (by simp)

mutual

theorem Spells.weighs {t : List Char} {e : Element} (h : Spells t e) :
    m.Weighs t (m.ofElement e) := by
  match h with
  | .user => exact .word (by decide)
  | .named hw hsplit _ =>
    rw [Weight.ofElement, ← toList_of_splitTyped? hsplit]
    exact .word hw
  | @Spells.selected w text type name selector hw hsplit _ hselector =>
    have hcanonical : type.toList ++ ':' :: (name ++ "[" ++ selector ++ "]").toList =
        w ++ ('[' :: (selector.toList ++ [']'])) := by
      rw [toList_of_splitTyped? hsplit]
      simp
    have hclosed := (Weight.Weighs.word (m := m) hw).close (hselector.closes m)
      (by simpa using hselector.stopsWord []) (by cases hselector; simp)
    have hword : IsWord selector.toList := by
      cases hselector with
      | mk hw => simpa using hw
    have hcanonicalClosed := (Weight.Weighs.word (m := m) hw).close_sign .nil
      (κ := .openBracket) rfl
      ((Weight.Weighs.word (m := m) hword).close_sign .nil (κ := .closeBracket) rfl .nil)
    rw [Weight.ofElement, hcanonical]
    exact hcanonicalClosed.text ▸ hclosed.weighs
  | @Spells.auto w _ _ _ _ type managed ip selector _ es hw hsplit hmanaged hip hbody hitems
      hselector =>
    have hname : w = type.toList ++ [':'] := toList_of_splitTyped? hsplit
    have hbody := Weight.closes_separated hbody hitems.weighs (κ := .closeBracket) rfl
      (hselector.closes m)
    have := (Weight.Weighs.word (m := m) hw).close_sign .nil (κ := .openBracket) rfl
      ((hmanaged.closes m).append ((hip.closes m).append hbody))
    rw [Weight.ofElement, Weight.ofElements_eq_sum, ← hname]
    exact this.weighs

theorem SpellsTerm.weighs {t : List Char} {e : Element} (h : SpellsTerm t e) :
    m.Weighs t (m.ofElement e) := by
  match h with
  | .plain h => exact h.weighs
  | .complement htrivia h =>
    exact (Weight.Closes.sign (κ := .bang) rfl).append_weighs (.trivia_append htrivia h.weighs)

theorem SpellsConjuncts.weighs {t : List Char} {es : List Element} (h : SpellsConjuncts t es) :
    m.Weighs t (m.ofConjuncts es) := by
  match h with
  | .nil => exact Weight.Closes.nil.weighs
  | .cons htrivia htrivia' h hrest =>
    have hterms := h.weighs.append hrest.weighs (by simpa using hrest.stopsWord .nil)
    exact .trivia_append htrivia
      ((Weight.Closes.sign (κ := .ampersand) rfl).append_weighs (.trivia_append htrivia' hterms))

theorem SpellsItem.weighs {t : List Char} {e : Element} (h : SpellsItem t e) :
    m.Weighs t (m.ofElement e) := by
  match h with
  | .term h => exact h.weighs
  | .intersection h hrest =>
    exact h.weighs.append hrest.weighs (by simpa using hrest.stopsWord .nil)

theorem SpellsItems.weighs {ts : List (List Char)} {es : List Element} (h : SpellsItems ts es) :
    List.Forall₂ (fun t e => m.Weighs t (m.ofElement e)) ts es := by
  match h with
  | .nil => exact .nil
  | .cons h hrest => exact .cons h.weighs hrest.weighs

end

end Element

/-! ### Texts of values and attributes -/

/-- A run of tokens does not end in a comment. -/
theorem Value.Run.closed {depth : Nat} {t : List Char} (h : Run depth t) :
    Scan.between.after t ≠ .comment := by
  induction h with
  | nil => decide
  | @token _ _ trivia lexeme rest kind htrivia hlexeme _ _ ih =>
    have hclosed : Scan.between.after lexeme ≠ .comment := by
      cases hlexeme with
      | word hw => exact (Weight.Weighs.word (m := ⟨0, fun _ => 0⟩) hw).closed
      | sign _ hs =>
        rw [(Weight.Closes.sign (m := ⟨0, fun _ => 0⟩) hs).after]
        decide
    rw [Scan.after_append, Scan.after_trivia htrivia, Scan.after_append]
    cases rest with
    | nil => exact hclosed
    | cons c rest =>
      rw [Scan.after_eq_between hclosed (List.cons_ne_nil _ _)]
      exact ih

section Texts

variable (m : Weight) {t : List Char}

theorem Value.Spells.weighs {v : String} (h : Spells t v) : m.Weighs t (m.ofValue v) := by
  refine ⟨?_, h.run.closed⟩
  rw [Weight.ofValue, h.eq, String.toList_ofList]

/-- The entries of a value list with its closing token. -/
theorem Value.closes_list {ts : List (List Char)} {vs : List String} {body : List Char}
    (hbody : Separated ts body) (hvalues : List.Forall₂ Spells ts vs) :
    m.Closes (body ++ [';'])
      (m.ofValues (vs.map fun v => { content := v }) + m.sign ';') := by
  have := Weight.closes_separated hbody (hvalues.imp fun _ _ h => h.weighs m)
    (κ := .semicolon) rfl .nil
  simpa [Weight.ofValues, Function.comp_def] using this

/-- The entries of an element list with its closing token. -/
theorem Element.closes_list {ts : List (List Char)} {es : List Element} {body : List Char}
    (hbody : Separated ts body) (hitems : SpellsItems ts es) :
    m.Closes (body ++ [';'])
      (m.ofMembers (es.map fun e => { content := e }) + m.sign ';') := by
  have := Weight.closes_separated hbody (hitems.weighs m) (κ := .semicolon) rfl .nil
  simpa [Weight.ofMembers, Function.comp_def] using this

mutual

theorem Attribute.Spells.closes {t : List Char} {a : Attribute} (h : Spells t a) :
    m.Closes t (m.ofAttribute a) := by
  match h with
  | .flag hw htrivia =>
    have := (Weight.Weighs.word (m := m) hw).close_sign htrivia (κ := .semicolon) rfl .nil
    simpa [Weight.ofAttribute, Weight.ofAttributeValue] using this
  | .values hw htrivia hbody hvalues =>
    have := (Weight.Weighs.word (m := m) hw).close_sign htrivia (κ := .equals) rfl
      (Value.closes_list m hbody hvalues)
    simpa [Weight.ofAttribute, Weight.ofAttributeValue] using this
  | .block hw ha hb hbody hitems hc =>
    have hblock := (Weight.closes_strung hbody hitems.closes).append (.trivia_append hc
      (.sign (κ := .closeBrace) rfl))
    have := (Weight.Weighs.word (m := m) hw).close_sign ha (κ := .equals) rfl
      (.trivia_append hb (.sign_append (κ := .openBrace) rfl hblock))
    simpa [Weight.ofAttribute, Weight.ofAttributeValue, Weight.ofAttributes_eq_sum] using this

theorem Attribute.SpellsAll.closes {ts : List (List Char)} {as : List Attribute}
    (h : SpellsAll ts as) : List.Forall₂ (fun t a => m.Closes t (m.ofAttribute a)) ts as := by
  match h with
  | .nil => exact .nil
  | .cons h hrest => exact .cons h.closes hrest.closes

end

/-! ### Texts of unions and rules -/

theorem Union.Spells.closes {u : Union} (h : Spells t u) : m.Closes t (m.ofUnion u) := by
  cases h with
  | @plain role _ _ _ _ ha hbody hitems =>
    have := (Weight.Weighs.word (m := m) (isWord_keyword role)).close_sign ha (κ := .equals) rfl
      (Element.closes_list m hbody hitems)
    simpa [Weight.ofUnion] using this
  | foreach ha hb hbody hitems _ hstop =>
    have hw : IsWord "foreach".toList := by decide
    have hforeach := (Weight.Weighs.word (m := m) hw).close (Element.closes_list m hbody hitems)
      (hstop.append fun _ => .cons (by decide) _) (by simp)
    exact (Weight.Weighs.word (m := m) (isWord_keyword .user)).close_sign ha (κ := .equals) rfl
      (.trivia_append hb hforeach)

theorem Rule.SpellsLog.closes {log : Option Attribute} (h : SpellsLog t log) :
    m.Closes t (log.toList.map m.ofAttribute).sum := by
  cases h with
  | absent => exact .nil
  | present htrivia h _ => simpa using Weight.Closes.trivia_append htrivia (h.closes m)

theorem Rule.Spells.closes {r : Rule} (h : Spells t r) : m.Closes t (m.ofRule r) := by
  cases h with
  | @mk action _ _ _ _ _ _ _ _ _ _ _ ha hne hb hc hsrc _ hdst _ hprt _ hlog =>
    have hparts := (hsrc.closes m).append (.trivia_append hb ((hdst.closes m).append
      (.trivia_append hc ((hprt.closes m).append (hlog.closes m)))))
    exact (Weight.Weighs.word (m := m) (isWord_keyword action)).close (.trivia_append ha hparts)
      (ha.stopsWord hne _) (by simp [hne])

end Texts

/-! ### Texts of definitions -/

namespace Body

/-- Some text can have this content: no attribute in front looks like a description, and the keyword
`foreach` has an entry. -/
def isReadable : Body → Bool
  | struct b | network b => Describable b.description b.attributes
  | group _ | protocol _ => true
  | service s => Describable s.description s.attributes && s.user.isFilled

/-- A text of a body: what stands in front of the items, and the items with their weight. -/
structure Opened (b : Body) (t : List Char) (opening items : List Char) : Prop where
  eq : t = opening ++ items
  opening : b.Opening opening
  line : b.description.isSome → items.head? = some '\n'
  closes : ∀ m : Weight, m.Closes items (m.ofItems b)

theorem Spells.opened {type : String} {t : List Char} {b : Body} (h : Spells type t b) :
    b.isReadable = true ∧ ∃ opening items, b.Opened t opening items := by
  have hclose {m : Weight} {c : List Char} (hc : IsTrivia c) :
      m.Closes (c ++ ['\x7d']) (m.sign '\x7d') :=
    .trivia_append hc (.sign (κ := .closeBrace) rfl)
  have hblock {t : List Char} {b : Block} (h : Block.Spells t b) :
      Describable b.description b.attributes = true ∧ ∃ a header items,
        t = a ++ '\x7b' :: (header ++ items) ∧ IsTrivia a ∧
        SpellsDescription b.description header ∧ (b.description.isSome → items.head? = some '\n') ∧
        ∀ m : Weight, m.Closes items (m.ofAttributes b.attributes + m.text .between ['\x7d']) := by
    cases h with
    | mk ha hheader hfollows hdescribable hbody hitems hc =>
      refine ⟨hdescribable, _, _, _, rfl, ha, hheader, hfollows, fun m => ?_⟩
      rw [Weight.ofAttributes_eq_sum]
      exact (Weight.closes_strung hbody (hitems.imp fun _ _ h => h.closes m)).append (hclose hc)
  cases h with
  | struct _ h =>
    obtain ⟨hreadable, a, header, items, rfl, ha, hheader, hline, hitems⟩ := hblock h
    exact ⟨hreadable, a ++ '\x7b' :: header, items, by simp, ⟨header, hheader, a, ha, rfl⟩, hline,
      hitems⟩
  | network _ h =>
    obtain ⟨hreadable, a, header, items, rfl, ha, hheader, hline, hitems⟩ := hblock h
    exact ⟨hreadable, a ++ '\x7b' :: header, items, by simp, ⟨header, hheader, a, ha, rfl⟩, hline,
      hitems⟩
  | group _ h =>
    cases h with
    | mk hheader hfollows hbody hitems =>
      exact ⟨rfl, _, _, rfl, ⟨_, hheader, rfl⟩, hfollows,
        fun m => Element.closes_list m hbody hitems⟩
  | protocol _ hbody hvalues =>
    exact ⟨rfl, [], _, rfl, ⟨[], .absent, rfl⟩, (fun h => by cases h),
      fun m => Value.closes_list m hbody hvalues⟩
  | service _ h =>
    cases h with
    | @mk a header _ b _ _ c _ _ _ _ user _ ha hheader hfollows hdescribable hattributeText
        hattributes _ hb huser _ hruleText hrules hc =>
      refine ⟨?_, a ++ '\x7b' :: header, _, by simp, ⟨header, hheader, a, ha, rfl⟩, hfollows,
        fun m => ?_⟩
      · rw [isReadable, hdescribable, Bool.true_and]
        cases huser with
        | plain => rfl
        | foreach _ _ _ hitems hne =>
          cases hitems with
          | nil => exact absurd rfl hne
          | cons => rfl
      · have hrules := (Weight.closes_strung hruleText (hrules.imp fun _ _ h => h.closes m)).append
          (hclose hc)
        have hattributes := Weight.closes_strung hattributeText
          (hattributes.imp fun _ _ h => h.closes m)
        have hitems := hattributes.append (.trivia_append hb ((huser.closes m).append hrules))
        rw [Weight.ofItems, Weight.ofPieces, Weight.ofAttributes_eq_sum, Nat.add_assoc,
          Nat.add_assoc]
        exact hitems

end Body

end PolicyEditor
