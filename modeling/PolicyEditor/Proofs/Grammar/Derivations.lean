import PolicyEditor.Proofs.Grammar.ElementSoundness
import PolicyEditor.Proofs.Grammar.Tokens
import PolicyEditor.Source

/-!
# The grammar of element lists

An element list is given by a grammar over the tokens of a text without blanks and comments:

* a union is empty, or consists of intersections with commas between them and possibly one behind
  the last of them;
* an intersection consists of terms with `&` between them;
* a term is an element, possibly behind `!`;
* an element is the word `user`, a word `type:name`, a word `type:name.` with a selector directly
  behind it, or a word `type:` with an automatic group directly behind it;
* a selector is a word in brackets;
* an automatic group has in its brackets the words `managed &` and `ip = word &`, both of which may
  be missing, and a union.  Directly behind its brackets may come the word `.` with a selector
  directly behind it.

A token stands directly behind another one if it has the offset at which the other one stops.  Apart
from that blanks and comments do not matter.  A list of elements is read from a text exactly when
the tokens of the text derive it.

## Main definitions

* `Element.Derives`, `Element.DerivesTerm`, `Element.DerivesItem`, `Element.DerivesUnion` : the
  tokens of an element, a term, an intersection and a union.

## Main results

* `Element.Spells.derives` : the tokens of a text of an element derive it.
* `Element.Derives.spells` : tokens that derive an element have a text of it.
* `parseUnion_eq_ok` : the elements that are read from a text are those that its tokens derive.
-/

namespace PolicyEditor

open Text

namespace Element

/-! ### The grammar -/

/-- The tokens of a selector `[word]` directly behind the token `last`. -/
inductive DerivesSelector (last : Token) : List Token → String → Prop
  | mk {opening word closing : Token} (hopening : opening.kind = .openBracket)
    (hdirect : opening.offset = last.stop) (hword : word.kind = .word)
    (hclosing : closing.kind = .closeBracket) :
    DerivesSelector last [opening, word, closing] word.text

/-- The tokens of the part `managed &` of an automatic group. -/
inductive DerivesManaged : List Token → Bool → Prop
  | absent : DerivesManaged [] false
  | present {key sign : Token} (hkey : key.kind = .word) (htext : key.text = "managed")
    (hsign : sign.kind = .ampersand) : DerivesManaged [key, sign] true

/-- The tokens of the part `ip = word &` of an automatic group. -/
inductive DerivesIp : List Token → Option String → Prop
  | absent : DerivesIp [] none
  | present {key equals word sign : Token} (hkey : key.kind = .word) (htext : key.text = "ip")
    (hequals : equals.kind = .equals) (hword : word.kind = .word)
    (hsign : sign.kind = .ampersand) : DerivesIp [key, equals, word, sign] (some word.text)

/-- The tokens of the selector `.[word]` directly behind the bracket `last` that closes an automatic
group. -/
inductive DerivesAutoSelector (last : Token) : List Token → Option String → Prop
  | absent : DerivesAutoSelector last [] none
  | present {dot : Token} {ts : List Token} {selector : String} (hdot : dot.kind = .word)
    (htext : dot.text = ".") (hdirect : dot.offset = last.stop)
    (h : DerivesSelector dot ts selector) : DerivesAutoSelector last (dot :: ts) (some selector)

mutual

/-- The tokens of a single element. -/
inductive Derives : List Token → Element → Prop
  | user {word : Token} (hword : word.kind = .word) (htext : word.text = "user") :
    Derives [word] user
  | named {word : Token} {type name : String} (hword : word.kind = .word)
    (htext : word.text = type ++ ":" ++ name) (htype : ':' ∉ type.toList) (hname : name ≠ "") :
    Derives [word] (named type name)
  | selected {word : Token} {ts : List Token} {type name selector : String}
    (hword : word.kind = .word) (htext : word.text = type ++ ":" ++ name)
    (htype : ':' ∉ type.toList) (hname : name.toList.getLast? = some '.')
    (hselector : DerivesSelector word ts selector) :
    Derives (word :: ts) (named type (name ++ "[" ++ selector ++ "]"))
  | auto {word opening closing : Token} {managedTokens ipTokens ts selectorTokens : List Token}
    {type : String} {managed : Bool} {ip selector : Option String} {es : List Element}
    (hword : word.kind = .word) (htext : word.text = type ++ ":") (htype : ':' ∉ type.toList)
    (hopening : opening.kind = .openBracket) (hdirect : opening.offset = word.stop)
    (hmanaged : DerivesManaged managedTokens managed) (hip : DerivesIp ipTokens ip)
    (hunion : DerivesUnion ts es) (hclosing : closing.kind = .closeBracket)
    (hselector : DerivesAutoSelector closing selectorTokens selector) :
    Derives (word :: opening :: (managedTokens ++ (ipTokens ++ (ts ++ closing :: selectorTokens))))
      (auto type managed ip es selector)

/-- The tokens of a term, which is an element or a complement. -/
inductive DerivesTerm : List Token → Element → Prop
  | plain {ts : List Token} {e : Element} (h : Derives ts e) : DerivesTerm ts e
  | complement {sign : Token} {ts : List Token} {e : Element} (hsign : sign.kind = .bang)
    (h : Derives ts e) : DerivesTerm (sign :: ts) (complement e)

/-- The tokens of the terms of an intersection behind the first one. -/
inductive DerivesConjuncts : List Token → List Element → Prop
  | nil : DerivesConjuncts [] []
  | cons {sign : Token} {ts us : List Token} {e : Element} {es : List Element}
    (hsign : sign.kind = .ampersand) (h : DerivesTerm ts e) (hrest : DerivesConjuncts us es) :
    DerivesConjuncts (sign :: (ts ++ us)) (e :: es)

/-- The tokens of an intersection, or of a single term. -/
inductive DerivesItem : List Token → Element → Prop
  | term {ts : List Token} {e : Element} (h : DerivesTerm ts e) : DerivesItem ts e
  | intersection {ts us : List Token} {e d : Element} {es : List Element} (h : DerivesTerm ts e)
    (hrest : DerivesConjuncts us (d :: es)) :
    DerivesItem (ts ++ us) (intersection (e :: d :: es))

/-- The tokens of a union. -/
inductive DerivesUnion : List Token → List Element → Prop
  | nil : DerivesUnion [] []
  | last {ts : List Token} {e : Element} (h : DerivesItem ts e) : DerivesUnion ts [e]
  | cons {ts us : List Token} {comma : Token} {e : Element} {es : List Element}
    (h : DerivesItem ts e) (hcomma : comma.kind = .comma) (hrest : DerivesUnion us es) :
    DerivesUnion (ts ++ comma :: us) (e :: es)

end

/-! ### The tokens of texts of elements -/

/-- Wherever the text is read in front of something that ends a word, its tokens derive `a`. -/
def Yields {α : Type} (D : List Token → α → Prop) (text : List Char) (a : α) : Prop :=
  ∀ c c' : Cursor, c.Reads text c' → StopsWord c'.rest → ∃ ts, c.tokens = ts ++ c'.tokens ∧ D ts a

section Tokens

variable {c c' : Cursor} {text : List Char}

theorem SpellsSelector.derives {selector : String} (h : SpellsSelector text selector)
    (hreads : c.Reads text c') {last : Token} (hlast : c.offset = last.stop) :
    ∃ ts, c.tokens = ts ++ c'.tokens ∧ DerivesSelector last ts selector := by
  cases h with
  | mk hw ha hb =>
    obtain ⟨opening, c₁, htokens, hopening, hoffset, -, hreads⟩ :=
      Cursor.tokens_sign (q := []) hreads .nil (κ := .openBracket) rfl
    obtain ⟨word, closing, c₂, htokens', hword, htext, hclosing, hreads⟩ :=
      Cursor.tokens_keyed (κ := .closeBracket) hreads ha hw hb rfl
    refine ⟨[opening, word, closing], ?_, htext ▸ .mk hopening (hoffset.trans hlast) hword hclosing⟩
    rw [htokens, htokens', Cursor.tokens_trivia hreads .nil]
    rfl

theorem SpellsManaged.derives {managed : Bool} (h : SpellsManaged text managed)
    (hreads : c.Reads text c') :
    ∃ ts, c.tokens = ts ++ c'.tokens ∧ DerivesManaged ts managed := by
  cases h with
  | absent => exact ⟨[], Cursor.tokens_trivia hreads .nil, .absent⟩
  | present ha hb =>
    obtain ⟨key, sign, c₁, htokens, hkey, htext, hsign, hreads⟩ :=
      Cursor.tokens_keyed (κ := .ampersand) hreads ha (by decide) hb rfl
    refine ⟨[key, sign], ?_, .present hkey (by rw [htext, String.ofList_toList]) hsign⟩
    rw [htokens, Cursor.tokens_trivia hreads .nil]
    rfl

theorem SpellsIp.derives {ip : Option String} (h : SpellsIp text ip) (hreads : c.Reads text c') :
    ∃ ts, c.tokens = ts ++ c'.tokens ∧ DerivesIp ts ip := by
  cases h with
  | absent => exact ⟨[], Cursor.tokens_trivia hreads .nil, .absent⟩
  | present hw ha hb hd he =>
    obtain ⟨key, equals, c₁, htokens, hkey, htext, hequals, hreads⟩ :=
      Cursor.tokens_keyed (κ := .equals) hreads ha (by decide) hb rfl
    obtain ⟨word, sign, c₂, htokens', hword, htext', hsign, hreads⟩ :=
      Cursor.tokens_keyed (κ := .ampersand) hreads hd hw he rfl
    refine ⟨[key, equals, word, sign], ?_,
      htext' ▸ .present hkey (by rw [htext, String.ofList_toList]) hequals hword hsign⟩
    rw [htokens, htokens', Cursor.tokens_trivia hreads .nil]
    rfl

theorem SpellsAutoSelector.derives {selector : Option String}
    (h : SpellsAutoSelector text selector) (hreads : c.Reads text c') {last : Token}
    (hlast : c.offset = last.stop) :
    ∃ ts, c.tokens = ts ++ c'.tokens ∧ DerivesAutoSelector last ts selector := by
  cases h with
  | absent => exact ⟨[], Cursor.tokens_trivia hreads .nil, .absent⟩
  | present h =>
    obtain ⟨dot, c₁, htokens, hdot, htext, hoffset, hstop, hreads⟩ :=
      Cursor.tokens_word (q := []) (w := ['.']) hreads .nil (by decide) (h.stopsWord _)
    obtain ⟨ts, htokens', hselector⟩ := h.derives hreads hstop
    exact ⟨dot :: ts, by rw [htokens, htokens', List.cons_append],
      .present hdot htext (hoffset.trans hlast) hselector⟩

/-- The tokens of a comma list derive a union if those of its entries derive intersections. -/
theorem yields_separated {texts : List (List Char)} {es : List Element}
    (h : Separated texts text) (hall : List.Forall₂ (Yields DerivesItem) texts es) :
    Yields DerivesUnion text es := by
  induction h generalizing es with
  | nil htrivia =>
    cases hall
    exact fun c c' hreads _ => ⟨[], Cursor.tokens_trivia hreads htrivia, .nil⟩
  | last htrivia htrivia' =>
    obtain _ | ⟨hitem, hall⟩ := hall
    cases hall
    intro c c' hreads hstop
    obtain ⟨c₁, hreads₁, hreads⟩ := hreads.of_append
    obtain ⟨c₂, hreads₂, hreads₃⟩ := hreads.of_append
    obtain ⟨ts, htokens, hderives⟩ := hitem c₁ c₂ hreads₂ (by
      rw [hreads₃.rest]
      exact htrivia'.stopsWord_append hstop)
    refine ⟨ts, ?_, .last hderives⟩
    rw [Cursor.tokens_trivia hreads₁ htrivia, htokens, Cursor.tokens_trivia hreads₃ htrivia']
  | cons htrivia htrivia' _ ih =>
    obtain _ | ⟨hitem, hall⟩ := hall
    intro c c' hreads hstop
    obtain ⟨c₁, hreads₁, hreads⟩ := hreads.of_append
    obtain ⟨c₂, hreads₂, hreads⟩ := hreads.of_append
    obtain ⟨ts, htokens, hderives⟩ := hitem c₁ c₂ hreads₂ (by
      rw [hreads.rest, List.append_assoc]
      exact htrivia'.stopsWord_sign (κ := .comma) rfl _)
    obtain ⟨comma, c₃, htokens', hcomma, -, -, hreads⟩ :=
      Cursor.tokens_sign hreads htrivia' (κ := .comma) rfl
    obtain ⟨us, htokens'', hunion⟩ := ih hall c₃ c' hreads hstop
    refine ⟨ts ++ comma :: us, ?_, .cons hderives hcomma hunion⟩
    rw [Cursor.tokens_trivia hreads₁ htrivia, htokens, htokens', htokens'']
    simp

end Tokens

mutual

/-- The tokens of a text of an element derive it. -/
theorem Spells.derives {t : List Char} {e : Element} (h : Spells t e) : Yields Derives t e := by
  intro c c' hreads hstop
  match h with
  | .user =>
    obtain ⟨word, htokens, hword, htext⟩ := Cursor.tokens_lastWord hreads (by decide) hstop
    exact ⟨[word], htokens, .user hword (by rw [htext, String.ofList_toList])⟩
  | .named hw hsplit hname =>
    obtain ⟨word, htokens, hword, htext⟩ := Cursor.tokens_lastWord hreads hw hstop
    obtain ⟨heq, htype⟩ := splitTyped?_eq_some.1 hsplit
    refine ⟨[word], htokens, .named hword (htext.trans heq) htype ?_⟩
    rintro rfl
    cases hname
  | .selected hw hsplit hname hselector =>
    obtain ⟨word, c₁, htokens, hword, htext, -, hoffset, hreads⟩ :=
      Cursor.tokens_word (q := []) hreads .nil hw (hselector.stopsWord _)
    obtain ⟨heq, htype⟩ := splitTyped?_eq_some.1 hsplit
    obtain ⟨ts, htokens', hselector⟩ := hselector.derives hreads hoffset
    exact ⟨word :: ts, by rw [htokens, htokens', List.cons_append],
      .selected hword (htext.trans heq) htype hname hselector⟩
  | .auto hw hsplit hmanaged hip hbody hitems hselector =>
    obtain ⟨word, c₁, htokens, hword, htext, -, hoffset, hreads⟩ :=
      Cursor.tokens_word (q := []) hreads .nil hw (.cons (by decide) _)
    obtain ⟨heq, htype⟩ := splitTyped?_eq_some.1 hsplit
    obtain ⟨opening, c₂, htokens₁, hopening, hdirect, -, hreads⟩ :=
      Cursor.tokens_sign (q := []) hreads .nil (κ := .openBracket) rfl
    obtain ⟨c₃, hreads₂, hreads⟩ := hreads.of_append
    obtain ⟨c₄, hreads₃, hreads⟩ := hreads.of_append
    obtain ⟨c₅, hreads₄, hreads⟩ := hreads.of_append
    obtain ⟨ms, htokens₂, hmanaged⟩ := hmanaged.derives hreads₂
    obtain ⟨is, htokens₃, hip⟩ := hip.derives hreads₃
    obtain ⟨ts, htokens₄, hunion⟩ := yields_separated hbody hitems.derives c₄ c₅ hreads₄ (by
      rw [hreads.rest]
      exact .cons (by decide) _)
    obtain ⟨closing, c₆, htokens₅, hclosing, -, hlast, hreads⟩ :=
      Cursor.tokens_sign (q := []) hreads .nil (κ := .closeBracket) rfl
    obtain ⟨ss, htokens₆, hselector⟩ := hselector.derives hreads hlast
    refine ⟨_, ?_, .auto hword (by rw [htext, heq, String.append_empty]) htype hopening
      (hdirect.trans hoffset) hmanaged hip hunion hclosing hselector⟩
    rw [htokens, htokens₁, htokens₂, htokens₃, htokens₄, htokens₅, htokens₆]
    simp

theorem SpellsTerm.derives {t : List Char} {e : Element} (h : SpellsTerm t e) :
    Yields DerivesTerm t e := by
  intro c c' hreads hstop
  match h with
  | .plain h =>
    obtain ⟨ts, htokens, hderives⟩ := h.derives c c' hreads hstop
    exact ⟨ts, htokens, .plain hderives⟩
  | .complement htrivia h =>
    obtain ⟨sign, c₁, htokens, hsign, -, -, hreads⟩ :=
      Cursor.tokens_sign (q := []) hreads .nil (κ := .bang) rfl
    obtain ⟨c₂, hreads₁, hreads⟩ := hreads.of_append
    obtain ⟨ts, htokens', hderives⟩ := h.derives c₂ c' hreads hstop
    exact ⟨sign :: ts, by rw [htokens, Cursor.tokens_trivia hreads₁ htrivia, htokens',
      List.cons_append], .complement hsign hderives⟩

theorem SpellsConjuncts.derives {t : List Char} {es : List Element} (h : SpellsConjuncts t es) :
    Yields DerivesConjuncts t es := by
  intro c c' hreads hstop
  match h with
  | .nil => exact ⟨[], Cursor.tokens_trivia hreads .nil, .nil⟩
  | .cons htrivia htrivia' h hrest =>
    obtain ⟨sign, c₁, htokens, hsign, -, -, hreads⟩ :=
      Cursor.tokens_sign hreads htrivia (κ := .ampersand) rfl
    obtain ⟨c₂, hreads₁, hreads⟩ := hreads.of_append
    obtain ⟨c₃, hreads₂, hreads₃⟩ := hreads.of_append
    obtain ⟨ts, htokens', hterm⟩ := h.derives c₂ c₃ hreads₂ (by
      rw [hreads₃.rest]
      exact hrest.stopsWord hstop)
    obtain ⟨us, htokens'', hconjuncts⟩ := hrest.derives c₃ c' hreads₃ hstop
    refine ⟨sign :: (ts ++ us), ?_, .cons hsign hterm hconjuncts⟩
    rw [htokens, Cursor.tokens_trivia hreads₁ htrivia', htokens', htokens'']
    simp

theorem SpellsItem.derives {t : List Char} {e : Element} (h : SpellsItem t e) :
    Yields DerivesItem t e := by
  intro c c' hreads hstop
  match h with
  | .term h =>
    obtain ⟨ts, htokens, hterm⟩ := h.derives c c' hreads hstop
    exact ⟨ts, htokens, .term hterm⟩
  | .intersection h hrest =>
    obtain ⟨c₁, hreads₁, hreads₂⟩ := hreads.of_append
    obtain ⟨ts, htokens, hterm⟩ := h.derives c c₁ hreads₁ (by
      rw [hreads₂.rest]
      exact hrest.stopsWord hstop)
    obtain ⟨us, htokens', hconjuncts⟩ := hrest.derives c₁ c' hreads₂ hstop
    exact ⟨ts ++ us, by rw [htokens, htokens', List.append_assoc],
      .intersection hterm hconjuncts⟩

theorem SpellsItems.derives {texts : List (List Char)} {es : List Element}
    (h : SpellsItems texts es) : List.Forall₂ (Yields DerivesItem) texts es := by
  match h with
  | .nil => exact .nil
  | .cons h hrest => exact .cons h.derives hrest.derives

end

/-! ### The texts of tokens of elements -/

/-- Wherever the tokens are ahead, they have a text of `a` behind trivia. -/
def Writes {α : Type} (S : List Char → α → Prop) (ts : List Token) (a : α) : Prop :=
  ∀ (c : Cursor) (us : List Token), c.tokens = ts ++ us →
    ∃ trivia t c', IsTrivia trivia ∧ c.Reads (trivia ++ t) c' ∧ S t a ∧ c'.tokens = us

section Texts

variable {c : Cursor} {ts us : List Token}

theorem DerivesSelector.spells {last : Token} {selector : String}
    (h : DerivesSelector last ts selector) (htokens : c.tokens = ts ++ us)
    (hlast : c.offset = last.stop) :
    ∃ t c', c.Reads t c' ∧ SpellsSelector t selector ∧ c'.tokens = us := by
  cases h with
  | @mk opening word closing hopening hdirect hword hclosing =>
    obtain ⟨c₁, -, hreads₁, htokens⟩ := Cursor.reads_of_tokens_sign htokens
      (hdirect.trans hlast.symm) (s := '[') (by rw [hopening]; rfl)
    obtain ⟨a, w, b, c₂, ha, hw, htext, hb, hreads₂, htokens⟩ :=
      Cursor.exists_of_tokens_keyed htokens hword (s := ']') (by rw [hclosing]; rfl)
    exact ⟨_, c₂, hreads₁.trans hreads₂, htext ▸ .mk hw ha hb, htokens⟩

theorem DerivesManaged.spells {managed : Bool} (h : DerivesManaged ts managed)
    (htokens : c.tokens = ts ++ us) :
    ∃ t c', c.Reads t c' ∧ SpellsManaged t managed ∧ c'.tokens = us := by
  cases h with
  | absent => exact ⟨[], c, .refl c, .absent, htokens⟩
  | present hkey htext hsign =>
    obtain ⟨a, w, b, c', ha, -, hw, hb, hreads, htokens⟩ :=
      Cursor.exists_of_tokens_keyed htokens hkey (s := '&') (by rw [hsign]; rfl)
    obtain rfl : w = "managed".toList := by rw [← htext, hw, String.toList_ofList]
    exact ⟨_, c', hreads, .present ha hb, htokens⟩

theorem DerivesIp.spells {ip : Option String} (h : DerivesIp ts ip)
    (htokens : c.tokens = ts ++ us) : ∃ t c', c.Reads t c' ∧ SpellsIp t ip ∧ c'.tokens = us := by
  cases h with
  | absent => exact ⟨[], c, .refl c, .absent, htokens⟩
  | present hkey htext hequals hword hsign =>
    obtain ⟨a, w, b, c₁, ha, -, hw, hb, hreads₁, htokens⟩ :=
      Cursor.exists_of_tokens_keyed htokens hkey (s := '=') (by rw [hequals]; rfl)
    obtain ⟨d, v, e, c₂, hd, hv, htext', he, hreads₂, htokens⟩ :=
      Cursor.exists_of_tokens_keyed htokens hword (s := '&') (by rw [hsign]; rfl)
    refine ⟨_, c₂, hreads₁.trans hreads₂, ?_, htokens⟩
    obtain rfl : w = "ip".toList := by rw [← htext, hw, String.toList_ofList]
    rw [htext']
    simpa using SpellsIp.present hv ha hb hd he

theorem DerivesAutoSelector.spells {last : Token} {selector : Option String}
    (h : DerivesAutoSelector last ts selector) (htokens : c.tokens = ts ++ us)
    (hlast : c.offset = last.stop) :
    ∃ t c', c.Reads t c' ∧ SpellsAutoSelector t selector ∧ c'.tokens = us := by
  cases h with
  | absent => exact ⟨[], c, .refl c, .absent, htokens⟩
  | present hdot htext hdirect h =>
    obtain ⟨w, c₁, -, hw, hstop, hreads₁, htokens⟩ :=
      Cursor.reads_of_tokens_word htokens hdot (hdirect.trans hlast.symm)
    obtain ⟨t, c₂, hreads₂, hselector, htokens⟩ := h.spells htokens hstop
    obtain rfl : w = ['.'] := by
      rw [← String.toList_ofList (l := w), ← hw, htext]
      rfl
    exact ⟨'.' :: t, c₂, hreads₁.trans hreads₂, .present hselector, htokens⟩

end Texts

mutual

/-- Tokens that derive an element have a text of it. -/
theorem Derives.spells {ts : List Token} {e : Element} (h : Derives ts e) : Writes Spells ts e := by
  intro c us htokens
  match h with
  | .user hword htext =>
    obtain ⟨trivia, w, c₁, htrivia, -, hw, -, -, hreads, htokens⟩ :=
      Cursor.exists_of_tokens_word htokens hword
    obtain rfl : w = "user".toList := by rw [← htext, hw, String.toList_ofList]
    exact ⟨trivia, _, c₁, htrivia, hreads, .user, htokens⟩
  | .named hword htext htype hname =>
    obtain ⟨trivia, w, c₁, htrivia, hw, hw', -, -, hreads, htokens⟩ :=
      Cursor.exists_of_tokens_word htokens hword
    have hsplit := splitTyped?_eq_some.2 ⟨hw'.symm.trans htext, htype⟩
    exact ⟨trivia, w, c₁, htrivia, hreads, .named hw hsplit (by simpa using hname), htokens⟩
  | .selected hword htext htype hname hselector =>
    obtain ⟨trivia, w, c₁, htrivia, hw, hw', -, hstop, hreads₁, htokens⟩ :=
      Cursor.exists_of_tokens_word htokens hword
    have hsplit := splitTyped?_eq_some.2 ⟨hw'.symm.trans htext, htype⟩
    obtain ⟨t, c₂, hreads₂, hselector, htokens⟩ := hselector.spells htokens hstop
    exact ⟨trivia, w ++ t, c₂, htrivia, by simpa using hreads₁.trans hreads₂,
      .selected hw hsplit hname hselector, htokens⟩
  | .auto hword htext htype hopening hdirect hmanaged hip hunion hclosing hselector =>
    simp only [List.cons_append, List.append_assoc] at htokens
    obtain ⟨trivia, w, c₁, htrivia, hw, hw', -, hstop, hreads₁, htokens⟩ :=
      Cursor.exists_of_tokens_word htokens hword
    have hsplit := splitTyped?_eq_some.2
      ⟨hw'.symm.trans (htext.trans (String.append_empty).symm), htype⟩
    obtain ⟨c₂, -, hreads₂, htokens⟩ := Cursor.reads_of_tokens_sign htokens
      (hdirect.trans hstop.symm) (s := '[') (by rw [hopening]; rfl)
    obtain ⟨managedText, c₃, hreads₃, hmanaged, htokens⟩ := hmanaged.spells htokens
    obtain ⟨ipText, c₄, hreads₄, hip, htokens⟩ := hip.spells htokens
    obtain ⟨texts, body, c₅, hreads₅, hitems, hseparated, htokens⟩ := hunion.spells htokens
    obtain ⟨trivia', c₆, htrivia', -, hlast, hreads₆, htokens⟩ :=
      Cursor.exists_of_tokens_sign htokens (s := ']') (by rw [hclosing]; rfl)
    obtain ⟨selectorText, c₇, hreads₇, hselector, htokens⟩ := hselector.spells htokens hlast
    have hreads := (((((hreads₁.trans hreads₂).trans hreads₃).trans hreads₄).trans hreads₅).trans
      hreads₆).trans hreads₇
    exact ⟨trivia, _, c₇, htrivia, by simpa using hreads,
      .auto hw hsplit hmanaged hip (hseparated trivia' htrivia') hitems hselector, htokens⟩

theorem DerivesTerm.spells {ts : List Token} {e : Element} (h : DerivesTerm ts e) :
    Writes SpellsTerm ts e := by
  intro c us htokens
  match h with
  | .plain h =>
    obtain ⟨trivia, t, c₁, htrivia, hreads, hspells, htokens⟩ := h.spells c us htokens
    exact ⟨trivia, t, c₁, htrivia, hreads, .plain hspells, htokens⟩
  | .complement hsign h =>
    obtain ⟨trivia, c₁, htrivia, -, -, hreads₁, htokens⟩ :=
      Cursor.exists_of_tokens_sign htokens (s := '!') (by rw [hsign]; rfl)
    obtain ⟨trivia', t, c₂, htrivia', hreads₂, hspells, htokens⟩ := h.spells c₁ us htokens
    exact ⟨trivia, '!' :: (trivia' ++ t), c₂, htrivia, by simpa using hreads₁.trans hreads₂,
      .complement htrivia' hspells, htokens⟩

theorem DerivesConjuncts.spells {ts : List Token} {es : List Element}
    (h : DerivesConjuncts ts es) {c : Cursor} {us : List Token} (htokens : c.tokens = ts ++ us) :
    ∃ t c', c.Reads t c' ∧ SpellsConjuncts t es ∧ c'.tokens = us := by
  match h with
  | .nil => exact ⟨[], c, .refl c, .nil, htokens⟩
  | .cons hsign h hrest =>
    rw [List.cons_append, List.append_assoc] at htokens
    obtain ⟨trivia, c₁, htrivia, -, -, hreads₁, htokens⟩ :=
      Cursor.exists_of_tokens_sign htokens (s := '&') (by rw [hsign]; rfl)
    obtain ⟨trivia', t, c₂, htrivia', hreads₂, hterm, htokens⟩ := h.spells c₁ _ htokens
    obtain ⟨text, c₃, hreads₃, hconjuncts, htokens⟩ := hrest.spells htokens
    exact ⟨_, c₃, by simpa using (hreads₁.trans hreads₂).trans hreads₃,
      .cons htrivia htrivia' hterm hconjuncts, htokens⟩

theorem DerivesItem.spells {ts : List Token} {e : Element} (h : DerivesItem ts e) :
    Writes SpellsItem ts e := by
  intro c us htokens
  match h with
  | .term h =>
    obtain ⟨trivia, t, c₁, htrivia, hreads, hterm, htokens⟩ := h.spells c us htokens
    exact ⟨trivia, t, c₁, htrivia, hreads, .term hterm, htokens⟩
  | .intersection h hrest =>
    rw [List.append_assoc] at htokens
    obtain ⟨trivia, t, c₁, htrivia, hreads₁, hterm, htokens⟩ := h.spells c _ htokens
    obtain ⟨text, c₂, hreads₂, hconjuncts, htokens⟩ := hrest.spells htokens
    exact ⟨trivia, t ++ text, c₂, htrivia, by simpa using hreads₁.trans hreads₂,
      .intersection hterm hconjuncts, htokens⟩

theorem DerivesUnion.spells {ts : List Token} {es : List Element} (h : DerivesUnion ts es)
    {c : Cursor} {us : List Token} (htokens : c.tokens = ts ++ us) :
    ∃ texts text c', c.Reads text c' ∧ SpellsItems texts es ∧
      (∀ trivia, IsTrivia trivia → Separated texts (text ++ trivia)) ∧ c'.tokens = us := by
  match h with
  | .nil => exact ⟨[], [], c, .refl c, .nil, fun _ htrivia => .nil htrivia, htokens⟩
  | .last h =>
    obtain ⟨trivia, t, c₁, htrivia, hreads, hitem, htokens⟩ := h.spells c us htokens
    refine ⟨[t], _, c₁, hreads, .cons hitem .nil, fun trivia' htrivia' => ?_, htokens⟩
    simpa using Separated.last (t := t) htrivia htrivia'
  | .cons h hcomma hrest =>
    rw [List.append_assoc, List.cons_append] at htokens
    obtain ⟨trivia, t, c₁, htrivia, hreads₁, hitem, htokens⟩ := h.spells c _ htokens
    obtain ⟨trivia', c₂, htrivia', -, -, hreads₂, htokens⟩ :=
      Cursor.exists_of_tokens_sign htokens (s := ',') (by rw [hcomma]; rfl)
    obtain ⟨texts, text, c₃, hreads₃, hitems, hseparated, htokens⟩ := hrest.spells htokens
    refine ⟨t :: texts, _, c₃, (hreads₁.trans hreads₂).trans hreads₃, .cons hitem hitems,
      fun last hlast => ?_, htokens⟩
    simpa using Separated.cons (t := t) htrivia htrivia' (hseparated last hlast)

end

/-! ### Reading unions -/

/-- The elements that are read up to the end of a text are derived by its tokens. -/
theorem derives_of_readAll {limit : Nat} {c : Cursor} {es : List Element}
    (h : readAll limit c = .ok es) (hlimit : c.rest.length < limit) : DerivesUnion c.tokens es := by
  induction limit generalizing c es with
  | zero => exact absurd hlimit (Nat.not_lt_zero _)
  | succ limit ih =>
    rw [readAll] at h
    split at h
    · next hend =>
      cases h
      rw [Cursor.tokens_eq_nil.2 (Cursor.atEnd_iff.1 hend)]
      exact .nil
    · obtain ⟨⟨e, c₁⟩, hitem, h⟩ := Except.bind_eq_ok.1 h
      obtain ⟨trivia, t, htrivia, -, hreads, hspells⟩ := readItem_recovers _ _ _ hitem
      obtain ⟨c₀, hreads₀, hreads₁⟩ := hreads.of_append
      have hyields (hstop : StopsWord c₁.rest) :
          ∃ ts, c.tokens = ts ++ c₁.tokens ∧ DerivesItem ts e :=
        Cursor.tokens_trivia hreads₀ htrivia ▸ hspells.derives c₀ c₁ hreads₁ hstop
      dsimp only at h
      split at h
      · next c₂ heat =>
        obtain ⟨es', hrest, h⟩ := Except.bind_eq_ok.1 h
        cases h
        obtain ⟨comma, hnext, hcomma⟩ := Cursor.eat?_eq_some heat
        have htokens : c₁.tokens = comma :: c₂.tokens := by rw [Cursor.tokens_eq, hnext]
        obtain ⟨ts, hts, hderives⟩ := hyields (.of_kindAhead (by
          rw [Cursor.kindAhead?_of_tokens htokens, hcomma]
          decide))
        obtain ⟨trivia', -, -, hreads'⟩ := Cursor.reads_of_eat? heat rfl
        have hlength := congrArg List.length (hreads.trans hreads').rest
        simp only [List.length_append, List.length_cons] at hlength
        rw [hts, htokens]
        exact .cons hderives hcomma (ih hrest (by omega))
      · split at h
        · next hend =>
          cases h
          have hahead := Cursor.atEnd_iff.1 hend
          obtain ⟨ts, hts, hderives⟩ := hyields (.of_kindAhead (by simp [hahead]))
          rw [hts, Cursor.tokens_eq_nil.2 hahead, List.append_nil]
          exact .last hderives
        · cases h

/-- Tokens that derive an intersection are read as such in front of a comma or at the end. -/
theorem readItem_of_derives {ts us : List Token} {e : Element} (h : DerivesItem ts e) {c : Cursor}
    (htokens : c.tokens = ts ++ us) (hus : ∀ t ∈ us.head?, t.kind = .comma) :
    ∃ c', readItem c = .ok (e, c') ∧ c'.tokens = us ∧ c.atEnd = false ∧
      c'.rest.length ≤ c.rest.length := by
  obtain ⟨trivia, t, c', htrivia, hreads, hspells, hrest⟩ := h.spells c us htokens
  have hends : EndsItem c'.rest := by
    rw [EndsItem, EndsElement]
    cases us with
    | nil => simp [Cursor.tokens_eq_nil.1 hrest]
    | cons comma us => simp [Cursor.kindAhead?_of_tokens hrest, hus comma rfl]
  have hcursor : c = ⟨c.offset, trivia ++ (t ++ c'.rest)⟩ := by
    rw [← List.append_assoc, ← hreads.rest]
  obtain ⟨_, m, hread, rfl⟩ := readItem_accepts hspells c.offset trivia c'.rest htrivia hends
  rw [← hcursor] at hread
  obtain ⟨_, _, -, -, hreads', -⟩ := readItem_recovers _ _ _ hread
  refine ⟨c', ?_, hrest, ?_, ?_⟩
  · rw [hread, hreads'.eq_of_rest hreads rfl]
  · rw [Bool.eq_false_iff, Ne, Cursor.atEnd_iff, hreads.rest, List.append_assoc]
    rcases hspells.opensTyped.kindAhead htrivia c'.rest with hahead | hahead <;> simp [hahead]
  · rw [hreads.rest, List.length_append]
    exact Nat.le_add_left _ _

/-- Tokens that derive a union are read up to the end of the text. -/
theorem readAll_of_derives {limit : Nat} {ts : List Token} {es : List Element}
    (h : DerivesUnion ts es) {c : Cursor} (htokens : c.tokens = ts)
    (hlimit : c.rest.length < limit) : readAll limit c = .ok es := by
  induction limit generalizing ts es c with
  | zero => exact absurd hlimit (Nat.not_lt_zero _)
  | succ limit ih =>
    rw [readAll]
    cases h with
    | nil => rw [if_pos (Cursor.atEnd_iff.2 (Cursor.tokens_eq_nil.1 htokens))]
    | last h =>
      obtain ⟨c', hitem, hrest, hend, -⟩ :=
        readItem_of_derives h (htokens.trans (List.append_nil _).symm) (by simp)
      have hahead := Cursor.tokens_eq_nil.1 hrest
      have heat : c'.eat? .comma = none := Cursor.eat?_eq_none.2 (by simp [hahead])
      rw [hend, if_neg Bool.false_ne_true]
      refine Except.bind_eq_ok.2 ⟨_, hitem, ?_⟩
      simp only [heat, Cursor.atEnd_iff.2 hahead, if_true]
      rfl
    | cons h hcomma hrest =>
      obtain ⟨c₁, hitem, htokens, hend, hlength⟩ :=
        readItem_of_derives h htokens (by simpa using hcomma)
      obtain ⟨c₂, hnext, htokens⟩ := Cursor.next?_of_tokens htokens
      have heat : c₁.eat? .comma = some c₂ := by simp [Cursor.eat?, hnext, hcomma]
      obtain ⟨trivia, -, -, hreads⟩ := Cursor.reads_of_eat? heat rfl
      have hlength' := congrArg List.length hreads.rest
      simp only [List.length_append, List.length_cons] at hlength'
      rw [hend, if_neg Bool.false_ne_true]
      refine Except.bind_eq_ok.2 ⟨_, hitem, ?_⟩
      simp only [heat, ih hrest htokens (show c₂.rest.length < limit by omega)]
      rfl

end Element

end PolicyEditor
