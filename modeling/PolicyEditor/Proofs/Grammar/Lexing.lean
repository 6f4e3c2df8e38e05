import Mathlib.Data.List.TakeWhile
import PolicyEditor.Proofs.Grammar.Trivia

/-!
# Reading single tokens

What a cursor reads next depends only on the text in front of it: trivia is skipped, a word reaches
up to the first character that is not part of it, and every other token is one character.  The
lemmas come in two directions.  From a text that is known to start with a token they compute what
the cursor reads, and from what a cursor has read they recover the text that it went through.

## Main definitions

* `Token.Kind.sign?` : the character of a token that is always one character.
* `Cursor.Reads` : the text between two places.
* `IsLexeme` : the text of a token in front of a further text.

## Main results

* `Cursor.next?_word`, `Cursor.next?_sign` : the next token of a text.
* `Cursor.next?_eq_some` : the text of a token that was read.
-/

namespace PolicyEditor

open Text

namespace Token.Kind

/-- The character of a token that consists of a single character. -/
def sign? : Kind → Option Char
  | equals => some '='
  | comma => some ','
  | semicolon => some ';'
  | openBrace => some '\x7b'
  | closeBrace => some '\x7d'
  | openBracket => some '['
  | closeBracket => some ']'
  | ampersand => some '&'
  | bang => some '!'
  | space | comment | word => none

theorem ofChar_of_sign? {kind : Kind} {s : Char} (h : kind.sign? = some s) : ofChar s = kind := by
  cases kind <;> cases h <;> decide

theorem eq_of_ofChar {kind : Kind} {s c : Char} (h : kind.sign? = some s) (hc : ofChar c = kind) :
    c = s := by
  unfold ofChar at hc
  cases kind <;> cases h <;> split at hc <;> first | cases hc | skip
  all_goals split at hc <;> first | rfl | cases hc

theorem isTrivia_of_sign? {kind : Kind} {s : Char} (h : kind.sign? = some s) :
    kind.isTrivia = false := by
  cases kind <;> first | rfl | cases h

theorem continues_of_sign? {kind : Kind} {s : Char} (h : kind.sign? = some s) (c : Char) :
    kind.continues c = false := by
  cases kind <;> first | rfl | cases h

theorem isTrivia_ofChar_sign? {kind : Kind} {s : Char} (h : kind.sign? = some s) :
    (ofChar s).isTrivia = false := by
  rw [ofChar_of_sign? h]
  exact isTrivia_of_sign? h

theorem sign?_isSome {kind : Kind} (h : kind.isTrivia = false) (hword : kind ≠ .word) :
    ∃ s, kind.sign? = some s := by
  cases kind <;> first | exact ⟨_, rfl⟩ | exact absurd rfl hword | cases h

theorem ofChar_eq_comment {c : Char} : ofChar c = .comment ↔ c = '#' := by
  refine ⟨fun h => ?_, fun h => h ▸ by decide⟩
  unfold ofChar at h
  split at h
  · cases h
  · split at h <;> first | rfl | cases h

end Token.Kind

/-- A token reaches up to a character that does not continue it. -/
theorem Token.lexeme_append {c : Char} {l r : List Char}
    (hl : ∀ d ∈ l, (Kind.ofChar c).continues d = true)
    (hr : ∀ d ∈ r.head?, (Kind.ofChar c).continues d = false) :
    lexeme c (l ++ r) = c :: l ∧ remainder c (l ++ r) = r := by
  have hstop : r.takeWhile (Kind.ofChar c).continues = [] ∧
      r.dropWhile (Kind.ofChar c).continues = r := by
    cases r with
    | nil => exact ⟨rfl, rfl⟩
    | cons d r =>
      have hd := hr d rfl
      exact ⟨List.takeWhile_cons_of_neg (by simp [hd]), List.dropWhile_cons_of_neg (by simp [hd])⟩
  rw [lexeme, remainder, List.takeWhile_append_of_pos hl, List.dropWhile_append_of_pos hl,
    hstop.1, hstop.2, List.append_nil]
  exact ⟨rfl, rfl⟩

/-- What stands behind a token does not continue it. -/
theorem Token.continues_head_remainder (c : Char) (cs : List Char) :
    ∀ d ∈ (remainder c cs).head?, (Kind.ofChar c).continues d = false := by
  intro d hd
  have hnot := List.head?_dropWhile_not (Kind.ofChar c).continues cs
  rw [← remainder, Option.mem_def.1 hd] at hnot
  simpa using hnot

theorem Text.kindAhead?_sign {κ : Token.Kind} {s : Char} (h : κ.sign? = some s)
    (text : List Char) : kindAhead? (s :: text) = some κ := by
  rw [kindAhead?_cons (Token.Kind.isTrivia_ofChar_sign? h), Token.Kind.ofChar_of_sign? h]

theorem Text.kindAhead?_append_sign {trivia : List Char} (htrivia : IsTrivia trivia)
    {κ : Token.Kind} {s : Char} (h : κ.sign? = some s) (text : List Char) :
    kindAhead? (trivia ++ s :: text) = some κ := by
  rw [kindAhead?_append htrivia, kindAhead?_sign h]

/-- A word ends in front of a sign, which may stand behind trivia. -/
theorem IsTrivia.stopsWord_sign {trivia : List Char} (htrivia : IsTrivia trivia) {κ : Token.Kind}
    {s : Char} (h : κ.sign? = some s) (text : List Char) : StopsWord (trivia ++ s :: text) := by
  refine .of_kindAhead ?_
  rw [kindAhead?_append_sign htrivia h]
  rintro ⟨⟩
  cases h

/-- The text of a token of a kind, in front of the text `rest`. -/
inductive IsLexeme : Token.Kind → List Char → List Char → Prop
  | word {w rest : List Char} (hw : IsWord w) (hrest : StopsWord rest) : IsLexeme .word w rest
  | sign {kind : Token.Kind} {s : Char} (rest : List Char) (h : kind.sign? = some s) :
    IsLexeme kind [s] rest

theorem Text.eq_nil_of_byteLength {text : List Char} (h : byteLength text = 0) : text = [] := by
  cases text with
  | nil => rfl
  | cons c text =>
    have := c.utf8Size_pos
    rw [byteLength_cons] at h
    omega

namespace Cursor

/-! ### The text between two places -/

/-- The cursor comes from the place `c` to the place `c'` through the given text. -/
structure Reads (c : Cursor) (text : List Char) (c' : Cursor) : Prop where
  rest : c.rest = text ++ c'.rest
  offset : c'.offset = c.offset + byteLength text

namespace Reads

theorem eq_mk {c c' : Cursor} {a b : List Char} (h : c.Reads (a ++ b) c') :
    c = ⟨c.offset, a ++ (b ++ c'.rest)⟩ := by
  rw [← List.append_assoc, ← h.rest]

theorem refl (c : Cursor) : c.Reads [] c := ⟨rfl, rfl⟩

theorem trans {c c' c'' : Cursor} {a b : List Char} (h : c.Reads a c') (h' : c'.Reads b c'') :
    c.Reads (a ++ b) c'' where
  rest := by rw [h.rest, h'.rest, List.append_assoc]
  offset := by rw [h'.offset, h.offset, byteLength_append, Nat.add_assoc]

end Reads

/-! ### The rest of the line -/

theorem lineEnd_rest (c : Cursor) : c.lineEnd.rest = c.rest.dropWhile (· != '\n') := by
  have hdrop (cs : List Char) : cs.drop (firstLine cs).length = cs.dropWhile (· != '\n') := by
    induction cs with
    | nil => rfl
    | cons d cs ih =>
      rw [firstLine, List.takeWhile_cons, List.dropWhile_cons]
      split
      · exact ih
      · rfl
  exact hdrop c.rest

theorem newline_notMem_firstLine (c : Cursor) : '\n' ∉ firstLine c.rest := fun hmem => by
  simpa using List.mem_takeWhile_imp hmem

theorem reads_lineEnd (c : Cursor) : c.Reads (firstLine c.rest) c.lineEnd :=
  ⟨by rw [lineEnd_rest, firstLine, List.takeWhile_append_dropWhile], rfl⟩

/-- Only a line feed ends a line. -/
theorem head?_lineEnd (c : Cursor) : ∀ d ∈ c.lineEnd.rest.head?, d = '\n' := by
  intro d hd
  have hnot := List.head?_dropWhile_not (· != '\n') c.rest
  rw [lineEnd_rest] at hd
  rw [Option.mem_def.1 hd] at hnot
  simpa using hnot

/-! ### Reading a known text -/

section Known

variable {n : Nat} {trivia w r : List Char}

theorem skipTrivia_append (h : IsTrivia trivia) {c : Char}
    (hc : (Token.Kind.ofChar c).isTrivia = false) :
    (⟨n, trivia ++ c :: r⟩ : Cursor).skipTrivia = ⟨n + byteLength trivia, c :: r⟩ := by
  simp [skipTrivia, splitTrivia_append_of_quiet h.quiet, h.closed, splitTrivia_of_token hc,
    advance]

theorem next?_word (h : IsTrivia trivia) (hw : IsWord w) (hrest : StopsWord r) :
    (⟨n, trivia ++ (w ++ r)⟩ : Cursor).next? =
      some (⟨.word, String.ofList w, n + byteLength trivia⟩,
        ⟨n + byteLength trivia + byteLength w, r⟩) := by
  obtain ⟨hne, hkind⟩ := hw
  obtain ⟨c, w, rfl⟩ := List.exists_cons_of_ne_nil hne
  have hc : Token.Kind.ofChar c = .word := hkind c List.mem_cons_self
  have hcont : ∀ d ∈ w, (Token.Kind.ofChar c).continues d = true := fun d hd => by
    simp [hc, Token.Kind.continues, hkind d (List.mem_cons_of_mem _ hd)]
  have hstop : ∀ d ∈ r.head?, (Token.Kind.ofChar c).continues d = false := fun d hd => by
    simpa [hc, Token.Kind.continues] using hrest d hd
  obtain ⟨hlexeme, hremainder⟩ := Token.lexeme_append hcont hstop
  rw [next?, List.cons_append, skipTrivia_append h (by rw [hc]; rfl)]
  simp [Token.starting, hc, hlexeme, hremainder, advance]

theorem next?_sign (h : IsTrivia trivia) {κ : Token.Kind} {s : Char}
    (hs : κ.sign? = some s) :
    (⟨n, trivia ++ s :: r⟩ : Cursor).next? =
      some (⟨κ, String.ofList [s], n + byteLength trivia⟩,
        ⟨n + byteLength trivia + byteLength [s], r⟩) := by
  have hkind := Token.Kind.ofChar_of_sign? hs
  obtain ⟨hlexeme, hremainder⟩ := Token.lexeme_append (c := s) (l := []) (r := r) (by simp)
    fun d _ => by rw [hkind, Token.Kind.continues_of_sign? hs]
  rw [List.nil_append] at hlexeme hremainder
  rw [next?, skipTrivia_append h (Token.Kind.isTrivia_ofChar_sign? hs)]
  simp [Token.starting, hkind, hlexeme, hremainder, advance]

theorem expectAs_word (h : IsTrivia trivia) (hw : IsWord w) (hrest : StopsWord r)
    (wanted : String) :
    ∃ t m, (⟨n, trivia ++ (w ++ r)⟩ : Cursor).expectAs .word wanted = .ok (t, ⟨m, r⟩) ∧
      t.text = String.ofList w := by
  rw [expectAs, next?_word h hw hrest]
  exact ⟨_, _, rfl, rfl⟩

theorem expectAs_sign (h : IsTrivia trivia) {κ : Token.Kind} {s : Char}
    (hs : κ.sign? = some s) (wanted : String) :
    ∃ t m, (⟨n, trivia ++ s :: r⟩ : Cursor).expectAs κ wanted = .ok (t, ⟨m, r⟩) := by
  simp only [expectAs, next?_sign h hs, if_true]
  exact ⟨_, _, rfl⟩

theorem eat?_sign (h : IsTrivia trivia) {κ : Token.Kind} {s : Char}
    (hs : κ.sign? = some s) :
    ∃ m, (⟨n, trivia ++ s :: r⟩ : Cursor).eat? κ = some ⟨m, r⟩ := by
  simp only [eat?, next?_sign h hs, if_true]
  exact ⟨_, rfl⟩

end Known

/-! ### The token ahead -/

theorem kindAhead?_eq (c : Cursor) : kindAhead? c.rest = c.peek?.map (·.kind) := by
  rw [kindAhead?, peek?, next?]
  cases h : (splitTrivia false c.rest).2 <;>
    simp [skipTrivia, advance, h, Token.starting]

theorem sees_iff {c : Cursor} {kind : Token.Kind} :
    c.sees kind = true ↔ kindAhead? c.rest = some kind := by
  rw [kindAhead?_eq, sees]
  cases c.peek? <;> simp

theorem sees_eq_false {c : Cursor} {kind : Token.Kind} (h : kindAhead? c.rest ≠ some kind) :
    c.sees kind = false :=
  Bool.eq_false_iff.2 fun hsees => h (sees_iff.1 hsees)

theorem atEnd_iff {c : Cursor} : c.atEnd = true ↔ kindAhead? c.rest = none := by
  rw [kindAhead?_eq, atEnd, peek?]
  cases c.next? <;> simp

theorem seesWord_iff {c : Cursor} {word : String} :
    c.seesWord word = true ↔ ∃ t, c.peek? = some t ∧ t.kind = .word ∧ t.text = word := by
  rw [seesWord]
  cases c.peek? <;> simp

theorem eat?_eq_none {c : Cursor} {kind : Token.Kind} :
    c.eat? kind = none ↔ kindAhead? c.rest ≠ some kind := by
  rw [kindAhead?_eq, eat?, peek?]
  cases c.next? <;> simp

/-! ### The text of a token that was read -/

theorem start_eq {c : Cursor} {trivia r : List Char} {d : Char} (h : IsTrivia trivia)
    (hd : (Token.Kind.ofChar d).isTrivia = false) (hc : c.rest = trivia ++ d :: r) :
    c.start = c.offset + byteLength trivia := by
  rw [start, show c = ⟨c.offset, trivia ++ d :: r⟩ by rw [← hc], skipTrivia_append h hd]

/-- A token that was read stands behind trivia. -/
theorem next?_eq_some {c c' : Cursor} {t : Token} (h : c.next? = some (t, c')) :
    ∃ trivia lexeme, IsTrivia trivia ∧ IsLexeme t.kind lexeme c'.rest ∧
      t.text = String.ofList lexeme ∧ c.start = c.offset + byteLength trivia ∧
      c.Reads (trivia ++ lexeme) c' := by
  obtain ⟨hquiet, htext, hrest⟩ := splitTrivia_spec (s := false) (t := c.rest) rfl
  rw [next?] at h
  cases hs : (splitTrivia false c.rest).2 with
  | nil => simp [skipTrivia, advance, hs] at h
  | cons d ds =>
    rw [hs] at htext hrest
    obtain ⟨hclosed, htoken⟩ := hrest d rfl
    simp only [skipTrivia, advance, hs, Option.some.injEq, Prod.mk.injEq] at h
    obtain ⟨rfl, rfl⟩ := h
    refine ⟨_, Token.lexeme d ds, ⟨hquiet, hclosed⟩, ?_, rfl,
      start_eq ⟨hquiet, hclosed⟩ htoken htext, ⟨?_, by rw [byteLength_append, Nat.add_assoc]⟩⟩
    rotate_left
    · rw [List.append_assoc, Token.lexeme_append_remainder]
      exact htext
    by_cases hword : Token.Kind.ofChar d = .word
    · have hstop := Token.continues_head_remainder d ds
      rw [hword] at hstop
      rw [Token.starting, hword]
      refine .word ⟨List.cons_ne_nil _ _, ?_⟩ fun e he => by
        simpa [Token.Kind.continues] using hstop e he
      intro e he
      rcases List.mem_cons.1 he with rfl | he
      · exact hword
      · rw [hword] at he
        simpa [Token.Kind.continues] using List.mem_takeWhile_imp he
    · obtain ⟨s, hs⟩ := Token.Kind.sign?_isSome htoken hword
      have hds : d = s := Token.Kind.eq_of_ofChar hs rfl
      have hlexeme : Token.lexeme d ds = [s] := by
        rw [Token.lexeme,
          List.takeWhile_eq_nil_iff.2 (by simp [Token.Kind.continues_of_sign? hs]), hds]
      rw [hlexeme]
      exact .sign _ hs

theorem next?_eq_some_word {c c' : Cursor} {t : Token} (h : c.next? = some (t, c'))
    (ht : t.kind = .word) :
    ∃ trivia w, IsTrivia trivia ∧ IsWord w ∧ StopsWord c'.rest ∧ t.text = String.ofList w ∧
      c.start = c.offset + byteLength trivia ∧ c.Reads (trivia ++ w) c' := by
  obtain ⟨trivia, lexeme, htrivia, hlexeme, htext, hstart, hreads⟩ := next?_eq_some h
  rw [ht] at hlexeme
  cases hlexeme with
  | word hw hrest => exact ⟨trivia, lexeme, htrivia, hw, hrest, htext, hstart, hreads⟩
  | sign _ hs => cases hs

theorem next?_eq_some_sign {c c' : Cursor} {t : Token} (h : c.next? = some (t, c')) {s : Char}
    (ht : t.kind.sign? = some s) :
    ∃ trivia, IsTrivia trivia ∧ c.start = c.offset + byteLength trivia ∧
      c.Reads (trivia ++ [s]) c' := by
  obtain ⟨trivia, lexeme, htrivia, hlexeme, -, hstart, hreads⟩ := next?_eq_some h
  generalize t.kind = kind at hlexeme ht
  cases hlexeme with
  | word => cases ht
  | sign _ hs => cases hs.symm.trans ht; exact ⟨trivia, htrivia, hstart, hreads⟩

theorem expectAs_eq_ok {c c' : Cursor} {kind : Token.Kind} {wanted : String} {t : Token}
    (h : c.expectAs kind wanted = .ok (t, c')) : c.next? = some (t, c') ∧ t.kind = kind := by
  rw [expectAs] at h
  split at h
  · next hnext =>
    split at h
    · next hkind =>
      cases h
      exact ⟨hnext, hkind⟩
    · cases h
  · cases h

theorem eat?_eq_some {c c' : Cursor} {kind : Token.Kind} (h : c.eat? kind = some c') :
    ∃ t, c.next? = some (t, c') ∧ t.kind = kind := by
  rw [eat?] at h
  split at h
  · next t _ hnext =>
    split at h
    · next hkind =>
      cases h
      exact ⟨t, hnext, hkind⟩
    · cases h
  · cases h

/-- A sign that was expected stands behind trivia. -/
theorem reads_of_expectAs {c c' : Cursor} {kind : Token.Kind} {wanted : String} {t : Token}
    {s : Char} (h : c.expectAs kind wanted = .ok (t, c')) (hs : kind.sign? = some s) :
    ∃ trivia, IsTrivia trivia ∧ c.start = c.offset + byteLength trivia ∧
      c.Reads (trivia ++ [s]) c' := by
  obtain ⟨hnext, hkind⟩ := expectAs_eq_ok h
  exact next?_eq_some_sign hnext (hkind ▸ hs)

/-- A sign that was found stands behind trivia. -/
theorem reads_of_eat? {c c' : Cursor} {kind : Token.Kind} {s : Char} (h : c.eat? kind = some c')
    (hs : kind.sign? = some s) :
    ∃ trivia, IsTrivia trivia ∧ c.start = c.offset + byteLength trivia ∧
      c.Reads (trivia ++ [s]) c' := by
  obtain ⟨t, hnext, hkind⟩ := eat?_eq_some h
  exact next?_eq_some_sign hnext (hkind ▸ hs)

theorem reads_of_expect {c c' : Cursor} {kind : Token.Kind} {t : Token} {s : Char}
    (h : c.expect kind = .ok (t, c')) (hs : kind.sign? = some s) :
    ∃ trivia, IsTrivia trivia ∧ c.start = c.offset + byteLength trivia ∧
      c.Reads (trivia ++ [s]) c' :=
  reads_of_expectAs h hs

/-- A word that was expected stands behind trivia. -/
theorem reads_of_expectWord {c c' : Cursor} {wanted : String} {t : Token}
    (h : c.expectAs .word wanted = .ok (t, c')) :
    ∃ trivia w, IsTrivia trivia ∧ IsWord w ∧ StopsWord c'.rest ∧ t.text = String.ofList w ∧
      c.start = c.offset + byteLength trivia ∧ c.Reads (trivia ++ w) c' := by
  obtain ⟨hnext, hkind⟩ := expectAs_eq_ok h
  exact next?_eq_some_word hnext hkind

/-- A word that is seen is skipped by `bump`. -/
theorem reads_bump_of_seesWord {c : Cursor} {word : String} (h : c.seesWord word = true) :
    ∃ trivia, IsTrivia trivia ∧ IsWord word.toList ∧ StopsWord c.bump.rest ∧
      c.start = c.offset + byteLength trivia ∧ c.Reads (trivia ++ word.toList) c.bump := by
  obtain ⟨t, hpeek, hkind, htext⟩ := seesWord_iff.1 h
  rw [peek?, Option.map_eq_some_iff] at hpeek
  obtain ⟨⟨t', c'⟩, hnext, rfl⟩ := hpeek
  have hbump : c.bump = c' := by rw [bump, hnext]
  obtain ⟨trivia, w, htrivia, hw, hstop, hw', hstart, hreads⟩ := next?_eq_some_word hnext hkind
  obtain rfl : word = String.ofList w := htext.symm.trans hw'
  rw [hbump, String.toList_ofList]
  exact ⟨trivia, htrivia, hw, hstop, hstart, hreads⟩

/-- A sign that is ahead is skipped by `bump`. -/
theorem reads_bump_of_kindAhead {c : Cursor} {kind : Token.Kind} {s : Char}
    (h : kindAhead? c.rest = some kind) (hs : kind.sign? = some s) :
    ∃ trivia, IsTrivia trivia ∧ c.Reads (trivia ++ [s]) c.bump := by
  rw [kindAhead?_eq, peek?, Option.map_map, Option.map_eq_some_iff] at h
  obtain ⟨⟨t, c'⟩, hnext, hkind⟩ := h
  have hbump : c.bump = c' := by rw [bump, hnext]
  obtain ⟨trivia, htrivia, -, hreads⟩ := next?_eq_some_sign hnext
    (show t.kind.sign? = some s from (congrArg _ hkind).trans hs)
  exact ⟨trivia, htrivia, hbump ▸ hreads⟩

theorem kindAhead?_bump_of_seesKey {c : Cursor} {word : String} {kind : Token.Kind}
    (h : c.seesKey word kind = true) :
    c.seesWord word = true ∧ kindAhead? c.bump.rest = some kind := by
  rw [seesKey, Bool.and_eq_true, beq_iff_eq] at h
  refine ⟨h.1, ?_⟩
  have hkind := h.2
  rw [kindAhead?_eq, bump]
  rw [secondKind?] at hkind
  cases hnext : c.next? with
  | none =>
    rw [hnext] at hkind
    cases hkind
  | some p =>
    rw [hnext] at hkind
    exact hkind

/-- A key that is seen is skipped by two steps. -/
theorem reads_bump_of_seesKey {c : Cursor} {word : String} {kind : Token.Kind} {s : Char}
    (h : c.seesKey word kind = true) (hs : kind.sign? = some s) :
    ∃ trivia trivia', IsTrivia trivia ∧ IsTrivia trivia' ∧
      c.start = c.offset + byteLength trivia ∧
      c.Reads (trivia ++ (word.toList ++ (trivia' ++ [s]))) c.bump.bump := by
  obtain ⟨hword, hahead⟩ := kindAhead?_bump_of_seesKey h
  obtain ⟨trivia, htrivia, -, -, hstart, hreads⟩ := reads_bump_of_seesWord hword
  obtain ⟨trivia', htrivia', hreads'⟩ := reads_bump_of_kindAhead hahead hs
  exact ⟨trivia, trivia', htrivia, htrivia', hstart, by simpa using hreads.trans hreads'⟩

/-- A sign that touches the place is read without trivia. -/
theorem touches_iff {c : Cursor} {kind : Token.Kind} :
    c.touches kind = true ↔ kindAhead? c.rest = some kind ∧ c.start = c.offset := by
  rw [touches, Bool.and_eq_true, sees_iff, beq_iff_eq]

/-! ### Words that may come -/

section Ahead

variable {n : Nat} {trivia w r : List Char}

theorem seesWord_word (h : IsTrivia trivia) (hw : IsWord w) (hrest : StopsWord r)
    (word : String) :
    (⟨n, trivia ++ (w ++ r)⟩ : Cursor).seesWord word = (String.ofList w == word) := by
  simp [seesWord, peek?, next?_word h hw hrest]

theorem seesKey_word (h : IsTrivia trivia) (hw : IsWord w) (hrest : StopsWord r)
    (word : String) (kind : Token.Kind) :
    (⟨n, trivia ++ (w ++ r)⟩ : Cursor).seesKey word kind =
      (String.ofList w == word && kindAhead? r == some kind) := by
  have hahead := kindAhead?_eq ⟨n + byteLength trivia + byteLength w, r⟩
  rw [seesKey, seesWord_word h hw hrest, secondKind?, next?_word h hw hrest, hahead]
  rfl

theorem bump_word (h : IsTrivia trivia) (hw : IsWord w) (hrest : StopsWord r) :
    ∃ m, (⟨n, trivia ++ (w ++ r)⟩ : Cursor).bump = ⟨m, r⟩ :=
  ⟨_, by rw [bump, next?_word h hw hrest]⟩

theorem bump_sign (h : IsTrivia trivia) {κ : Token.Kind} {s : Char}
    (hs : κ.sign? = some s) :
    ∃ m, (⟨n, trivia ++ s :: r⟩ : Cursor).bump = ⟨m, r⟩ :=
  ⟨_, by rw [bump, next?_sign h hs]⟩

theorem seesWord_eq_false {c : Cursor} (h : kindAhead? c.rest ≠ some .word) (word : String) :
    c.seesWord word = false := by
  rw [Bool.eq_false_iff, Ne, seesWord_iff]
  rintro ⟨t, ht, hkind, -⟩
  rw [kindAhead?_eq, ht] at h
  exact h (congrArg some hkind)

theorem seesKey_eq_false {c : Cursor} {word : String} (h : c.seesWord word = false)
    (kind : Token.Kind) : c.seesKey word kind = false := by
  rw [seesKey, h, Bool.false_and]

theorem touches_eq_false {c : Cursor} {kind : Token.Kind} (h : kindAhead? c.rest ≠ some kind) :
    c.touches kind = false := by
  rw [touches, sees_eq_false h, Bool.false_and]

theorem touches_sign {kind : Token.Kind} {s : Char} (hs : kind.sign? = some s) :
    (⟨n, s :: r⟩ : Cursor).touches kind = true := by
  have hstart : (⟨n, s :: r⟩ : Cursor).start = n :=
    start_eq .nil (Token.Kind.isTrivia_ofChar_sign? hs) rfl
  rw [touches, sees_iff.2 (kindAhead?_sign hs r), hstart, beq_self_eq_true, Bool.true_and]

end Ahead

/-! ### A word with a sign behind it -/

section Keyed

variable {n : Nat} {trivia w trivia' r : List Char} {κ : Token.Kind} {s : Char}

theorem expectAs_keyed (h : IsTrivia trivia) (hw : IsWord w) (h' : IsTrivia trivia')
    (hs : κ.sign? = some s) (wanted : String) :
    ∃ t m t' m', (⟨n, trivia ++ (w ++ (trivia' ++ s :: r))⟩ : Cursor).expectAs .word wanted =
        .ok (t, ⟨m, trivia' ++ s :: r⟩) ∧ t.text = String.ofList w ∧
      (⟨m, trivia' ++ s :: r⟩ : Cursor).expect κ = .ok (t', ⟨m', r⟩) := by
  obtain ⟨t, m, hword, htext⟩ := expectAs_word (n := n) h hw (h'.stopsWord_sign hs r) wanted
  obtain ⟨t', m', hsign⟩ := expectAs_sign (n := m) (r := r) h' hs κ.describe
  exact ⟨t, m, t', m', hword, htext, hsign⟩

theorem seesKey_keyed (h : IsTrivia trivia) (hw : IsWord w) (h' : IsTrivia trivia')
    (hs : κ.sign? = some s) (word : String) :
    (⟨n, trivia ++ (w ++ (trivia' ++ s :: r))⟩ : Cursor).seesKey word κ =
      (String.ofList w == word) := by
  rw [seesKey_word h hw (h'.stopsWord_sign hs r), kindAhead?_append_sign h' hs, beq_self_eq_true,
    Bool.and_true]

theorem bump_bump_keyed (h : IsTrivia trivia) (hw : IsWord w) (h' : IsTrivia trivia')
    (hs : κ.sign? = some s) :
    ∃ m, (⟨n, trivia ++ (w ++ (trivia' ++ s :: r))⟩ : Cursor).bump.bump = ⟨m, r⟩ := by
  obtain ⟨m, hm⟩ := bump_word (n := n) h hw (h'.stopsWord_sign hs r)
  rw [hm]
  exact bump_sign h' hs

end Keyed

end Cursor

/-- Two steps succeed when both do. -/
theorem Except.bind_eq_ok {ε α β : Type} {x : Except ε α} {f : α → Except ε β} {b : β} :
    x >>= f = .ok b ↔ ∃ a, x = .ok a ∧ f a = .ok b := by
  cases x with
  | error e => simp [bind, Except.bind]
  | ok a => simp [bind, Except.bind]

end PolicyEditor
