import PolicyEditor.Proofs.Grammar.Comments
import PolicyEditor.Proofs.Grammar.Values

/-!
# The tokens ahead of a cursor

A reader looks at the tokens that are neither blanks nor comments, one after the other.  The list of
these tokens ahead of a cursor starts with the next token, and the tokens ahead of the place behind
it follow.  So a text that is known piece by piece has the tokens of its pieces, and a list of
tokens that is known item by item has a text of such pieces.

Two tokens are adjacent if the second one has the offset at which the first one stops.  Then there
is no trivia between their texts.

## Main definitions

* `Cursor.tokens` : the tokens ahead of a place, without blanks and comments.

## Main results

* `Cursor.tokens_eq` : the next token is the first of the tokens ahead.
* `Cursor.tokens_lexeme` : the tokens of a text that starts with a known token.
* `Cursor.exists_of_tokens_cons` : the text in front of which a known token comes first.
-/

namespace PolicyEditor

open Text

/-! ### Splitting trivia off by tokens -/

theorem Token.Kind.isBlank_of_ofChar {c : Char} (h : ofChar c = .space) : isBlank c = true := by
  unfold ofChar at h
  split at h
  · assumption
  · split at h <;> cases h

/-- A comment or a run of blanks at the start of a text is part of its trivia. -/
theorem splitTrivia_lexeme {c : Char} (hc : (Token.Kind.ofChar c).isTrivia = true)
    (cs : List Char) :
    splitTrivia false (c :: cs) =
      (Token.lexeme c cs ++ (splitTrivia false (Token.remainder c cs)).1,
        (splitTrivia false (Token.remainder c cs)).2) := by
  rw [← Token.lexeme_append_remainder]
  cases hkind : Token.Kind.ofChar c with
  | space =>
    have hblank : ∀ d ∈ Token.lexeme c cs, isBlank d = true := by
      intro d hd
      rcases List.mem_cons.1 hd with rfl | hd
      · exact Token.Kind.isBlank_of_ofChar hkind
      · rw [hkind] at hd
        exact List.mem_takeWhile_imp hd
    have hlexeme := IsTrivia.of_blank hblank
    rw [splitTrivia_append_of_quiet hlexeme.quiet, hlexeme.closed]
  | comment =>
    obtain rfl := Token.Kind.ofChar_eq_comment.1 hkind
    have hline : '\n' ∉ cs.takeWhile (Token.Kind.ofChar '#').continues := fun hmem => by
      have hcontinues := List.mem_takeWhile_imp hmem
      rw [hkind] at hcontinues
      simp [Token.Kind.continues] at hcontinues
    have hopen := isQuiet_comment_line hline
    have hquiet : isQuiet false (Token.lexeme '#' cs) = true := by
      rw [Token.lexeme, isQuiet, hkind]
      exact hopen.1
    have hafter : commentAfter false (Token.lexeme '#' cs) = true := by
      rw [Token.lexeme, commentAfter]
      exact hopen.2
    rw [splitTrivia_append_of_quiet hquiet, hafter]
    -- Only a line feed ends the comment, which is trivia in either way.
    have hstop := Token.continues_head_remainder '#' cs
    rcases hremainder : Token.remainder '#' cs with - | ⟨d, ds⟩
    · rfl
    · rw [hremainder, hkind] at hstop
      obtain rfl : d = '\n' := by simpa [Token.Kind.continues] using hstop
      rfl
  | _ => rw [hkind] at hc; cases hc

namespace Cursor

/-- The tokens ahead of a place, without blanks and comments. -/
def tokens (c : Cursor) : List Token :=
  (Token.listFrom c.rest.length c.offset c.rest).filter (!·.kind.isTrivia)

theorem tokens_ofText (text : List Char) :
    (ofText text).tokens = (Token.ofText text).filter (!·.kind.isTrivia) := rfl

theorem tokens_cons (n : Nat) (d : Char) (ds : List Char) :
    (⟨n, d :: ds⟩ : Cursor).tokens =
      (if (Token.Kind.ofChar d).isTrivia then [] else [.starting n d ds]) ++
        (⟨n + byteLength (Token.lexeme d ds), Token.remainder d ds⟩ : Cursor).tokens := by
  rw [tokens, List.length_cons, Token.listFrom,
    Token.listFrom_eq (Token.length_remainder_le d ds) le_rfl, List.filter_cons]
  cases hd : (Token.Kind.ofChar d).isTrivia <;> simp [Token.starting, hd, tokens]

theorem next?_of_trivia {n : Nat} {d : Char} {ds : List Char}
    (hd : (Token.Kind.ofChar d).isTrivia = true) :
    (⟨n, d :: ds⟩ : Cursor).next? =
      (⟨n + byteLength (Token.lexeme d ds), Token.remainder d ds⟩ : Cursor).next? := by
  simp only [next?, skipTrivia, splitTrivia_lexeme hd, advance, byteLength_append, Nat.add_assoc]

/-- The next token is the first of the tokens ahead. -/
theorem tokens_eq (c : Cursor) :
    c.tokens = match c.next? with
      | none => []
      | some (t, c') => t :: c'.tokens := by
  obtain ⟨n, text⟩ := c
  induction hlength : text.length using Nat.strongRecOn generalizing n text with
  | ind length ih =>
    rcases text with - | ⟨d, ds⟩
    · rfl
    · rw [tokens_cons]
      cases hd : (Token.Kind.ofChar d).isTrivia with
      | true =>
        have hle := Token.length_remainder_le d ds
        rw [if_pos rfl, List.nil_append, next?_of_trivia hd]
        exact ih _ (by rw [← hlength, List.length_cons]; omega) _ _ rfl
      | false =>
        rw [next?, show (⟨n, d :: ds⟩ : Cursor).skipTrivia = ⟨n, d :: ds⟩ from
          skipTrivia_append .nil hd]
        rfl

theorem tokens_eq_nil {c : Cursor} : c.tokens = [] ↔ kindAhead? c.rest = none := by
  rw [← atEnd_iff, atEnd, tokens_eq]
  cases c.next? <;> simp

theorem next?_of_tokens {c : Cursor} {t : Token} {us : List Token} (h : c.tokens = t :: us) :
    ∃ c', c.next? = some (t, c') ∧ c'.tokens = us := by
  rw [tokens_eq] at h
  split at h
  · cases h
  · next c' hnext =>
    cases h
    exact ⟨c', hnext, rfl⟩

theorem kindAhead?_of_tokens {c : Cursor} {t : Token} {us : List Token} (h : c.tokens = t :: us) :
    kindAhead? c.rest = some t.kind := by
  obtain ⟨c', hnext, -⟩ := next?_of_tokens h
  rw [kindAhead?_eq, peek?, hnext]
  rfl

/-! ### The tokens of a known text -/

section Known

variable {c c' : Cursor}

theorem Reads.of_append {a b : List Char} (h : c.Reads (a ++ b) c') :
    ∃ c₁, c.Reads a c₁ ∧ c₁.Reads b c' :=
  ⟨⟨c.offset + byteLength a, b ++ c'.rest⟩, ⟨by rw [h.rest, List.append_assoc], rfl⟩,
    ⟨rfl, by rw [h.offset, byteLength_append, Nat.add_assoc]⟩⟩

theorem Reads.eq_of_rest {c'' : Cursor} {a b : List Char} (h : c.Reads a c') (h' : c.Reads b c'')
    (hrest : c'.rest = c''.rest) : c' = c'' := by
  have hab : a = b := List.append_cancel_right (h.rest.symm.trans (hrest ▸ h'.rest))
  have hoffset : c'.offset = c''.offset := by rw [h.offset, h'.offset, hab]
  cases c'
  cases c''
  cases hrest
  cases hoffset
  rfl

/-- Trivia has no tokens. -/
theorem tokens_trivia {trivia : List Char} (h : c.Reads trivia c') (htrivia : IsTrivia trivia) :
    c.tokens = c'.tokens := by
  have hnext : c.next? = c'.next? := by
    simp only [next?, skipTrivia, h.rest, h.offset, splitTrivia_append_of_quiet htrivia.quiet,
      htrivia.closed, advance, byteLength_append, Nat.add_assoc]
  rw [tokens_eq, hnext, ← tokens_eq]

/-- A text that starts with a token behind trivia has this token, and the tokens behind it. -/
theorem tokens_lexeme {q l r : List Char} {κ : Token.Kind}
    (h : c.Reads (q ++ (l ++ r)) c') (htrivia : IsTrivia q)
    (hlexeme : IsLexeme κ l (r ++ c'.rest)) :
    ∃ (t : Token) (c₁ : Cursor), c.tokens = t :: c₁.tokens ∧ t.kind = κ ∧
      t.text = String.ofList l ∧ t.offset = c.offset + byteLength q ∧
      c₁.offset = t.stop ∧ c₁.Reads r c' := by
  have hnext := next?_lexeme (n := c.offset) htrivia hlexeme
  have hrest : c.rest = q ++ (l ++ (r ++ c'.rest)) := by simpa using h.rest
  rw [← hrest] at hnext
  refine ⟨⟨κ, String.ofList l, c.offset + byteLength q⟩,
    ⟨c.offset + byteLength q + byteLength l, r ++ c'.rest⟩,
    ?_, rfl, rfl, rfl, ?_, rfl, ?_⟩
  · rw [tokens_eq, hnext]
  · simp [Token.stop]
  · simp only [h.offset, byteLength_append, Nat.add_assoc]

theorem tokens_sign {q r : List Char} {κ : Token.Kind} {s : Char}
    (h : c.Reads (q ++ s :: r) c') (htrivia : IsTrivia q) (hs : κ.sign? = some s) :
    ∃ (t : Token) (c₁ : Cursor), c.tokens = t :: c₁.tokens ∧ t.kind = κ ∧
      t.offset = c.offset + byteLength q ∧ c₁.offset = t.stop ∧ c₁.Reads r c' := by
  obtain ⟨t, c₁, htokens, hkind, -, hrest⟩ := tokens_lexeme (l := [s]) h htrivia (.sign _ hs)
  exact ⟨t, c₁, htokens, hkind, hrest⟩

theorem tokens_word {q w r : List Char} (h : c.Reads (q ++ (w ++ r)) c')
    (htrivia : IsTrivia q) (hw : IsWord w) (hstop : StopsWord (r ++ c'.rest)) :
    ∃ (t : Token) (c₁ : Cursor), c.tokens = t :: c₁.tokens ∧ t.kind = .word ∧
      t.text = String.ofList w ∧ t.offset = c.offset + byteLength q ∧ c₁.offset = t.stop ∧
      c₁.Reads r c' :=
  tokens_lexeme h htrivia (.word hw hstop)

/-- A word with a sign behind it has both as its tokens. -/
theorem tokens_keyed {a w b r : List Char} {κ : Token.Kind} {s : Char}
    (h : c.Reads (a ++ (w ++ (b ++ s :: r))) c') (ha : IsTrivia a) (hw : IsWord w)
    (hb : IsTrivia b) (hs : κ.sign? = some s) :
    ∃ (t t' : Token) (c₁ : Cursor), c.tokens = t :: t' :: c₁.tokens ∧ t.kind = .word ∧
      t.text = String.ofList w ∧ t'.kind = κ ∧ c₁.Reads r c' := by
  have hstop : StopsWord (b ++ s :: r ++ c'.rest) := by
    rw [List.append_assoc]
    exact hb.stopsWord_sign hs (r ++ c'.rest)
  obtain ⟨t, c₁, htokens, hword, htext, -, -, hreads⟩ := tokens_word h ha hw hstop
  obtain ⟨t', c₂, htokens', hsign, -, -, hreads⟩ := tokens_sign hreads hb hs
  exact ⟨t, t', c₂, by rw [htokens, htokens'], hword, htext, hsign, hreads⟩

/-- A text that is a single word has this word as its only token. -/
theorem tokens_lastWord {w : List Char} (h : c.Reads w c') (hw : IsWord w)
    (hstop : StopsWord c'.rest) : ∃ t : Token, c.tokens = t :: c'.tokens ∧ t.kind = .word ∧
      t.text = String.ofList w := by
  obtain ⟨t, c₁, htokens, hkind, htext, -, -, hrest⟩ :=
    tokens_word (q := []) (r := []) (by simpa using h) .nil hw hstop
  exact ⟨t, tokens_trivia hrest .nil ▸ htokens, hkind, htext⟩

end Known

/-! ### The text of known tokens -/

section Tokens

variable {c : Cursor} {t : Token} {us : List Token}

/-- The first token ahead has a text behind trivia, and the other tokens are ahead behind it. -/
theorem exists_of_tokens_cons (h : c.tokens = t :: us) :
    ∃ trivia lexeme c', IsTrivia trivia ∧ IsLexeme t.kind lexeme c'.rest ∧
      t.text = String.ofList lexeme ∧ t.offset = c.offset + byteLength trivia ∧
      c'.offset = t.stop ∧ c.Reads (trivia ++ lexeme) c' ∧ c'.tokens = us := by
  obtain ⟨c', hnext, hrest⟩ := next?_of_tokens h
  obtain ⟨trivia, lexeme, htrivia, hlexeme, htext, hstart, hreads⟩ := next?_eq_some hnext
  have hoffset : t.offset = c.start := by
    rw [next?] at hnext
    split at hnext
    · cases hnext
    · cases hnext
      rfl
  refine ⟨trivia, lexeme, c', htrivia, hlexeme, htext, hoffset.trans hstart, ?_, hreads, hrest⟩
  rw [hreads.offset, byteLength_append, Token.stop, hoffset, hstart, htext, String.toList_ofList,
    Nat.add_assoc]

theorem exists_of_tokens_sign (h : c.tokens = t :: us) {s : Char} (hs : t.kind.sign? = some s) :
    ∃ trivia c', IsTrivia trivia ∧ t.offset = c.offset + byteLength trivia ∧ c'.offset = t.stop ∧
      c.Reads (trivia ++ [s]) c' ∧ c'.tokens = us := by
  obtain ⟨trivia, lexeme, c', htrivia, hlexeme, -, hoffset, hstop, hreads, hrest⟩ :=
    exists_of_tokens_cons h
  generalize t.kind = kind at hlexeme hs
  cases hlexeme with
  | word => cases hs
  | sign _ hs' =>
    cases hs'.symm.trans hs
    exact ⟨trivia, c', htrivia, hoffset, hstop, hreads, hrest⟩

theorem exists_of_tokens_word (h : c.tokens = t :: us) (ht : t.kind = .word) :
    ∃ trivia w c', IsTrivia trivia ∧ IsWord w ∧ t.text = String.ofList w ∧
      t.offset = c.offset + byteLength trivia ∧ c'.offset = t.stop ∧ c.Reads (trivia ++ w) c' ∧
      c'.tokens = us := by
  obtain ⟨trivia, lexeme, c', htrivia, hlexeme, htext, hoffset, hstop, hreads, hrest⟩ :=
    exists_of_tokens_cons h
  rw [ht] at hlexeme
  cases hlexeme with
  | word hw => exact ⟨trivia, lexeme, c', htrivia, hw, htext, hoffset, hstop, hreads, hrest⟩
  | sign _ hs => cases hs

theorem exists_of_tokens_keyed {t' : Token} (h : c.tokens = t :: t' :: us) (ht : t.kind = .word)
    {s : Char} (hs : t'.kind.sign? = some s) :
    ∃ a w b c', IsTrivia a ∧ IsWord w ∧ t.text = String.ofList w ∧ IsTrivia b ∧
      c.Reads (a ++ (w ++ (b ++ [s]))) c' ∧ c'.tokens = us := by
  obtain ⟨a, w, c₁, ha, hw, htext, -, -, hreads₁, hrest⟩ := exists_of_tokens_word h ht
  obtain ⟨b, c₂, hb, -, -, hreads₂, hrest⟩ := exists_of_tokens_sign hrest hs
  exact ⟨a, w, b, c₂, ha, hw, htext, hb, by simpa using hreads₁.trans hreads₂, hrest⟩

/-- There is no trivia in front of a token that starts right here. -/
theorem reads_of_tokens_sign (h : c.tokens = t :: us) (hdirect : t.offset = c.offset) {s : Char}
    (hs : t.kind.sign? = some s) : ∃ c', c'.offset = t.stop ∧ c.Reads [s] c' ∧ c'.tokens = us := by
  obtain ⟨trivia, c', -, hoffset, hstop, hreads, hrest⟩ := exists_of_tokens_sign h hs
  obtain rfl : trivia = [] := eq_nil_of_byteLength (by omega)
  exact ⟨c', hstop, hreads, hrest⟩

theorem reads_of_tokens_word (h : c.tokens = t :: us) (ht : t.kind = .word)
    (hdirect : t.offset = c.offset) :
    ∃ w c', IsWord w ∧ t.text = String.ofList w ∧ c'.offset = t.stop ∧ c.Reads w c' ∧
      c'.tokens = us := by
  obtain ⟨trivia, w, c', -, hw, htext, hoffset, hstop, hreads, hrest⟩ := exists_of_tokens_word h ht
  obtain rfl : trivia = [] := eq_nil_of_byteLength (by omega)
  exact ⟨w, c', hw, htext, hstop, hreads, hrest⟩

end Tokens

end Cursor

end PolicyEditor
