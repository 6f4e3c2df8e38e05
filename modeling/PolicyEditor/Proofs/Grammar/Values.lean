import PolicyEditor.Proofs.Grammar.Lists

/-!
# Texts of values

A value is a run of tokens that ends in front of a comma or semicolon outside of brackets.  Its
content is the text of the run with the blanks and comments inside, so a value is read as the same
text in every place.

## Main definitions

* `Value.step?` : the number of open brackets behind a token, unless the token ends the value.
* `Value.Run` : a text of tokens after which all brackets are closed.
* `Value.Spells` : the text of a value.

## Main results

* `Value.readText_accepts` : the text of a value is read.
* `Value.readText_recovers` : whatever is read in front of a comma or semicolon is such a text.
-/

namespace PolicyEditor

open Text

theorem IsLexeme.append {kind : Token.Kind} {lexeme rest : List Char}
    (h : IsLexeme kind lexeme rest) {text : List Char} (htext : rest = [] → StopsWord text) :
    IsLexeme kind lexeme (rest ++ text) := by
  cases h with
  | word hw hrest => exact .word hw (hrest.append htext)
  | sign _ hs => exact .sign _ hs

theorem IsLexeme.of_append {kind : Token.Kind} {lexeme rest text : List Char}
    (h : IsLexeme kind lexeme (rest ++ text)) : IsLexeme kind lexeme rest := by
  cases h with
  | word hw hrest =>
    refine .word hw ?_
    cases rest with
    | nil => exact .nil
    | cons c rest => exact fun d hd => hrest d hd
  | sign _ hs => exact .sign _ hs

theorem IsLexeme.head {kind : Token.Kind} {lexeme rest : List Char}
    (h : IsLexeme kind lexeme rest) :
    ∃ c cs, lexeme = c :: cs ∧ Token.Kind.ofChar c = kind ∧ kind.isTrivia = false := by
  cases h with
  | word hw hrest =>
    obtain ⟨c, cs, rfl⟩ := List.exists_cons_of_ne_nil hw.ne_nil
    exact ⟨c, cs, rfl, hw.kind c List.mem_cons_self, rfl⟩
  | @sign _ s _ hs =>
    exact ⟨s, [], rfl, Token.Kind.ofChar_of_sign? hs, Token.Kind.isTrivia_of_sign? hs⟩

theorem Cursor.next?_lexeme {n : Nat} {trivia lexeme rest : List Char} {kind : Token.Kind}
    (h : IsTrivia trivia) (hlexeme : IsLexeme kind lexeme rest) :
    (⟨n, trivia ++ (lexeme ++ rest)⟩ : Cursor).next? =
      some (⟨kind, String.ofList lexeme, n + byteLength trivia⟩,
        ⟨n + byteLength trivia + byteLength lexeme, rest⟩) := by
  cases hlexeme with
  | word hw hrest => exact next?_word h hw hrest
  | sign _ hs => exact next?_sign h hs

namespace Value

/-- The number of open brackets behind a token that belongs to a value. -/
def step? (depth : Nat) : Token.Kind → Option Nat
  | .word | .ampersand | .bang => some depth
  | .openBracket => some (depth + 1)
  | .closeBracket => if depth = 0 then none else some (depth - 1)
  | .comma | .semicolon | .equals => if depth = 0 then none else some depth
  | _ => none

theorem skip_succ (limit depth : Nat) (c : Cursor) :
    skip (limit + 1) depth c =
      match c.next? with
      | none => c
      | some (t, c') =>
        match step? depth t.kind with
        | some depth' => skip limit depth' c'
        | none => c := by
  rw [skip]
  cases c.next? with
  | none => rfl
  | some p =>
    dsimp only
    cases p.1.kind <;> first | rfl | (simp only [step?]; split <;> rfl)

/-- A text of tokens, read with `depth` open brackets, after which all brackets are closed. -/
inductive Run : Nat → List Char → Prop
  | nil : Run 0 []
  | token {depth depth' : Nat} {trivia lexeme rest : List Char} {kind : Token.Kind}
    (htrivia : IsTrivia trivia) (hlexeme : IsLexeme kind lexeme rest)
    (hstep : step? depth kind = some depth') (h : Run depth' rest) :
    Run depth (trivia ++ (lexeme ++ rest))

/-- The text of a value starts with a token and is its content. -/
structure Spells (text : List Char) (value : String) : Prop where
  run : Run 0 text
  opens : ∃ c ∈ text.head?, (step? 0 (Token.Kind.ofChar c)).isSome
  eq : value = String.ofList text

theorem Spells.opensWithout {text : List Char} {value : String} (h : Spells text value)
    {κ : Token.Kind} (hkind : step? 0 κ = none) : OpensWithout κ text := by
  obtain ⟨c, hc, hstep⟩ := h.opens
  refine ⟨c, hc, ?_, ?_⟩
  · cases hk : Token.Kind.ofChar c <;> first | rfl | (rw [hk] at hstep; cases hstep)
  · rintro rfl
    rw [hkind] at hstep
    cases hstep

theorem step?_zero_of_endsEntry {kind : Token.Kind} {rest : List Char}
    (h : Layout.EndsEntry .semicolon rest) (hkind : kindAhead? rest = some kind) :
    step? 0 kind = none := by
  rcases h with h | h <;> (rw [hkind] at h; cases h; rfl)

theorem stopsWord_of_endsEntry {rest : List Char} (h : Layout.EndsEntry .semicolon rest) :
    StopsWord rest := by
  refine .of_kindAhead ?_
  rcases h with h | h <;> rw [h] <;> decide

/-- A run is skipped up to the comma or semicolon behind it. -/
theorem skip_run {depth : Nat} {text : List Char} (h : Run depth text) {rest : List Char}
    (hrest : Layout.EndsEntry .semicolon rest) {limit : Nat} (hlimit : text.length < limit)
    (n : Nat) : skip limit depth ⟨n, text ++ rest⟩ = ⟨n + byteLength text, rest⟩ := by
  induction h generalizing limit n with
  | nil =>
    obtain ⟨limit, rfl⟩ : ∃ k, limit = k + 1 := ⟨limit - 1, by omega⟩
    have hahead := Cursor.kindAhead?_eq ⟨n, rest⟩
    rw [skip_succ, List.nil_append]
    cases hnext : (⟨n, rest⟩ : Cursor).next? with
    | none => rfl
    | some p =>
      rw [Cursor.peek?, hnext] at hahead
      simp only [step?_zero_of_endsEntry hrest hahead]
      rfl
  | @token depth depth' trivia lexeme text kind htrivia hlexeme hstep _ ih =>
    obtain ⟨limit, rfl⟩ : ∃ k, limit = k + 1 := ⟨limit - 1, by omega⟩
    obtain ⟨c, cs, hcons, -, -⟩ := hlexeme.head
    have hlength : text.length < limit := by
      simp only [List.length_append, hcons, List.length_cons] at hlimit
      omega
    have hnext := Cursor.next?_lexeme (n := n) htrivia
      (hlexeme.append fun _ => stopsWord_of_endsEntry hrest)
    rw [skip_succ, List.append_assoc, List.append_assoc, hnext]
    simp only [hstep, ih hlength]
    rw [byteLength_append, byteLength_append, Nat.add_assoc, Nat.add_assoc]

/-- Trivia in front of a run is part of it. -/
theorem Run.prepend {depth : Nat} {text trivia : List Char} (h : Run depth text)
    (htrivia : IsTrivia trivia) (hne : text ≠ []) : Run depth (trivia ++ text) := by
  cases h with
  | nil => exact (hne rfl).elim
  | token htrivia' hlexeme hstep h =>
    rw [← List.append_assoc]
    exact .token (htrivia.append htrivia') hlexeme hstep h

/-- The text of a value is read in front of a comma or semicolon. -/
theorem readText_accepts {text : List Char} {value : String} (h : Spells text value) :
    Accepts readText text (Layout.EndsEntry .semicolon) (· = value) := by
  intro n trivia rest htrivia hrest
  obtain ⟨c, hc, hopens⟩ := h.opens
  obtain ⟨cs, hcs⟩ := List.head?_eq_some_iff.1 hc
  have hne : text ≠ [] := by rw [hcs]; exact List.cons_ne_nil _ _
  have htoken : (Token.Kind.ofChar c).isTrivia = false := by
    cases hk : Token.Kind.ofChar c <;> first | rfl | (rw [hk] at hopens; cases hopens)
  have hlimit : (trivia ++ text).length < (trivia ++ (text ++ rest)).length := by
    rcases hrest with hrest | hrest <;>
    · obtain ⟨a, d, b, heq, -⟩ := kindAhead?_eq_some hrest
      rw [heq]
      simp only [List.length_append, List.length_cons]
      omega
  have hskip := skip_run (h.run.prepend htrivia hne) hrest hlimit n
  rw [List.append_assoc] at hskip
  have hstart : (⟨n, trivia ++ (text ++ rest)⟩ : Cursor).skipTrivia =
      ⟨n + byteLength trivia, text ++ rest⟩ := by
    rw [hcs]
    exact Cursor.skipTrivia_append htrivia htoken
  have hpos : 0 < byteLength text := Nat.pos_of_ne_zero fun h0 => hne (eq_nil_of_byteLength h0)
  refine ⟨value, n + byteLength (trivia ++ text), ?_, rfl⟩
  simp only [readText, hskip, hstart, Cursor.textTo]
  rw [if_neg (by rw [byteLength_append]; omega), h.eq]
  simp

/-- What is skipped in front of a comma or semicolon is a run. -/
theorem run_of_skip {limit depth : Nat} {c : Cursor} (hlimit : c.rest.length ≤ limit)
    (h : Layout.EndsEntry .semicolon (skip limit depth c).rest) :
    ∃ text, c.Reads text (skip limit depth c) ∧ Run depth text := by
  have hnil {c : Cursor} (hnext : c.next? = none) :
      ¬ Layout.EndsEntry .semicolon c.rest := by
    have hahead := Cursor.kindAhead?_eq c
    rw [Cursor.peek?, hnext] at hahead
    rintro (h | h) <;> (rw [hahead] at h; cases h)
  induction limit generalizing depth c with
  | zero =>
    have hrest : c.rest = [] := List.eq_nil_of_length_eq_zero (by omega)
    rcases h with h | h <;> (rw [skip, hrest] at h; cases h)
  | succ limit ih =>
    rw [skip_succ] at h ⊢
    cases hnext : c.next? with
    | none =>
      rw [hnext] at h
      exact (hnil hnext h).elim
    | some p =>
      obtain ⟨t, c'⟩ := p
      rw [hnext] at h
      obtain ⟨trivia, lexeme, htrivia, hlexeme, -, -, hreads⟩ := Cursor.next?_eq_some hnext
      dsimp only at h ⊢
      cases hstep : step? depth t.kind with
      | none =>
        rw [hstep] at h
        have hahead := Cursor.kindAhead?_eq c
        rw [Cursor.peek?, hnext] at hahead
        dsimp only at h ⊢
        have hdepth : depth = 0 := by
          rcases h with h | h <;>
          · have hkind : t.kind = _ := Option.some.inj (hahead.symm.trans h)
            rw [hkind, step?] at hstep
            by_contra hne
            rw [if_neg hne] at hstep
            cases hstep
        exact ⟨[], .refl c, hdepth ▸ .nil⟩
      | some depth' =>
        rw [hstep] at h
        dsimp only at h ⊢
        have hlength : c'.rest.length ≤ limit := by
          obtain ⟨d, ds, hcons, -⟩ := hlexeme.head
          have := congrArg List.length hreads.rest
          simp only [List.length_append, hcons, List.length_cons] at this
          omega
        obtain ⟨text, hreads', hrun⟩ := ih hlength h
        have hlexeme' : IsLexeme t.kind lexeme text := by
          rw [hreads'.rest] at hlexeme
          exact hlexeme.of_append
        refine ⟨_, hreads.trans hreads', ?_⟩
        rw [List.append_assoc]
        exact .token htrivia hlexeme' hstep hrun

/-- A value that was read in front of a comma or semicolon. -/
theorem readText_recovers {c c' : Cursor} {value : String}
    (h : readText c = .ok (value, c')) (hrest : Layout.EndsEntry .semicolon c'.rest) :
    ∃ trivia text, IsTrivia trivia ∧ c.Reads (trivia ++ text) c' ∧ Spells text value := by
  simp only [readText] at h
  split at h
  · cases h
  · next hne =>
    cases h
    obtain ⟨text, hreads, hrun⟩ := run_of_skip (Nat.le_refl _) hrest
    cases hrun with
    | nil => exact absurd hreads.offset (by simpa using hne)
    | @token _ depth' trivia lexeme rest kind htrivia hlexeme hstep hrun =>
      obtain ⟨d, ds, hcons, hkind, htoken⟩ := hlexeme.head
      have hspells := Run.token IsTrivia.nil hlexeme hstep hrun
      refine ⟨trivia, lexeme ++ rest, htrivia, hreads, hspells, ?_, ?_⟩
      · exact ⟨d, by rw [hcons]; rfl, by rw [hkind, hstep]; rfl⟩
      · generalize skip c.rest.length 0 c = c' at hreads
        obtain ⟨n, text⟩ := c
        obtain rfl : text = trivia ++ (lexeme ++ rest) ++ c'.rest := hreads.rest
        have hstart : (⟨n, trivia ++ (lexeme ++ rest) ++ c'.rest⟩ : Cursor).skipTrivia =
            ⟨n + byteLength trivia, lexeme ++ rest ++ c'.rest⟩ := by
          rw [hcons]
          simp only [List.append_assoc, List.cons_append]
          exact Cursor.skipTrivia_append htrivia (hkind ▸ htoken)
        have hlength : (lexeme ++ rest ++ c'.rest).length - c'.rest.length =
            (lexeme ++ rest).length := by
          rw [List.length_append, Nat.add_sub_cancel]
        rw [Cursor.textTo, hstart, hlength, List.take_left]

end Value

end PolicyEditor
