import PolicyEditor.Token.Cursor

/-!
# Blanks and comments between tokens

A text is scanned with one bit of memory: whether the scan stands within a comment, which ends at
the next line feed.  A text is *trivia* when the scan meets only blanks and comments and ends
outside of a comment, so that whatever follows it is read as it would be without it.  A comment at
the end of a text is closed again by any following text that has a line feed.

## Main definitions

* `Text.commentAfter` : the scan ends within a comment.
* `Text.isQuiet` : the scan meets blanks and comments only.
* `IsTrivia` : a quiet text that ends outside of a comment.
* `Text.kindAhead?` : the kind of the first token behind blanks and comments.
* `IsWord` : a text that is one word.
-/

namespace PolicyEditor

namespace Text

/-- The scan stands within a comment behind the character `c`. -/
def commentStep (inComment : Bool) (c : Char) : Bool :=
  if inComment then c != '\n' else c == '#'

/-- The scan of a text ends within a comment, where `inComment` says how it starts. -/
def commentAfter (inComment : Bool) : List Char → Bool
  | [] => inComment
  | c :: cs => commentAfter (commentStep inComment c) cs

/-- The scan of a text meets blanks and comments only. -/
def isQuiet (inComment : Bool) : List Char → Bool
  | [] => true
  | c :: cs =>
    (inComment || (Token.Kind.ofChar c).isTrivia) && isQuiet (commentStep inComment c) cs

@[simp] theorem commentAfter_nil (s : Bool) : commentAfter s [] = s := rfl

@[simp] theorem isQuiet_nil (s : Bool) : isQuiet s [] = true := rfl

theorem commentAfter_append (s : Bool) (a b : List Char) :
    commentAfter s (a ++ b) = commentAfter (commentAfter s a) b := by
  induction a generalizing s with
  | nil => rfl
  | cons c a ih => exact ih _

theorem isQuiet_append (s : Bool) (a b : List Char) :
    isQuiet s (a ++ b) = (isQuiet s a && isQuiet (commentAfter s a) b) := by
  induction a generalizing s with
  | nil => rfl
  | cons c a ih => simp only [List.cons_append, isQuiet, commentAfter, ih, Bool.and_assoc]

/-- Behind a line feed it does not matter whether the text started within a comment. -/
theorem commentAfter_of_newline (s t : Bool) {b : List Char} (h : '\n' ∈ b) :
    commentAfter s b = commentAfter t b := by
  induction b generalizing s t with
  | nil => simp at h
  | cons c b ih =>
    by_cases hc : c = '\n'
    · subst hc
      cases s <;> cases t <;> rfl
    · exact ih _ _ (List.mem_of_ne_of_mem (Ne.symm hc) h)

theorem commentAfter_of_not_mem {text : List Char} (h : '#' ∉ text) :
    commentAfter false text = false := by
  induction text with
  | nil => rfl
  | cons c text ih =>
    rw [List.mem_cons, not_or] at h
    have hstep : commentStep false c = false := by simpa [commentStep] using Ne.symm h.1
    rw [commentAfter, hstep]
    exact ih h.2

/-- A quiet text stays quiet behind an open comment. -/
theorem isQuiet_of_comment {b : List Char} (h : isQuiet false b = true) (s : Bool) :
    isQuiet s b = true := by
  cases s with
  | false => exact h
  | true =>
    induction b with
    | nil => rfl
    | cons c b ih =>
      simp only [isQuiet, Bool.true_or, Bool.true_and, Bool.false_or, Bool.and_eq_true] at h ⊢
      by_cases hc : c = '\n'
      · subst hc
        exact h.2
      · have hstep : commentStep true c = true := by simpa [commentStep] using hc
        rw [hstep]
        cases hs : commentStep false c with
        | false => exact ih (by simpa [hs] using h.2)
        | true => simpa [hs] using h.2

/-- Within a comment, a text without a line feed is quiet and leaves the comment open. -/
theorem isQuiet_comment_line {b : List Char} (h : '\n' ∉ b) :
    isQuiet true b = true ∧ commentAfter true b = true := by
  induction b with
  | nil => exact ⟨rfl, rfl⟩
  | cons c b ih =>
    rw [List.mem_cons, not_or] at h
    have hstep : commentStep true c = true := by simpa [commentStep] using Ne.symm h.1
    simpa [isQuiet, commentAfter, hstep] using ih h.2

/-- A comment that is open behind a text is open there wherever the scan started. -/
theorem commentAfter_of_open {b : List Char} (h : commentAfter false b = true) (s : Bool) :
    commentAfter s b = true := by
  cases s with
  | false => exact h
  | true =>
    by_cases hline : '\n' ∈ b
    · rwa [commentAfter_of_newline true false hline]
    · exact (isQuiet_comment_line hline).2

end Text

open Text

/-- A text of blanks and comments that ends outside of a comment. -/
structure IsTrivia (text : List Char) : Prop where
  quiet : isQuiet false text = true
  closed : commentAfter false text = false

namespace IsTrivia

theorem nil : IsTrivia [] := ⟨rfl, rfl⟩

theorem space : IsTrivia [' '] := ⟨rfl, rfl⟩

theorem append {a b : List Char} (ha : IsTrivia a) (hb : IsTrivia b) : IsTrivia (a ++ b) where
  quiet := by rw [isQuiet_append, ha.quiet, ha.closed, hb.quiet, Bool.and_self]
  closed := by rw [commentAfter_append, ha.closed, hb.closed]

/-- A comment at the end of a quiet text is closed by trivia with a line feed. -/
theorem append_of_newline {a b : List Char} (ha : isQuiet false a = true) (hb : IsTrivia b)
    (h : commentAfter false a = true → '\n' ∈ b) : IsTrivia (a ++ b) where
  quiet := by rw [isQuiet_append, ha, isQuiet_of_comment hb.quiet, Bool.and_self]
  closed := by
    rw [commentAfter_append]
    cases hs : commentAfter false a with
    | false => exact hb.closed
    | true => rw [commentAfter_of_newline true false (h hs), hb.closed]

theorem of_blank {text : List Char} (h : ∀ c ∈ text, isBlank c = true) : IsTrivia text := by
  induction text with
  | nil => exact nil
  | cons c text ih =>
    have hc : isBlank c = true := h c List.mem_cons_self
    obtain ⟨hq, hs⟩ := ih fun d hd => h d (List.mem_cons_of_mem _ hd)
    have hkind : Token.Kind.ofChar c = .space := by simp [Token.Kind.ofChar, hc]
    have hstep : commentStep false c = false := by
      simp only [commentStep, Bool.false_eq_true, if_false, beq_eq_false_iff_ne]
      rintro rfl
      exact absurd hc (by decide)
    exact ⟨by simp [isQuiet, hkind, Token.Kind.isTrivia, hstep, hq],
      by simpa [commentAfter, hstep] using hs⟩

end IsTrivia

theorem splitTrivia_append_of_quiet {s : Bool} {a : List Char} (h : isQuiet s a = true)
    (b : List Char) :
    splitTrivia s (a ++ b) =
      (a ++ (splitTrivia (commentAfter s a) b).1, (splitTrivia (commentAfter s a) b).2) := by
  induction a generalizing s with
  | nil => rfl
  | cons c a ih =>
    simp only [isQuiet, Bool.and_eq_true] at h
    simp only [List.cons_append, splitTrivia, h.1, if_true]
    exact congrArg (fun p => (c :: p.1, p.2)) (ih h.2)

theorem splitTrivia_of_token {c : Char} (h : (Token.Kind.ofChar c).isTrivia = false)
    (cs : List Char) : splitTrivia false (c :: cs) = ([], c :: cs) := by
  simp [splitTrivia, h]

/-- Splitting finds the trivia in front of the first token. -/
theorem splitTrivia_spec {s : Bool} {t trivia rest : List Char}
    (h : splitTrivia s t = (trivia, rest)) :
    isQuiet s trivia = true ∧ t = trivia ++ rest ∧
      ∀ c ∈ rest.head?, commentAfter s trivia = false ∧
        (Token.Kind.ofChar c).isTrivia = false := by
  induction t generalizing s trivia with
  | nil =>
    cases h
    exact ⟨rfl, rfl, by simp⟩
  | cons c t ih =>
    rw [splitTrivia] at h
    split at h
    · next hc =>
      cases h
      obtain ⟨hq, heq, hrest⟩ := ih rfl
      exact ⟨by simp only [isQuiet, hc, Bool.true_and]; exact hq, congrArg (c :: ·) heq, hrest⟩
    · next hc =>
      cases h
      rw [Bool.or_eq_true, not_or, Bool.not_eq_true, Bool.not_eq_true] at hc
      refine ⟨rfl, rfl, fun d hd => ?_⟩
      cases hd
      exact ⟨hc.1, hc.2⟩

/-! ### The token ahead -/

namespace Text

/-- The kind of the first token behind the blanks and comments at the start of a text. -/
def kindAhead? (text : List Char) : Option Token.Kind :=
  (splitTrivia false text).2.head?.map Token.Kind.ofChar

theorem kindAhead?_append {trivia : List Char} (h : IsTrivia trivia) (text : List Char) :
    kindAhead? (trivia ++ text) = kindAhead? text := by
  rw [kindAhead?, splitTrivia_append_of_quiet h.quiet, h.closed, kindAhead?]

theorem kindAhead?_cons {c : Char} (h : (Token.Kind.ofChar c).isTrivia = false)
    (text : List Char) : kindAhead? (c :: text) = some (Token.Kind.ofChar c) := by
  rw [kindAhead?, splitTrivia_of_token h, List.head?_cons, Option.map_some]

/-- A text of blanks and comments has no token. -/
theorem kindAhead?_of_isQuiet {text : List Char} (h : isQuiet false text = true) :
    kindAhead? text = none := by
  have hsplit := splitTrivia_append_of_quiet h []
  rw [List.append_nil] at hsplit
  rw [kindAhead?, hsplit]
  rfl

/-- A text without a token is quiet. -/
theorem isQuiet_of_kindAhead {text : List Char} (h : kindAhead? text = none) :
    isQuiet false text = true ∧ (splitTrivia false text).1 = text := by
  obtain ⟨hquiet, htext, -⟩ := splitTrivia_spec (s := false) (t := text) rfl
  rw [kindAhead?, Option.map_eq_none_iff, List.head?_eq_none_iff] at h
  rw [h, List.append_nil] at htext
  exact ⟨by rwa [← htext] at hquiet, htext.symm⟩

theorem kindAhead?_eq_some {text : List Char} {kind : Token.Kind}
    (h : kindAhead? text = some kind) :
    ∃ trivia c rest, text = trivia ++ c :: rest ∧ IsTrivia trivia ∧ Token.Kind.ofChar c = kind ∧
      kind.isTrivia = false := by
  obtain ⟨hquiet, htext, hrest⟩ := splitTrivia_spec (s := false) (t := text) rfl
  rw [kindAhead?, Option.map_eq_some_iff] at h
  obtain ⟨c, hc, hkind⟩ := h
  obtain ⟨hclosed, htoken⟩ := hrest c hc
  obtain ⟨rest, hcons⟩ := List.head?_eq_some_iff.1 hc
  exact ⟨_, c, rest, hcons ▸ htext, ⟨hquiet, hclosed⟩, hkind, hkind ▸ htoken⟩

end Text

/-! ### Words -/

/-- A text that is a single word. -/
structure IsWord (text : List Char) : Prop where
  ne_nil : text ≠ []
  kind : ∀ c ∈ text, Token.Kind.ofChar c = .word

theorem isWord_iff {text : List Char} :
    IsWord text ↔ (!text.isEmpty && text.all (Token.Kind.ofChar · == .word)) = true := by
  simp only [Bool.and_eq_true, Bool.not_eq_true', List.isEmpty_eq_false_iff, List.all_eq_true,
    beq_iff_eq]
  exact ⟨fun h => ⟨h.ne_nil, h.kind⟩, fun h => ⟨h.1, h.2⟩⟩

instance (text : List Char) : Decidable (IsWord text) :=
  decidable_of_iff _ isWord_iff.symm

theorem IsWord.opensWord {w : List Char} (h : IsWord w) (text : List Char) :
    ∃ c ∈ (w ++ text).head?, Token.Kind.ofChar c = .word := by
  obtain ⟨c, w, rfl⟩ := List.exists_cons_of_ne_nil h.ne_nil
  exact ⟨c, rfl, h.kind c List.mem_cons_self⟩

/-- A word in front of this text ends where this text begins. -/
def StopsWord (text : List Char) : Prop :=
  ∀ c ∈ text.head?, Token.Kind.ofChar c ≠ .word

namespace StopsWord

theorem nil : StopsWord [] := by simp [StopsWord]

theorem of_kindAhead {text : List Char} (h : kindAhead? text ≠ some .word) : StopsWord text := by
  intro c hc hword
  obtain ⟨rest, rfl⟩ := List.head?_eq_some_iff.1 hc
  exact h (by rw [kindAhead?_cons (by rw [hword]; rfl), hword])

theorem append {a b : List Char} (ha : StopsWord a) (hb : a = [] → StopsWord b) :
    StopsWord (a ++ b) := by
  cases a with
  | nil => exact hb rfl
  | cons c a => exact fun d hd => ha d hd

theorem cons {c : Char} (h : Token.Kind.ofChar c ≠ .word) (text : List Char) :
    StopsWord (c :: text) := by
  intro d hd
  cases hd
  exact h

end StopsWord

theorem IsTrivia.stopsWord {a : List Char} (h : IsTrivia a) (hne : a ≠ []) (text : List Char) :
    StopsWord (a ++ text) := by
  obtain ⟨c, a, rfl⟩ := List.exists_cons_of_ne_nil hne
  refine .cons (fun hword => ?_) _
  have hquiet := h.quiet
  simp [isQuiet, hword, Token.Kind.isTrivia] at hquiet

/-- A word ends in front of trivia and what follows it, unless it goes on with what follows. -/
theorem IsTrivia.stopsWord_append {a text : List Char} (h : IsTrivia a) (htext : StopsWord text) :
    StopsWord (a ++ text) := by
  cases a with
  | nil => exact htext
  | cons c a => exact h.stopsWord (List.cons_ne_nil _ _) text

end PolicyEditor
