import Mathlib.Algebra.GroupWithZero.Nat
import PolicyEditor.Proofs.Grammar.Lists

/-!
# The weight of a text

A weight counts the characters of the tokens of a text.  Blanks, comments and commas weigh nothing,
so two texts of the same content have the same weight.  On the other hand a text weighs less when a
comment runs into it or when its first word grows together with the word in front.  So a printed
text that has lost something can be told from its weight alone.

## Main definitions

* `Scan` : whether a scan stands between tokens, in a word or in a comment.
* `Weight`, `Weight.text` : how much a text weighs.
* `Weight.Weighs`, `Weight.Closes` : the weight of a text that does not end in a comment.

## Main results

* `Weight.text_append_le` : a text weighs at most as much as its parts.
* `Weight.text_comment_lt` : a text weighs less within a comment.
* `Weight.weighs_separated`, `Weight.closes_strung` : lists weigh as much as their items.
-/

namespace PolicyEditor

open Text

/-! ### Scans -/

/-- Where a scan of a text stands. -/
inductive Scan where
  | between
  | word
  | comment
deriving DecidableEq

namespace Scan

/-- Where the scan stands behind a character outside of a comment. -/
def start (c : Char) : Scan :=
  match Token.Kind.ofChar c with
  | .comment => comment
  | .word => word
  | _ => between

/-- Where the scan stands behind a character. -/
def step : Scan → Char → Scan
  | comment, c => if c = '\n' then between else comment
  | _, c => start c

/-- Where the scan stands behind a text. -/
def after (s : Scan) (text : List Char) : Scan :=
  text.foldl step s

@[simp] theorem after_nil (s : Scan) : s.after [] = s := rfl

@[simp] theorem after_cons (s : Scan) (c : Char) (text : List Char) :
    s.after (c :: text) = (s.step c).after text := rfl

theorem after_append (s : Scan) (a b : List Char) : s.after (a ++ b) = (s.after a).after b :=
  List.foldl_append

/-- Outside of a comment the place of a scan depends on the text behind it only. -/
theorem after_eq_between {s : Scan} (h : s ≠ comment) {text : List Char} (hne : text ≠ []) :
    s.after text = between.after text := by
  obtain ⟨c, text, rfl⟩ := List.exists_cons_of_ne_nil hne
  cases s with
  | comment => exact absurd rfl h
  | _ => rfl

/-- A scan enters and leaves comments as told by `commentStep`. -/
theorem step_beq_comment (s : Scan) (c : Char) :
    (s.step c == comment) = commentStep (s == comment) c := by
  have hstart : (start c == comment) = (c == '#') := by
    rw [Bool.eq_iff_iff, beq_iff_eq, beq_iff_eq, ← Token.Kind.ofChar_eq_comment, start]
    cases Token.Kind.ofChar c <;> decide
  cases s with
  | comment => by_cases hc : c = '\n' <;> simp [step, commentStep, hc]
  | _ => exact hstart

/-- A scan ends in a comment as told by `commentAfter`. -/
theorem after_beq_comment (s : Scan) (text : List Char) :
    (s.after text == comment) = commentAfter (s == comment) text := by
  induction text generalizing s with
  | nil => rfl
  | cons c text ih => rw [after_cons, ih, commentAfter, step_beq_comment]

theorem after_of_commentAfter {text : List Char} (h : commentAfter false text = true) (s : Scan) :
    s.after text = comment := by
  rw [← beq_iff_eq, after_beq_comment]
  exact commentAfter_of_open h _

/-- No word goes on behind a quiet text. -/
theorem after_quiet {s : Scan} (hs : s ≠ word) {text : List Char}
    (h : isQuiet (s == comment) text = true) : s.after text ≠ word := by
  induction text generalizing s with
  | nil => exact hs
  | cons c text ih =>
    rw [isQuiet, Bool.and_eq_true] at h
    refine ih ?_ (step_beq_comment s c ▸ h.2)
    cases s with
    | word => exact absurd rfl hs
    | comment => by_cases hc : c = '\n' <;> simp [step, hc]
    | between =>
      have hc := h.1
      simp only [step, start]
      cases hkind : Token.Kind.ofChar c <;> simp_all [Token.Kind.isTrivia]

theorem after_trivia {text : List Char} (h : IsTrivia text) : between.after text = between := by
  have hcomment : between.after text ≠ comment := by
    rw [← beq_eq_false_iff_ne, after_beq_comment]
    exact h.closed
  have hword : between.after text ≠ word := after_quiet (by decide) h.quiet
  cases hs : between.after text with
  | between => rfl
  | word => exact absurd hs hword
  | comment => exact absurd hs hcomment

end Scan

/-! ### Weights -/

/-- How much words and characters weigh. -/
structure Weight where
  /-- The weight of the beginning of a word. -/
  word : Nat
  /-- The weight of a character of a token. -/
  char : Char → Nat

namespace Weight

variable (m : Weight)

/-- The weight of a character behind a place. -/
def cost : Scan → Char → Nat
  | .comment, _ => 0
  | s, c =>
    match Token.Kind.ofChar c with
    | .space | .comment | .comma => 0
    | .word => (if s = .between then m.word else 0) + m.char c
    | _ => m.char c

/-- The weight of a text behind a place. -/
def text : Scan → List Char → Nat
  | _, [] => 0
  | s, c :: cs => m.cost s c + text (s.step c) cs

@[simp] theorem text_nil (s : Scan) : m.text s [] = 0 := rfl

theorem text_cons (s : Scan) (c : Char) (cs : List Char) :
    m.text s (c :: cs) = m.cost s c + m.text (s.step c) cs := rfl

theorem text_append (s : Scan) (a b : List Char) :
    m.text s (a ++ b) = m.text s a + m.text (s.after a) b := by
  induction a generalizing s with
  | nil => simp
  | cons c a ih => rw [List.cons_append, text_cons, text_cons, ih, Scan.after_cons, Nat.add_assoc]

/-- Behind a line feed it does not matter where the scan stood. -/
theorem text_newline (s : Scan) (cs : List Char) : m.text s ('\n' :: cs) = m.text .between cs := by
  cases s <;> exact Nat.zero_add _

/-- A text weighs least within a comment. -/
theorem text_comment_le (s : Scan) (t : List Char) : m.text .comment t ≤ m.text s t := by
  induction t generalizing s with
  | nil => exact Nat.le_refl _
  | cons c t ih =>
    by_cases hc : c = '\n'
    · rw [hc, text_newline, text_newline]
    · have hstep : Scan.comment.step c = .comment := if_neg hc
      rw [text_cons, text_cons, hstep]
      exact Nat.add_le_add (Nat.zero_le _) (ih _)

/-- A text weighs most between tokens. -/
theorem text_le_between (s : Scan) (t : List Char) : m.text s t ≤ m.text .between t := by
  cases s with
  | between => exact Nat.le_refl _
  | comment => exact m.text_comment_le _ t
  | word =>
    cases t with
    | nil => exact Nat.le_refl _
    | cons c t =>
      refine Nat.add_le_add_right ?_ _
      simp only [cost]
      cases Token.Kind.ofChar c <;> simp

/-- A text weighs at most as much as its parts. -/
theorem text_append_le (s : Scan) (a b : List Char) :
    m.text s (a ++ b) ≤ m.text s a + m.text .between b := by
  rw [text_append]
  exact Nat.add_le_add_left (m.text_le_between _ b) _

/-- In front of a text that does not go on with a word it does not matter whether there is one. -/
theorem text_word {t : List Char} (h : StopsWord t) : m.text .word t = m.text .between t := by
  cases t with
  | nil => rfl
  | cons c t =>
    have hc := h c rfl
    refine congrArg (· + m.text (Scan.start c) t) ?_
    simp only [cost]
    cases hkind : Token.Kind.ofChar c <;> first | rfl | exact absurd hkind hc

theorem text_of_stopsWord {s : Scan} (hs : s ≠ .comment) {t : List Char} (h : StopsWord t) :
    m.text s t = m.text .between t := by
  cases s with
  | between => rfl
  | word => exact m.text_word h
  | comment => exact absurd rfl hs

/-- A quiet text weighs nothing. -/
theorem text_quiet {s : Scan} {t : List Char} (h : isQuiet (s == .comment) t = true) :
    m.text s t = 0 := by
  induction t generalizing s with
  | nil => rfl
  | cons c t ih =>
    rw [isQuiet, Bool.and_eq_true] at h
    rw [text_cons, ih (Scan.step_beq_comment s c ▸ h.2), Nat.add_zero]
    cases s with
    | comment => rfl
    | _ =>
      have hc := h.1
      simp only [cost]
      cases hkind : Token.Kind.ofChar c <;> simp_all [Token.Kind.isTrivia]

/-- A quiet text weighs nothing wherever it stands. -/
theorem text_eq_zero (s : Scan) {t : List Char} (h : isQuiet false t = true) : m.text s t = 0 :=
  m.text_quiet (isQuiet_of_comment h _)

/-- The weight of a token of one character. -/
def sign (c : Char) : Nat :=
  m.cost .between c

theorem sign_comma : m.sign ',' = 0 := rfl

/-! ### Texts that do not end in a comment -/

/-- A text of a weight that does not end in a comment. -/
structure Weighs (t : List Char) (n : Nat) : Prop where
  text : m.text .between t = n
  closed : Scan.between.after t ≠ .comment

/-- A text of a weight that ends with a token of one character or with blanks. -/
structure Closes (t : List Char) (n : Nat) : Prop where
  text : m.text .between t = n
  after : Scan.between.after t = .between

variable {m} {a b : List Char} {n k : Nat}

theorem Closes.weighs (h : m.Closes a n) : m.Weighs a n :=
  ⟨h.text, by rw [h.after]; decide⟩

theorem Closes.nil : m.Closes [] 0 := ⟨rfl, rfl⟩

theorem Closes.append (ha : m.Closes a n) (hb : m.Closes b k) : m.Closes (a ++ b) (n + k) where
  text := by rw [text_append, ha.after, ha.text, hb.text]
  after := by rw [Scan.after_append, ha.after, hb.after]

theorem Closes.append_weighs (ha : m.Closes a n) (hb : m.Weighs b k) :
    m.Weighs (a ++ b) (n + k) where
  text := by rw [text_append, ha.after, ha.text, hb.text]
  closed := by
    rw [Scan.after_append, ha.after]
    exact hb.closed

theorem Weighs.append (ha : m.Weighs a n) (hb : m.Weighs b k) (h : StopsWord b) :
    m.Weighs (a ++ b) (n + k) where
  text := by rw [text_append, m.text_of_stopsWord ha.closed h, ha.text, hb.text]
  closed := by
    rw [Scan.after_append]
    cases b with
    | nil => exact ha.closed
    | cons c b =>
      rw [Scan.after_eq_between ha.closed (List.cons_ne_nil _ _)]
      exact hb.closed

theorem Weighs.close (ha : m.Weighs a n) (hb : m.Closes b k) (h : StopsWord b) (hne : b ≠ []) :
    m.Closes (a ++ b) (n + k) where
  text := (ha.append hb.weighs h).text
  after := by rw [Scan.after_append, Scan.after_eq_between ha.closed hne, hb.after]

theorem Closes.trivia (h : IsTrivia a) : m.Closes a 0 :=
  ⟨m.text_eq_zero _ h.quiet, Scan.after_trivia h⟩

theorem Closes.trivia_append (h : IsTrivia a) (hb : m.Closes b k) : m.Closes (a ++ b) k :=
  Nat.zero_add k ▸ (Closes.trivia h).append hb

theorem Weighs.trivia_append (h : IsTrivia a) (hb : m.Weighs b k) : m.Weighs (a ++ b) k :=
  Nat.zero_add k ▸ (Closes.trivia h).append_weighs hb

theorem Closes.sign {κ : Token.Kind} {c : Char} (h : κ.sign? = some c) :
    m.Closes [c] (m.sign c) := by
  refine ⟨Nat.add_zero _, ?_⟩
  have hkind := Token.Kind.ofChar_of_sign? h
  simp only [Scan.after_cons, Scan.after_nil, Scan.step, Scan.start, hkind]
  cases κ <;> first | rfl | cases h

theorem Closes.sign_append {κ : Token.Kind} {c : Char} (h : κ.sign? = some c)
    (hb : m.Closes b k) : m.Closes (c :: b) (m.sign c + k) :=
  (Closes.sign h).append hb

/-- A token of one character ends what stands in front of it. -/
theorem Weighs.close_sign (ha : m.Weighs a n) {t : List Char} (ht : IsTrivia t)
    {κ : Token.Kind} {c : Char} (h : κ.sign? = some c) (hb : m.Closes b k) :
    m.Closes (a ++ (t ++ c :: b)) (n + (m.sign c + k)) := by
  refine ha.close (.trivia_append ht (.sign_append h hb)) (ht.stopsWord_append (.cons ?_ _))
    (by simp)
  rw [Token.Kind.ofChar_of_sign? h]
  rintro rfl
  cases h

theorem Weighs.word (h : IsWord a) : m.Weighs a (m.text .between a) := by
  refine ⟨rfl, fun hcomment => ?_⟩
  have hnot : '#' ∉ a := fun hmem => absurd (h.kind _ hmem) (by decide)
  have hopen := Scan.after_beq_comment .between a
  rw [hcomment, show (Scan.between == Scan.comment) = false from rfl,
    commentAfter_of_not_mem hnot] at hopen
  cases hopen

/-! ### Lists -/

section Lists

variable {α : Type} {f : α → Nat} {ts : List (List Char)} {as : List α} {body : List Char}

/-- A comma list in front of its closing token weighs as much as its entries. -/
theorem closes_separated (hbody : Separated ts body)
    (hall : List.Forall₂ (fun t a => m.Weighs t (f a)) ts as) {κ : Token.Kind} {c : Char}
    (h : κ.sign? = some c) (hb : m.Closes b k) :
    m.Closes (body ++ c :: b) ((as.map f).sum + (m.sign c + k)) := by
  induction hbody generalizing as with
  | nil htrivia =>
    cases hall
    simpa using Closes.trivia_append htrivia (.sign_append h hb)
  | last htrivia htrivia' =>
    obtain _ | ⟨hitem, ⟨⟩⟩ := hall
    simpa using Closes.trivia_append htrivia (hitem.close_sign htrivia' h hb)
  | cons htrivia htrivia' _ ih =>
    obtain _ | ⟨hitem, hall⟩ := hall
    simpa [sign_comma, Nat.add_assoc] using
      Closes.trivia_append htrivia (hitem.close_sign htrivia' (κ := .comma) rfl (ih hall))

/-- Statements weigh as much as each of them. -/
theorem closes_strung (hbody : Strung ts body)
    (hall : List.Forall₂ (fun t a => m.Closes t (f a)) ts as) :
    m.Closes body (as.map f).sum := by
  induction hbody generalizing as with
  | nil =>
    cases hall
    exact .nil
  | cons htrivia _ ih =>
    obtain _ | ⟨hitem, hall⟩ := hall
    exact .trivia_append htrivia (hitem.append (ih hall))

end Lists

end Weight

end PolicyEditor
