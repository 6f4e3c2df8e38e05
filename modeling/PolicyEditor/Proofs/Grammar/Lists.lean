import Mathlib.Data.List.Forall2
import PolicyEditor.Proofs.Grammar.Lexing
import PolicyEditor.Definition.Parser

/-!
# Lists of the grammar

The grammar has two kinds of lists.  Statements stand one after the other, each behind trivia, and
entries of a comma list are separated by commas, of which the last entry may have one too.  The
readers of both lists are correct for every reader of their items: on a list of texts that the item
reader accepts they yield the contents of these texts in their order.

## Main definitions

* `Accepts` : a reader accepts a text in every place where certain texts may follow.
* `Recovers` : whatever a reader accepts stands behind trivia and is a text of its result.
* `Strung` : a text of statements.
* `Separated` : a text of entries with commas.

## Main results

* `Layout.readItems_separated`, `Layout.readList_separated` : comma lists are read.
* `Layout.readStatements_strung` : statements are read.
-/

namespace PolicyEditor

open Text

/-- The reader accepts the text behind any trivia and in front of any text for which `follow`
holds, and what it yields satisfies `P`. -/
def Accepts {α : Type} (read : Cursor → Reading (α × Cursor)) (text : List Char)
    (follow : List Char → Prop) (P : α → Prop) : Prop :=
  ∀ n trivia rest, IsTrivia trivia → follow rest →
    ∃ a m, read ⟨n, trivia ++ (text ++ rest)⟩ = .ok (a, ⟨m, rest⟩) ∧ P a

theorem Accepts.imp {α : Type} {read : Cursor → Reading (α × Cursor)} {text : List Char}
    {follow follow' : List Char → Prop} {P P' : α → Prop} (h : Accepts read text follow P)
    (hfollow : ∀ rest, follow' rest → follow rest) (hP : ∀ a, P a → P' a) :
    Accepts read text follow' P' := fun n trivia rest htrivia hrest =>
  let ⟨a, m, hread, ha⟩ := h n trivia rest htrivia (hfollow rest hrest)
  ⟨a, m, hread, hP a ha⟩

/-- Whatever the reader accepts stands behind trivia, and its text is related to the result. -/
def Recovers {α : Type} (read : Cursor → Reading (α × Cursor)) (S : List Char → α → Prop) : Prop :=
  ∀ c a c', read c = .ok (a, c') → ∃ trivia t, IsTrivia trivia ∧
    c.start = c.offset + byteLength trivia ∧ c.Reads (trivia ++ t) c' ∧ S t a

/-- The text starts with a token that is not of the given kind. -/
def OpensWithout (kind : Token.Kind) (text : List Char) : Prop :=
  ∃ c ∈ text.head?, (Token.Kind.ofChar c).isTrivia = false ∧ Token.Kind.ofChar c ≠ kind

namespace OpensWithout

variable {kind : Token.Kind} {text trivia : List Char}

theorem of_word (h : ∃ c ∈ text.head?, Token.Kind.ofChar c = .word) (hkind : kind ≠ .word) :
    OpensWithout kind text := by
  obtain ⟨c, hc, hword⟩ := h
  exact ⟨c, hc, by rw [hword]; rfl, by rw [hword]; exact hkind.symm⟩

theorem length_pos (h : OpensWithout kind text) : 0 < text.length := by
  obtain ⟨c, hc, -⟩ := h
  obtain ⟨text, rfl⟩ := List.head?_eq_some_iff.1 hc
  exact Nat.succ_pos _

theorem kindAhead (h : OpensWithout kind text) (htrivia : IsTrivia trivia) (rest : List Char) :
    ∃ k, kindAhead? (trivia ++ (text ++ rest)) = some k ∧ k ≠ kind := by
  obtain ⟨c, hc, htoken, hne⟩ := h
  obtain ⟨text, rfl⟩ := List.head?_eq_some_iff.1 hc
  exact ⟨_, by rw [kindAhead?_append htrivia, List.cons_append, kindAhead?_cons htoken], hne⟩

theorem kindAhead_ne (h : OpensWithout kind text) (htrivia : IsTrivia trivia) (rest : List Char) :
    kindAhead? (trivia ++ (text ++ rest)) ≠ some kind := by
  obtain ⟨k, hk, hne⟩ := h.kindAhead htrivia rest
  rw [hk]
  exact fun heq => hne (Option.some.inj heq)

theorem sees_eq_false (h : OpensWithout kind text) (htrivia : IsTrivia trivia) (n : Nat)
    (rest : List Char) : (⟨n, trivia ++ (text ++ rest)⟩ : Cursor).sees kind = false :=
  Cursor.sees_eq_false (h.kindAhead_ne htrivia rest)

theorem atEnd_eq_false (h : OpensWithout kind text) (htrivia : IsTrivia trivia) (n : Nat)
    (rest : List Char) : (⟨n, trivia ++ (text ++ rest)⟩ : Cursor).atEnd = false := by
  obtain ⟨k, hk, -⟩ := h.kindAhead htrivia rest
  rw [Bool.eq_false_iff, Ne, Cursor.atEnd_iff, hk]
  exact Option.some_ne_none k

end OpensWithout

theorem IsWord.opensWithout {w : List Char} (h : IsWord w) {kind : Token.Kind}
    (hkind : kind ≠ .word) (text : List Char) : OpensWithout kind (w ++ text) :=
  .of_word (h.opensWord text) hkind

theorem forall_of_forall₂ {α β : Type} {R : α → β → Prop} {P : α → Prop}
    (h : ∀ a b, R a b → P a) {as : List α} {bs : List β} (hall : List.Forall₂ R as bs) :
    ∀ a ∈ as, P a := by
  induction hall with
  | nil => simp
  | cons hab _ ih => exact List.forall_mem_cons.2 ⟨h _ _ hab, ih⟩

theorem map_eq_of_forall₂ {α β : Type} {f : α → β} {as : List α} {bs : List β}
    (h : List.Forall₂ (fun a b => f a = b) as bs) : as.map f = bs := by
  induction h with
  | nil => rfl
  | cons hab _ ih => rw [List.map_cons, hab, ih]

/-! ### Texts of lists -/

/-- The texts of statements one after the other, each behind trivia. -/
inductive Strung : List (List Char) → List Char → Prop
  | nil : Strung [] []
  | cons {trivia t rest : List Char} {ts : List (List Char)} (h : IsTrivia trivia)
    (hrest : Strung ts rest) : Strung (t :: ts) (trivia ++ (t ++ rest))

/-- The texts of entries with commas between them, and all the trivia up to the closing token.
There may be a comma behind the last entry. -/
inductive Separated : List (List Char) → List Char → Prop
  | nil {trivia : List Char} (h : IsTrivia trivia) : Separated [] trivia
  | last {trivia t trivia' : List Char} (h : IsTrivia trivia) (h' : IsTrivia trivia') :
    Separated [t] (trivia ++ (t ++ trivia'))
  | cons {trivia t trivia' rest : List Char} {ts : List (List Char)} (h : IsTrivia trivia)
    (h' : IsTrivia trivia') (hrest : Separated ts rest) :
    Separated (t :: ts) (trivia ++ (t ++ (trivia' ++ ',' :: rest)))

namespace Strung

theorem of_append {ts us : List (List Char)} {text : List Char} (h : Strung (ts ++ us) text) :
    ∃ a b, text = a ++ b ∧ Strung ts a ∧ Strung us b := by
  induction ts generalizing text with
  | nil => exact ⟨[], text, rfl, .nil, h⟩
  | cons t ts ih =>
    cases h with
    | cons htrivia hrest =>
      obtain ⟨a, b, rfl, ha, hb⟩ := ih hrest
      exact ⟨_, b, by simp, .cons htrivia ha, hb⟩

theorem length_le {ts : List (List Char)} {text : List Char} (h : Strung ts text)
    (hpos : ∀ t ∈ ts, 0 < t.length) : ts.length ≤ text.length := by
  induction h with
  | nil => exact Nat.le_refl 0
  | cons _ _ ih =>
    have := ih fun t ht => hpos t (List.mem_cons_of_mem _ ht)
    have := hpos _ List.mem_cons_self
    simp only [List.length_cons, List.length_append]
    omega

end Strung

theorem Separated.length_le {ts : List (List Char)} {text : List Char} (h : Separated ts text)
    (hpos : ∀ t ∈ ts, 0 < t.length) : ts.length ≤ text.length := by
  induction h with
  | nil => exact Nat.zero_le _
  | last =>
    have := hpos _ List.mem_cons_self
    simp only [List.length_cons, List.length_nil, List.length_append]
    omega
  | cons _ _ _ ih =>
    have := ih fun t ht => hpos t (List.mem_cons_of_mem _ ht)
    simp only [List.length_cons, List.length_append]
    omega

/-- The length of an entry is at most that of its list. -/
theorem Separated.length_le_of_mem {ts : List (List Char)} {text : List Char}
    (h : Separated ts text) : ∀ t ∈ ts, t.length ≤ text.length := by
  induction h with
  | nil => simp
  | last =>
    simp only [List.mem_singleton, forall_eq, List.length_append]
    omega
  | cons _ _ _ ih =>
    simp only [List.forall_mem_cons, List.length_append, List.length_cons]
    exact ⟨by omega, fun t ht => by have := ih t ht; omega⟩

/-- Trivia in front of a comma list is part of it. -/
theorem Separated.prepend {ts : List (List Char)} {text trivia : List Char}
    (h : Separated ts text) (htrivia : IsTrivia trivia) : Separated ts (trivia ++ text) := by
  cases h with
  | nil h => exact .nil (htrivia.append h)
  | last h h' => simpa [List.append_assoc] using Separated.last (htrivia.append h) h'
  | cons h h' hrest => simpa [List.append_assoc] using Separated.cons (htrivia.append h) h' hrest

/-! ### Reading comma lists -/

namespace Layout

variable {α β : Type} {f : Cursor → Reading (α × Cursor)} {κ : Token.Kind} {s : Char}
  {R : List Char → β → Prop} {E : α → β → Prop}

/-- What follows an entry of a comma list: a comma or the closing token. -/
def EndsEntry (κ : Token.Kind) (rest : List Char) : Prop :=
  kindAhead? rest = some .comma ∨ kindAhead? rest = some κ

/-- The reader of a comma list yields the contents of its entries, and stops in front of the
closing token. -/
theorem readItems_separated (hs : κ.sign? = some s) (hcomma : κ ≠ .comma)
    (hitem : ∀ t x, R t x → OpensWithout κ t ∧ Accepts f t (EndsEntry κ) (E · x))
    {ts : List (List Char)} {text : List Char} (h : Separated ts text) {xs : List β}
    (hspell : List.Forall₂ R ts xs) (limit : Nat) (hlimit : ts.length < limit)
    (previous : Option Nat) (n : Nat) (rest : List Char) :
    ∃ items trivia m, IsTrivia trivia ∧
      readItems f κ limit previous ⟨n, text ++ s :: rest⟩ =
        .ok (items, ⟨m, trivia ++ s :: rest⟩) ∧
      List.Forall₂ E (items.map (·.1)) xs := by
  induction h generalizing xs limit previous n with
  | @nil trivia htrivia =>
    cases hspell
    obtain ⟨limit, rfl⟩ : ∃ k, limit = k + 1 := ⟨limit - 1, by omega⟩
    refine ⟨[], trivia, n, htrivia, ?_, .nil⟩
    rw [readItems, if_pos (Cursor.sees_iff.2 (kindAhead?_append_sign htrivia hs rest))]
  | @last trivia t trivia' htrivia htrivia' =>
    obtain _ | ⟨hx, hspell⟩ := hspell
    cases hspell
    obtain ⟨limit, rfl⟩ : ∃ k, limit = k + 1 := ⟨limit - 1, by omega⟩
    obtain ⟨hopens, haccepts⟩ := hitem _ _ hx
    have hclose := kindAhead?_append_sign htrivia' hs rest
    obtain ⟨a, m, hread, ha⟩ := haccepts n trivia _ htrivia (.inr hclose)
    have heat : (⟨m, trivia' ++ s :: rest⟩ : Cursor).eat? .comma = none := by
      rw [Cursor.eat?_eq_none, hclose]
      exact fun heq => hcomma (Option.some.inj heq)
    let c : Cursor := ⟨n, trivia ++ (t ++ (trivia' ++ s :: rest))⟩
    refine ⟨[(a, placed previous c.start m)], trivia', m, htrivia', ?_, .cons ha .nil⟩
    simp only [List.append_assoc] at hread ⊢
    rw [readItems, hopens.sees_eq_false htrivia, if_neg Bool.false_ne_true]
    refine Except.bind_eq_ok.2 ⟨_, hread, ?_⟩
    simp only [heat]
    rw [if_pos (Cursor.sees_iff.2 hclose)]
  | @cons trivia t trivia' text ts htrivia htrivia' _ ih =>
    obtain _ | ⟨hx, hspell⟩ := hspell
    obtain ⟨limit, rfl⟩ : ∃ k, limit = k + 1 := ⟨limit - 1, by omega⟩
    obtain ⟨hopens, haccepts⟩ := hitem _ _ hx
    have hahead : kindAhead? (trivia' ++ ',' :: (text ++ s :: rest)) = some .comma :=
      kindAhead?_append_sign htrivia' rfl _
    obtain ⟨a, m, hread, ha⟩ := haccepts n trivia _ htrivia (.inl hahead)
    obtain ⟨m', heat⟩ := Cursor.eat?_sign (n := m) (r := text ++ s :: rest) htrivia'
      (κ := .comma) rfl
    let c : Cursor := ⟨n, trivia ++ (t ++ (trivia' ++ ',' :: (text ++ s :: rest)))⟩
    let c' : Cursor := ⟨m', text ++ s :: rest⟩
    let layout := placed previous c.start m (c'.tail?.getD c'.offset)
    obtain ⟨items, trivia'', m'', htrivia'', hitems, hall⟩ :=
      ih hspell limit (by simpa using hlimit) (some layout.finish) m'
    refine ⟨(a, layout) :: items, trivia'', m'', htrivia'', ?_, .cons ha hall⟩
    simp only [List.append_assoc, List.cons_append] at hread ⊢
    rw [readItems, hopens.sees_eq_false htrivia, if_neg Bool.false_ne_true]
    refine Except.bind_eq_ok.2 ⟨_, hread, ?_⟩
    simp only [heat]
    exact Except.bind_eq_ok.2 ⟨_, hitems, rfl⟩

/-- A comma list is read together with its closing token. -/
theorem readList_separated (hs : κ.sign? = some s) (hcomma : κ ≠ .comma)
    (hitem : ∀ t x, R t x → OpensWithout κ t ∧ Accepts f t (EndsEntry κ) (E · x))
    {ts : List (List Char)} {text : List Char} (h : Separated ts text) {xs : List β}
    (hspell : List.Forall₂ R ts xs) (n : Nat) (rest : List Char) :
    ∃ items frame m, readList f κ ⟨n, text ++ s :: rest⟩ =
        .ok ((items, frame), ⟨m, rest⟩) ∧
      List.Forall₂ E (items.map (·.1)) xs := by
  have hlength := h.length_le <|
    forall_of_forall₂ (fun t x hx => (hitem t x hx).1.length_pos) hspell
  obtain ⟨items, trivia, m, htrivia, hitems, hall⟩ :=
    readItems_separated hs hcomma hitem h hspell ((text ++ s :: rest).length + 1)
      (by rw [List.length_append]; omega) none n rest
  obtain ⟨t, m', hexpect⟩ := Cursor.expectAs_sign (n := m) (r := rest) htrivia hs
    κ.describe
  exact ⟨items, _, m',
    Except.bind_eq_ok.2 ⟨_, hitems, Except.bind_eq_ok.2 ⟨_, hexpect, rfl⟩⟩, hall⟩

/-- The text of a comma list that was read, up to the trivia in front of the closing token. -/
theorem readItems_recovers {S : List Char → α → Prop} (hitem : Recovers f S) {limit : Nat}
    {previous : Option Nat} {c c' : Cursor} {items : List (α × Layout)}
    (h : readItems f κ limit previous c = .ok (items, c')) :
    ∃ ts text, c.Reads text c' ∧ List.Forall₂ S ts (items.map (·.1)) ∧
      ∀ trivia, IsTrivia trivia → Separated ts (text ++ trivia) := by
  induction limit generalizing previous c items with
  | zero => cases h
  | succ limit ih =>
    rw [readItems] at h
    split at h
    · cases h
      exact ⟨[], [], .refl _, .nil, fun trivia htrivia => .nil htrivia⟩
    · obtain ⟨⟨a, c₁⟩, h₁, h⟩ := Except.bind_eq_ok.1 h
      obtain ⟨trivia, t, htrivia, -, hreads, hspells⟩ := hitem _ _ _ h₁
      dsimp only at h
      split at h
      · next c₂ heat =>
        obtain ⟨⟨rest, c₃⟩, h₃, h⟩ := Except.bind_eq_ok.1 h
        cases h
        obtain ⟨trivia', htrivia', -, hreads'⟩ := Cursor.reads_of_eat? heat rfl
        obtain ⟨ts, text, hreads'', hall, hseparated⟩ := ih h₃
        refine ⟨t :: ts, _, (hreads.trans hreads').trans hreads'', .cons hspells hall,
          fun last hlast => ?_⟩
        simpa using Separated.cons (t := t) htrivia htrivia' (hseparated last hlast)
      · split at h
        · cases h
          refine ⟨[t], _, hreads, .cons hspells .nil, fun last hlast => ?_⟩
          simpa using Separated.last (t := t) htrivia hlast
        · cases h

/-- The text of a comma list that was read, with its closing token. -/
theorem readList_recovers (hs : κ.sign? = some s) {S : List Char → α → Prop}
    (hitem : Recovers f S) {c c' : Cursor} {items : List (α × Layout)} {frame : Frame}
    (h : readList f κ c = .ok ((items, frame), c')) :
    ∃ ts text, c.Reads (text ++ [s]) c' ∧ Separated ts text ∧
      List.Forall₂ S ts (items.map (·.1)) := by
  obtain ⟨⟨items', c₁⟩, h₁, h⟩ := Except.bind_eq_ok.1 h
  obtain ⟨⟨t, c₂⟩, h₂, h⟩ := Except.bind_eq_ok.1 h
  cases h
  obtain ⟨ts, text, hreads, hall, hseparated⟩ := readItems_recovers hitem h₁
  obtain ⟨trivia, htrivia, -, hreads'⟩ := Cursor.reads_of_expectAs h₂ hs
  exact ⟨ts, text ++ trivia, by simpa using hreads.trans hreads', hseparated trivia htrivia, hall⟩

end Layout

/-! ### Reading statements -/

namespace Layout

variable {α β : Type} {f : Cursor → Reading (α × Cursor)} {g : Cursor → Bool}
  {F : List Char → Prop} {R : List Char → β → Prop} {E : α → β → Prop}

/-- The reader of statements yields the contents of all of them, and stops in front of the text at
which `g` holds. -/
theorem readStatements_strung
    (hitem : ∀ t x, R t x → Accepts f t F (E · x))
    (hstop : ∀ t x, R t x → ∀ n trivia rest, IsTrivia trivia →
      g ⟨n, trivia ++ (t ++ rest)⟩ = false ∧ F (trivia ++ (t ++ rest)))
    {rest : List Char} (hrest : ∀ n, g ⟨n, rest⟩ = true) (hfollow : F rest)
    {ts : List (List Char)} {text : List Char} (h : Strung ts text) {xs : List β}
    (hspell : List.Forall₂ R ts xs) (limit : Nat) (hlimit : ts.length < limit)
    (previous : Option Nat) (n : Nat) :
    ∃ items m, readStatements g f limit previous ⟨n, text ++ rest⟩ =
        .ok (items, ⟨m, rest⟩) ∧
      List.Forall₂ E (items.map (·.1)) xs := by
  induction h generalizing xs limit previous n with
  | nil =>
    cases hspell
    obtain ⟨limit, rfl⟩ : ∃ k, limit = k + 1 := ⟨limit - 1, by omega⟩
    exact ⟨[], n, by rw [readStatements, List.nil_append, if_pos (hrest n)], .nil⟩
  | @cons trivia t text ts htrivia hstrung ih =>
    obtain _ | ⟨hx, hspell⟩ := hspell
    obtain ⟨limit, rfl⟩ : ∃ k, limit = k + 1 := ⟨limit - 1, by omega⟩
    have hnext : F (text ++ rest) := by
      cases hstrung with
      | nil => exact hfollow
      | cons htrivia' _ =>
        obtain _ | ⟨hx', -⟩ := hspell
        simpa [List.append_assoc] using (hstop _ _ hx' 0 _ _ htrivia').2
    obtain ⟨a, m, hread, ha⟩ := hitem _ _ hx n trivia _ htrivia hnext
    let c : Cursor := ⟨n, trivia ++ (t ++ (text ++ rest))⟩
    let layout := placed previous c.start m (⟨m, text ++ rest⟩ : Cursor).tail?
    obtain ⟨items, m', hitems, hall⟩ :=
      ih hspell limit (by simpa using hlimit) (some layout.finish) m
    refine ⟨(a, layout) :: items, m', ?_, .cons ha hall⟩
    simp only [List.append_assoc] at hread ⊢
    rw [readStatements, (hstop _ _ hx n trivia _ htrivia).1, if_neg Bool.false_ne_true]
    exact Except.bind_eq_ok.2 ⟨_, hread, Except.bind_eq_ok.2 ⟨_, hitems, rfl⟩⟩

end Layout

end PolicyEditor
