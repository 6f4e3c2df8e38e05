import PolicyEditor.Proofs.Layout.Framing
import PolicyEditor.Proofs.Weight.Scan

/-!
# What a container retains

The text of a container weighs at most as much as its items.  It weighs less if a separator ends in
a comment that runs into the text behind it, because an item or the closing token is then lost.

## Main definitions

* `Weight.Retains`, `Weight.RetainsAll` : a text or the items of a list weigh at most some weight,
  and less if something is lost.

## Main results

* `Frame.Frames.retains_framed` : the text of a container retains the weight of its items if and
  only if they are joined.
-/

namespace PolicyEditor

open Text

namespace Weight

variable (m : Weight)

/-- Every word and every character of a token counts. -/
structure Counts : Prop where
  word : 0 < m.word
  char : ∀ c, 0 < m.char c

/-- A text weighs at most `n`, and less if it is not kept whole. -/
structure Retains (t : List Char) (n : Nat) (kept : Bool) : Prop where
  le : m.text .between t ≤ n
  lt : m.Counts → kept = false → m.text .between t < n

/-- The texts of some pieces weigh at most `n`, and less if they are not kept whole. -/
structure RetainsAll (qs : List Piece) (n : Nat) (kept : Bool) : Prop where
  le : (qs.map fun q => m.text .between q.text).sum ≤ n
  lt : m.Counts → kept = false → (qs.map fun q => m.text .between q.text).sum < n

variable {m} {a b : List Char} {n k : Nat} {kept kept' : Bool}

namespace Retains

theorem of_le (h : m.text .between a ≤ n) : m.Retains a n true :=
  ⟨h, fun _ h => by cases h⟩

theorem append (ha : m.Retains a n kept) (hb : m.Retains b k kept') :
    m.Retains (a ++ b) (n + k) (kept && kept') where
  le := (m.text_append_le _ a b).trans (Nat.add_le_add ha.le hb.le)
  lt hcounts hlost := by
    refine (m.text_append_le _ a b).trans_lt ?_
    cases kept with
    | false => exact Nat.add_lt_add_of_lt_of_le (ha.lt hcounts rfl) hb.le
    | true => exact Nat.add_lt_add_of_le_of_lt ha.le (hb.lt hcounts hlost)

theorem quiet_append (h : isQuiet false a = true) (hb : m.Retains b k kept) :
    m.Retains (a ++ b) k kept := by
  simpa using (of_le (n := 0) (m.text_eq_zero _ h).le).append hb

end Retains

theorem Weighs.retains (h : m.Weighs a n) : m.Retains a n true :=
  .of_le h.text.le

theorem Closes.retains (h : m.Closes a n) : m.Retains a n true :=
  .of_le h.text.le

namespace RetainsAll

variable {q : Piece} {qs rs : List Piece}

theorem nil : m.RetainsAll [] 0 true :=
  ⟨Nat.le_refl 0, fun _ h => by cases h⟩

theorem cons (hq : m.Retains q.text n kept) (hqs : m.RetainsAll qs k kept') :
    m.RetainsAll (q :: qs) (n + k) (kept && kept') where
  le := Nat.add_le_add hq.le hqs.le
  lt hcounts hlost := by
    cases kept with
    | false => exact Nat.add_lt_add_of_lt_of_le (hq.lt hcounts rfl) hqs.le
    | true => exact Nat.add_lt_add_of_le_of_lt hq.le (hqs.lt hcounts hlost)

theorem append (hqs : m.RetainsAll qs n kept) (hrs : m.RetainsAll rs k kept') :
    m.RetainsAll (qs ++ rs) (n + k) (kept && kept') where
  le := by
    rw [List.map_append, List.sum_append]
    exact Nat.add_le_add hqs.le hrs.le
  lt hcounts hlost := by
    rw [List.map_append, List.sum_append]
    cases kept with
    | false => exact Nat.add_lt_add_of_lt_of_le (hqs.lt hcounts rfl) hrs.le
    | true => exact Nat.add_lt_add_of_le_of_lt hqs.le (hrs.lt hcounts hlost)

/-- Items that are all treated alike. -/
theorem map {α : Type} {q : α → Piece} {f : α → Nat} {k : α → Bool} {as : List α}
    (h : ∀ a ∈ as, m.Retains (q a).text (f a) (k a)) :
    m.RetainsAll (as.map q) (as.map f).sum (as.all k) := by
  induction as with
  | nil => exact nil
  | cons a as ih =>
    rw [List.forall_mem_cons] at h
    exact cons h.1 (ih h.2)

end RetainsAll

/-! ### Comments that run into a text -/

/-- A text that starts with a token other than a comma weighs less within a comment. -/
theorem text_comment_lt (hcounts : m.Counts) {t : List Char} (h : OpensWithout .comma t) :
    m.text .comment t < m.text .between t := by
  obtain ⟨c, hc, htoken, hcomma⟩ := h
  obtain ⟨t, rfl⟩ := List.head?_eq_some_iff.1 hc
  have hne : c ≠ '\n' := by
    rintro rfl
    exact absurd htoken (by decide)
  have hcost : 0 < m.cost .between c := by
    simp only [cost]
    cases hkind : Token.Kind.ofChar c with
    | space | comment =>
      rw [hkind] at htoken
      cases htoken
    | comma => exact absurd hkind hcomma
    | word => exact Nat.add_pos_right _ (hcounts.char c)
    | _ => exact hcounts.char c
  rw [text_cons, text_cons, show Scan.comment.step c = .comment from if_neg hne]
  calc m.cost .comment c + m.text .comment t = m.text .comment t := Nat.zero_add _
    _ ≤ m.text (Scan.between.step c) t := m.text_comment_le _ t
    _ < m.cost .between c + m.text (Scan.between.step c) t := Nat.lt_add_of_pos_left hcost

/-- A text that goes on with a word weighs less behind one. -/
theorem text_word_lt (hcounts : m.Counts) {c : Char} (hc : Token.Kind.ofChar c = .word)
    (t : List Char) : m.text .word (c :: t) < m.text .between (c :: t) := by
  rw [text_cons, text_cons]
  refine Nat.add_lt_add_right ?_ (m.text (Scan.start c) t)
  simp only [cost, hc, reduceCtorEq, if_false, if_true]
  exact Nat.add_lt_add_right hcounts.word _

theorem text_comment_line {t : List Char} (h : '\n' ∉ t) : m.text .comment t = 0 :=
  m.text_quiet (isQuiet_comment_line h).1

theorem text_separator {comma : Bool} {sep : List Char} (h : IsSeparator comma sep) (s : Scan) :
    m.text s sep = 0 := by
  cases comma with
  | false => exact m.text_eq_zero s h
  | true =>
    obtain ⟨trivia, tail, rfl, htrivia, htail⟩ := h
    rw [text_append, m.text_eq_zero s htrivia.quiet, text_cons, m.text_eq_zero _ htail]
    cases s.after trivia <;> rfl

/-! ### The items of a container -/

section Entries

variable {lead : Piece → List Char} {separator : Bool → Piece → List Char} {trailing : Bool}
  {close : List Char} {qs : List Piece}

/-- Items and what stands behind them weigh at most as much as each of them. -/
theorem text_further_le (hlead : ∀ r ∈ qs, isQuiet false (lead r) = true)
    (hsep : ∀ r ∈ qs, ∀ final s, m.text s (separator final r) = 0) (s : Scan) :
    m.text s (Printer.further lead separator trailing qs ++ close) ≤
      (qs.map fun q => m.text .between q.text).sum + m.text .between close := by
  induction qs generalizing s with
  | nil => simpa [Printer.further] using m.text_le_between s close
  | cons q qs ih =>
    rw [List.forall_mem_cons] at hlead hsep
    have hrest := ih hlead.2 hsep.2
    have htext := m.text_le_between (s.after (lead q)) q.text
    simp only [Printer.further, List.append_assoc, text_append, m.text_eq_zero _ hlead.1, hsep.1,
      Nat.zero_add, List.map_cons, List.sum_cons] at hrest ⊢
    rw [Nat.add_assoc]
    exact Nat.add_le_add htext (hrest _)

/-- Items weigh less within a comment that is not closed in front of the first one. -/
theorem text_further_comment_lt (hcounts : m.Counts)
    (hlead : ∀ r ∈ qs, isQuiet false (lead r) = true)
    (hsep : ∀ r ∈ qs, ∀ final s, m.text s (separator final r) = 0)
    (hopens : ∀ r ∈ qs, OpensWithout .comma r.text) (hclose : 0 < m.text .between close)
    (hline : '\n' ∉ Printer.nextText lead close qs) :
    m.text .comment (Printer.further lead separator trailing qs ++ close) <
      (qs.map fun q => m.text .between q.text).sum + m.text .between close := by
  cases qs with
  | nil =>
    have hline : '\n' ∉ close := hline
    simpa [Printer.further, text_comment_line hline] using hclose
  | cons r qs =>
    have hcomment : Scan.comment.after (lead r) = .comment := by
      rw [← beq_iff_eq, Scan.after_beq_comment]
      exact (isQuiet_comment_line hline).2
    rw [List.forall_mem_cons] at hlead hopens hsep
    have hlost := text_comment_lt hcounts hopens.1
    have hrest (s : Scan) : m.text s (Printer.further lead separator trailing qs ++ close) ≤
        (qs.map fun q => m.text .between q.text).sum + m.text .between close :=
      text_further_le hlead.2 hsep.2 s
    simp only [Printer.further, List.append_assoc, text_append, m.text_eq_zero _ hlead.1, hcomment,
      hsep.1, Nat.zero_add, List.map_cons, List.sum_cons] at hrest ⊢
    rw [Nat.add_assoc]
    exact Nat.add_lt_add_of_lt_of_le hlost (hrest _)

/-- Items that are not joined weigh less. -/
theorem text_further_lt (hcounts : m.Counts) {q : Piece}
    (hlead : ∀ r ∈ qs, isQuiet false (lead r) = true)
    (hsep : ∀ r ∈ q :: qs, ∀ final s, m.text s (separator final r) = 0)
    (hopens : ∀ r ∈ qs, OpensWithout .comma r.text) (hclose : 0 < m.text .between close)
    (hjoined : Printer.joined lead separator trailing close (q :: qs) = false) (s : Scan) :
    m.text s (separator (qs.isEmpty && !trailing) q ++
        (Printer.further lead separator trailing qs ++ close)) <
      (qs.map fun q => m.text .between q.text).sum + m.text .between close := by
  induction qs generalizing q s with
  | nil =>
    rw [List.forall_mem_cons] at hsep
    rw [Printer.joined, Printer.joined, Bool.and_true, Bool.or_eq_false_iff, Bool.not_eq_false',
      ← Bool.not_eq_true, List.contains_iff_mem] at hjoined
    rw [text_append, hsep.1, Nat.zero_add, Scan.after_of_commentAfter hjoined.1]
    exact text_further_comment_lt hcounts hlead hsep.2 hopens hclose hjoined.2
  | cons r qs ih =>
    rw [List.forall_mem_cons] at hsep
    rw [text_append, hsep.1, Nat.zero_add]
    rw [Printer.joined, Bool.and_eq_false_iff, Bool.or_eq_false_iff, Bool.not_eq_false',
      ← Bool.not_eq_true (List.contains _ _), List.contains_iff_mem] at hjoined
    rcases hjoined with ⟨hopen, hline⟩ | hjoined
    · rw [Scan.after_of_commentAfter hopen]
      exact text_further_comment_lt hcounts hlead hsep.2 hopens hclose hline
    · rw [List.forall_mem_cons] at hlead hopens
      have hrest := ih hlead.2 hsep.2 hopens.2 hjoined
      simp only [Printer.further, List.append_assoc, text_append _ _ (lead r),
        text_append _ _ r.text, m.text_eq_zero _ hlead.1, Nat.zero_add, List.map_cons,
        List.sum_cons]
      rw [Nat.add_assoc]
      exact Nat.add_lt_add_of_le_of_lt (m.text_le_between _ _) (hrest _)

/-- Items behind trivia retain their weight if they are joined. -/
theorem retains_entries {front : List Char} (hfront : IsTrivia front) {q : Piece}
    (hlead : ∀ r ∈ qs, isQuiet false (lead r) = true)
    (hsep : ∀ r ∈ q :: qs, ∀ final s, m.text s (separator final r) = 0)
    (hopens : ∀ r ∈ qs, OpensWithout .comma r.text)
    (hclose : m.Counts → 0 < m.text .between close) (hall : m.RetainsAll (q :: qs) n kept) :
    m.Retains (front ++ (q.text ++ (separator (qs.isEmpty && !trailing) q ++
        (Printer.further lead separator trailing qs ++ close))))
      (n + m.text .between close)
      (kept && Printer.joined lead separator trailing close (q :: qs)) := by
  have htext (rest : List Char) : m.text .between (front ++ (q.text ++ rest)) =
      m.text .between q.text + m.text (Scan.between.after q.text) rest := by
    rw [text_append, m.text_eq_zero _ hfront.quiet, Scan.after_trivia hfront, Nat.zero_add,
      text_append]
  have hrest (s : Scan) : m.text s (separator (qs.isEmpty && !trailing) q ++
      (Printer.further lead separator trailing qs ++ close)) ≤
        (qs.map fun q => m.text .between q.text).sum + m.text .between close := by
    rw [text_append, hsep q List.mem_cons_self, Nat.zero_add]
    exact text_further_le hlead (List.forall_mem_cons.1 hsep).2 _
  have hsum := hall.le
  rw [List.map_cons, List.sum_cons] at hsum
  constructor
  · rw [htext]
    have := hrest (Scan.between.after q.text)
    omega
  · intro hcounts hlost
    rw [htext]
    rcases Bool.and_eq_false_iff.1 hlost with hkept | hjoined
    · have hlt := hall.lt hcounts hkept
      rw [List.map_cons, List.sum_cons] at hlt
      have := hrest (Scan.between.after q.text)
      omega
    · have := text_further_lt hcounts hlead hsep hopens (hclose hcounts) hjoined
        (Scan.between.after q.text)
      omega

end Entries

end Weight

/-! ### The text of a container -/

namespace Frame.Frames

variable {p : Printer} {span : Span} {frame : Frame} {header : List Char} {σ : ListStyle}
  {items : List Piece} {κ : Token.Kind} {c : Char}

theorem text_printed_separator {m : Weight} {q : Piece} (hfits : q.layout.Fits p σ.comma)
    (final : Bool) (s : Scan) : m.text s (p.separator span frame σ final q) = 0 := by
  cases hstyle : σ.comma with
  | true =>
    rw [hstyle] at hfits
    rcases Printer.separator_shape hstyle hfits final with hsep | ⟨-, hquiet⟩
    · exact Weight.text_separator hsep s
    · exact m.text_eq_zero s hquiet
  | false =>
    rw [Printer.separator, hstyle, Bool.not_false, if_pos rfl]
    cases hsep : q.layout.sep with
    | none => rfl
    | some sep => exact Weight.text_separator (hfits.sep sep hsep) s

/-- The text of a container behind its header retains the weight of its items if they are joined. -/
theorem retains_framed (h : frame.Frames p span header [c]) (hs : κ.sign? = some c)
    (hcomma : κ ≠ .comma) (hfits : ∀ q ∈ items, q.layout.Fits p σ.comma)
    (hopens : ∀ q ∈ items, OpensWithout .comma q.text) :
    ∃ text, p.framed span frame σ items = header ++ (p.front span frame items ++ text) ∧
      (∀ q ∈ items.head?, ∃ rest, text = q.text ++ rest) ∧
      ∀ {m : Weight} {n : Nat} {kept : Bool}, m.RetainsAll items n kept →
        m.Retains (p.front span frame items ++ text) (n + m.sign c)
          (kept && p.framedJoined span frame σ items) := by
  have hfront := h.front_isTrivia hfits
  have hsign : '\n' ∉ [c] := by
    rintro hmem
    obtain rfl := List.mem_singleton.1 hmem
    cases κ <;> cases hs
  obtain ⟨closing, hclosing, heq, -⟩ := h.closing_eq hsign
  have hclose {m : Weight} : m.text .between (closing ++ [c]) = m.sign c :=
    (Weight.Closes.trivia_append hclosing (.sign hs)).text
  have hcounts {m : Weight} (h : m.Counts) : 0 < m.text .between (closing ++ [c]) := by
    have hopens : OpensWithout .comma [c] :=
      ⟨c, rfl, Token.Kind.isTrivia_ofChar_sign? hs, by rwa [Token.Kind.ofChar_of_sign? hs]⟩
    rw [hclose, ← (Weight.Closes.sign hs).text]
    exact (Nat.zero_le _).trans_lt (Weight.text_comment_lt h hopens)
  cases items with
  | nil =>
    obtain ⟨closing, hclosing, heq⟩ := h.closing
    refine ⟨_, by rw [Printer.framed_nil, h.header_eq], by simp, fun {m n kept} hall => ?_⟩
    have htext : m.text .between (p.front span frame [] ++ (closing ++ [c])) = m.sign c :=
      (Weight.Closes.trivia_append hfront (.trivia_append hclosing (.sign hs))).text
    have hjoined : p.framedJoined span frame σ [] = true := rfl
    rw [heq, hjoined, Bool.and_true]
    refine ⟨htext ▸ Nat.le_add_left _ _, fun hcounts hlost => ?_⟩
    have := hall.lt hcounts hlost
    simp only [List.map_nil, List.sum_nil] at this
    omega
  | cons q qs =>
    refine ⟨_, by rw [Printer.framed_cons, h.header_eq], fun r hr => by cases hr; exact ⟨_, rfl⟩,
      fun {m n kept} hall => ?_⟩
    have hlead : ∀ r ∈ qs, isQuiet false (p.lead (p.newLead span frame (q :: qs)) r) = true :=
      fun r hr => (Printer.lead_isTrivia (p.newLead_isTrivia _ _ _)
        (hfits r (List.mem_cons_of_mem _ hr))).quiet
    have hsep : ∀ r ∈ q :: qs, ∀ final s, m.text s (p.separator span frame σ final r) = 0 :=
      fun r hr => text_printed_separator (hfits r hr)
    rw [Printer.framedJoined, heq, ← hclose (m := m)]
    exact Weight.retains_entries hfront hlead hsep
      (fun r hr => hopens r (List.mem_cons_of_mem _ hr)) hcounts hall

end Frame.Frames

end PolicyEditor
