import PolicyEditor.Proofs.Grammar.Lexing

/-!
# Comments

A comment is a token that reaches from a `#` outside of comments up to the end of its line.  A text
that ends outside of comments may be cut there: the comments in front of the cut and behind it are
those of the whole text.  The beginning of a comment leaves the comment open, so a comment lies on
one side of a cut also if a line feed follows wherever a comment is open.

## Main definitions

* `comments` : the comments of a text.
* `Text.IsComment` : a text that is one comment.
* `Text.HasAt` : a piece of a text stands at a position.

## Main results

* `Token.commentsFrom_append` : the comments on both sides of a cut.
* `Token.hasAt_of_mem_commentsFrom` : a comment stands where its token says.
* `Text.HasAt.cut` : a comment stands on one side of a cut.
-/

namespace PolicyEditor

open Text

/-! ### Pieces of a text -/

namespace Text

/-- A text that is one comment: a `#` and what follows it on its line. -/
structure IsComment (text : List Char) : Prop where
  head : text.head? = some '#'
  line : '\n' ∉ text

/-- The piece stands at a position of a text that starts at the position `start`. -/
def HasAt (start : Nat) (text : List Char) (position : Nat) (piece : List Char) : Prop :=
  ∃ before behind, text = before ++ (piece ++ behind) ∧ position = start + byteLength before

namespace IsComment

variable {text : List Char}

theorem ne_nil (h : IsComment text) : text ≠ [] := by
  rintro rfl
  simpa using h.head

theorem mem (h : IsComment text) : '#' ∈ text :=
  List.mem_of_mem_head? h.head

/-- The beginning of a comment leaves the comment open. -/
theorem commentAfter_of_prefix (h : IsComment text) {front : List Char} (hfront : front <+: text)
    (hne : front ≠ []) (s : Bool) : commentAfter s front = true := by
  obtain ⟨back, rfl⟩ := hfront
  obtain ⟨c, front, rfl⟩ := List.exists_cons_of_ne_nil hne
  obtain rfl : c = '#' := by simpa using h.head
  have hline : '\n' ∉ front := fun hmem => h.line (by simp [hmem])
  have hopen : commentStep s '#' = true := by cases s <;> rfl
  rw [commentAfter, hopen]
  exact (isQuiet_comment_line hline).2

/-- A text that ends outside of comments ends the line of a comment in it. -/
theorem newline_mem (h : IsComment text) {t : List Char} (hclosed : commentAfter false t = false)
    (hpart : text <:+: t) : '\n' ∈ t := by
  obtain ⟨before, behind, rfl⟩ := hpart
  by_contra hline
  simp only [List.mem_append, not_or] at hline
  rw [commentAfter_append, commentAfter_append,
    h.commentAfter_of_prefix (List.prefix_refl _) h.ne_nil,
    (isQuiet_comment_line hline.2).2] at hclosed
  cases hclosed

end IsComment

namespace HasAt

variable {start position : Nat} {text piece a b : List Char}

theorem isInfix (h : HasAt start text position piece) : piece <:+: text := by
  obtain ⟨before, behind, rfl, -⟩ := h
  exact ⟨before, behind, by simp⟩

theorem start_le (h : HasAt start text position piece) : start ≤ position := by
  obtain ⟨before, behind, -, rfl⟩ := h
  omega

theorem stop_le (h : HasAt start text position piece) :
    position + byteLength piece ≤ start + byteLength text := by
  obtain ⟨before, behind, rfl, rfl⟩ := h
  simp only [byteLength_append]
  omega

theorem append_left (h : HasAt start a position piece) (b : List Char) :
    HasAt start (a ++ b) position piece := by
  obtain ⟨before, behind, rfl, hposition⟩ := h
  exact ⟨before, behind ++ b, by simp, hposition⟩

theorem append_right (h : HasAt (start + byteLength a) b position piece) :
    HasAt start (a ++ b) position piece := by
  obtain ⟨before, behind, rfl, rfl⟩ := h
  exact ⟨a ++ before, behind, by simp, by rw [byteLength_append, Nat.add_assoc]⟩

/-- A comment stands on one side of a cut if no comment is open there, or the line ends. -/
theorem cut (h : HasAt start (a ++ b) position piece) (hcomment : IsComment piece)
    (hcut : commentAfter false a = true → b.head? = some '\n') :
    HasAt start a position piece ∨ HasAt (start + byteLength a) b position piece := by
  obtain ⟨before, behind, heq, rfl⟩ := h
  rcases List.append_eq_append_iff.1 heq with ⟨mid, rfl, rfl⟩ | ⟨mid, rfl, hmid⟩
  · exact .inr ⟨mid, behind, rfl, by rw [byteLength_append, Nat.add_assoc]⟩
  rcases List.append_eq_append_iff.1 hmid with ⟨mid', rfl, rfl⟩ | ⟨mid', rfl, rfl⟩
  · exact .inl ⟨before, mid', rfl, rfl⟩
  -- The cut lies within the comment, so it lies at one of its ends.
  rcases eq_or_ne mid [] with rfl | hmid
  · exact .inr ⟨[], behind, rfl, by simp⟩
  have hopen : commentAfter false (before ++ mid) = true := by
    rw [commentAfter_append]
    exact hcomment.commentAfter_of_prefix (List.prefix_append _ _) hmid _
  rcases eq_or_ne mid' [] with rfl | hmid'
  · exact .inl ⟨before, [], by simp, rfl⟩
  obtain ⟨c, mid', rfl⟩ := List.exists_cons_of_ne_nil hmid'
  obtain rfl : c = '\n' := by simpa using hcut hopen
  exact (hcomment.line (by simp)).elim

/-- A piece of a text that lies between two positions is a piece of the text there. -/
theorem of_bounds (h : HasAt start (a ++ (text ++ b)) position piece)
    (hstart : start + byteLength a ≤ position)
    (hstop : position + byteLength piece ≤ start + byteLength (a ++ text)) :
    HasAt (start + byteLength a) text position piece := by
  obtain ⟨before, behind, heq, rfl⟩ := h
  simp only [byteLength_append] at hstop
  obtain ⟨mid, rfl⟩ : ∃ mid, before = a ++ mid := by
    rcases List.append_eq_append_iff.1 heq with ⟨mid, hmid, -⟩ | ⟨mid, rfl, -⟩
    · exact ⟨mid, hmid⟩
    · obtain rfl : mid = [] := eq_nil_of_byteLength (by simp at hstart; omega)
      exact ⟨[], by simp⟩
  rw [List.append_assoc, List.append_cancel_left_eq, ← List.append_assoc] at heq
  obtain ⟨behind', rfl⟩ : ∃ behind', text = mid ++ piece ++ behind' := by
    rcases List.append_eq_append_iff.1 heq with ⟨rest, hrest, -⟩ | ⟨rest, hrest, -⟩
    · obtain rfl : rest = [] := by
        have := congrArg byteLength hrest
        simp only [byteLength_append] at this hstop
        exact eq_nil_of_byteLength (by omega)
      exact ⟨[], by simpa using hrest.symm⟩
    · exact ⟨rest, hrest⟩
  exact ⟨mid, behind', by simp, by rw [byteLength_append, Nat.add_assoc]⟩

end HasAt

end Text

/-! ### Comments among the tokens -/

namespace Token

/-- Outside of comments, a token goes on with characters that could start it. -/
theorem Kind.ofChar_eq_of_continues {kind : Kind} {c : Char} (hkind : kind ≠ .comment)
    (h : kind.continues c = true) : ofChar c = kind := by
  cases kind with
  | space => exact if_pos h
  | comment => exact absurd rfl hkind
  | word => simpa [continues] using h
  | _ => cases h

theorem length_remainder_le (c : Char) (cs : List Char) : (remainder c cs).length ≤ cs.length :=
  (List.dropWhile_suffix _).length_le

/-- Only the length of a text bounds the number of its tokens. -/
theorem listFrom_eq {limit limit' offset : Nat} {text : List Char} (h : text.length ≤ limit)
    (h' : text.length ≤ limit') : listFrom limit offset text = listFrom limit' offset text := by
  induction limit generalizing limit' offset text with
  | zero =>
    obtain rfl := List.length_eq_zero_iff.1 (Nat.le_zero.1 h)
    cases limit' <;> rfl
  | succ limit ih =>
    rcases text with - | ⟨c, cs⟩
    · cases limit' <;> rfl
    · obtain ⟨limit', rfl⟩ : ∃ n, limit' = n + 1 := ⟨limit' - 1, by simp at h'; omega⟩
      have hlength := length_remainder_le c cs
      rw [List.length_cons] at h h'
      exact congrArg (starting offset c cs :: ·) (ih (by omega) (by omega))

theorem listFrom_add (limit k offset : Nat) (text : List Char) :
    listFrom limit (k + offset) text =
      (listFrom limit offset text).map fun t => { t with offset := k + t.offset } := by
  induction limit generalizing offset text with
  | zero => rfl
  | succ limit ih =>
    rcases text with - | ⟨c, cs⟩
    · rfl
    · rw [listFrom, listFrom, List.map_cons, Nat.add_assoc, ih]
      rfl

/-- A token stands where it says, and a comment is the text of a comment. -/
theorem hasAt_of_mem_listFrom {limit offset : Nat} {text : List Char} {t : Token}
    (h : t ∈ listFrom limit offset text) :
    HasAt offset text t.offset t.text.toList ∧ (t.kind = .comment → IsComment t.text.toList) := by
  induction limit generalizing offset text with
  | zero => cases h
  | succ limit ih =>
    rcases text with - | ⟨c, cs⟩
    · cases h
    · rw [← lexeme_append_remainder]
      rcases List.mem_cons.1 h with rfl | h
      · refine ⟨⟨[], remainder c cs, by simp [starting], by simp [starting]⟩, fun hkind => ?_⟩
        obtain rfl : c = '#' := Kind.ofChar_eq_comment.1 hkind
        refine ⟨by simp [starting, lexeme], fun hline => ?_⟩
        rw [starting, String.toList_ofList, lexeme, List.mem_cons] at hline
        have hcontinues := List.mem_takeWhile_imp (hline.resolve_left (by decide))
        simp [Kind.ofChar, isBlank, Kind.continues] at hcontinues
      · obtain ⟨hhas, hcomment⟩ := ih h
        exact ⟨hhas.append_right, hcomment⟩

/-- The comments of a text that starts at byte `offset`. -/
def commentsFrom (offset : Nat) (text : List Char) : List Token :=
  (listFrom text.length offset text).filter (·.kind == .comment)

@[simp] theorem commentsFrom_nil (offset : Nat) : commentsFrom offset [] = [] := rfl

/-- The comments behind a token. -/
theorem commentsFrom_cons (offset : Nat) (c : Char) (cs : List Char) :
    commentsFrom offset (c :: cs) = (if c = '#' then [starting offset c cs] else []) ++
      commentsFrom (offset + byteLength (lexeme c cs)) (remainder c cs) := by
  have hlist : listFrom cs.length (offset + byteLength (lexeme c cs)) (remainder c cs) =
      listFrom (remainder c cs).length (offset + byteLength (lexeme c cs)) (remainder c cs) :=
    listFrom_eq (length_remainder_le c cs) le_rfl
  have hkind : ((starting offset c cs).kind == .comment) = decide (c = '#') := by
    rw [Bool.eq_iff_iff, beq_iff_eq, decide_eq_true_eq]
    exact Kind.ofChar_eq_comment
  rw [commentsFrom, List.length_cons, listFrom, List.filter_cons, hkind, hlist]
  by_cases hc : c = '#' <;> simp [hc, commentsFrom]

/-- A character that starts no comment does not matter for the comments behind it. -/
theorem commentsFrom_skip {offset : Nat} {c : Char} (hc : c ≠ '#') (cs : List Char) :
    commentsFrom offset (c :: cs) = commentsFrom (offset + c.utf8Size) cs := by
  rw [commentsFrom_cons, if_neg hc, List.nil_append]
  rcases cs with - | ⟨d, ds⟩
  · simp [remainder]
  · by_cases hd : (Kind.ofChar c).continues d = true
    · -- The next character goes on with the token, which ends where its own token does.
      have hkind : Kind.ofChar d = Kind.ofChar c := Kind.ofChar_eq_of_continues
        (fun h => hc (Kind.ofChar_eq_comment.1 h)) hd
      have hd' : d ≠ '#' := fun h => hc (by
        rw [← Kind.ofChar_eq_comment, ← hkind, h]
        decide)
      rw [commentsFrom_cons _ d, if_neg hd', List.nil_append, lexeme, lexeme, remainder, remainder,
        hkind, List.takeWhile_cons_of_pos hd, List.dropWhile_cons_of_pos hd, byteLength_cons,
        Nat.add_assoc]
    · simp [remainder, lexeme, hd]

/-- A comment in front of the end of its line. -/
theorem commentsFrom_comment (offset : Nat) {line : List Char} (hline : '\n' ∉ line)
    (rest : List Char) : commentsFrom offset ('#' :: (line ++ '\n' :: rest)) =
      ⟨.comment, String.ofList ('#' :: line), offset⟩ ::
        commentsFrom (offset + byteLength ('#' :: line)) ('\n' :: rest) := by
  have hgoes : ∀ d ∈ line, (d != '\n') = true := fun d hd => by
    simpa using fun h : d = '\n' => hline (h ▸ hd)
  obtain ⟨hlexeme, hremainder⟩ := lexeme_append (c := '#') (r := '\n' :: rest) hgoes fun d hd => by
    rw [← Option.some.inj hd]
    rfl
  rw [commentsFrom_cons, starting, hlexeme, hremainder]
  rfl

/-- The comments on both sides of a cut outside of comments. -/
theorem commentsFrom_append {a : List Char} (h : commentAfter false a = false) (offset : Nat)
    (b : List Char) : commentsFrom offset (a ++ b) =
      commentsFrom offset a ++ commentsFrom (offset + byteLength a) b := by
  induction hlength : a.length using Nat.strong_induction_on generalizing a offset with
  | h n ih =>
    rcases a with - | ⟨c, a⟩
    · simp
    rw [List.length_cons] at hlength
    by_cases hc : c = '#'
    · -- The comment ends within the text in front of the cut.
      subst hc
      have hmem : '\n' ∈ a := by
        by_contra hline
        exact Bool.noConfusion (h.symm.trans (isQuiet_comment_line hline).2)
      obtain ⟨line, rest, rfl, hline⟩ := List.eq_append_cons_of_mem hmem
      have hrest : commentAfter false ('\n' :: rest) = false := by
        rw [commentAfter, commentAfter_append] at h
        exact (commentAfter_of_newline _ _ (by simp)).symm.trans h
      have hshort : ('\n' :: rest).length < n := by
        simp only [List.length_append, List.length_cons] at hlength ⊢
        omega
      have hbehind := ih _ hshort hrest (offset + byteLength ('#' :: line)) rfl
      rw [List.cons_append, List.append_assoc, List.cons_append, commentsFrom_comment offset hline,
        commentsFrom_comment offset hline, ← List.cons_append, hbehind]
      simp [Nat.add_assoc]
    · have hstep : commentStep false c = false := by simpa [commentStep] using hc
      rw [commentAfter, hstep] at h
      rw [List.cons_append, commentsFrom_skip hc, commentsFrom_skip hc,
        ih a.length (by omega) h _ rfl, byteLength_cons, Nat.add_assoc]

/-- A text without a `#` has no comments. -/
theorem commentsFrom_eq_nil {text : List Char} (h : '#' ∉ text) (offset : Nat) :
    commentsFrom offset text = [] := by
  refine List.filter_eq_nil_iff.2 fun t ht hkind => ?_
  obtain ⟨hhas, hcomment⟩ := hasAt_of_mem_listFrom ht
  exact h (hhas.isInfix.subset (hcomment (by simpa using hkind)).mem)

theorem hasAt_of_mem_commentsFrom {offset : Nat} {text : List Char} {t : Token}
    (h : t ∈ commentsFrom offset text) :
    HasAt offset text t.offset t.text.toList ∧ IsComment t.text.toList := by
  obtain ⟨hmem, hkind⟩ := List.mem_filter.1 h
  obtain ⟨hhas, hcomment⟩ := hasAt_of_mem_listFrom hmem
  exact ⟨hhas, hcomment (by simpa using hkind)⟩

/-- A comment has a range in the text. -/
theorem bounds_of_mem_commentsFrom {offset : Nat} {text : List Char} {t : Token}
    (h : t ∈ commentsFrom offset text) :
    offset ≤ t.offset ∧ t.offset < t.stop ∧ t.stop ≤ offset + byteLength text := by
  obtain ⟨hat, hcomment⟩ := hasAt_of_mem_commentsFrom h
  have hne : byteLength t.text.toList ≠ 0 := fun hzero =>
    hcomment.ne_nil (eq_nil_of_byteLength hzero)
  refine ⟨hat.start_le, ?_, hat.stop_le⟩
  rw [stop]
  omega

/-- The texts of comments do not depend on where the text starts. -/
theorem texts_commentsFrom (offset : Nat) (text : List Char) :
    (commentsFrom offset text).map (·.text) = (commentsFrom 0 text).map (·.text) := by
  have hlist := listFrom_add text.length offset 0 text
  rw [Nat.add_zero] at hlist
  rw [commentsFrom, hlist, List.filter_map, List.map_map]
  rfl

end Token

/-- The comments of a text. -/
def comments (text : List Char) : List Token :=
  (Token.ofText text).filter (·.kind == .comment)

end PolicyEditor
