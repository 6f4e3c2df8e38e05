import PolicyEditor.Proofs.Grammar.Tokens
import PolicyEditor.Proofs.Text.Lines
import PolicyEditor.Source

/-!
# Where faults arise

A reader that refuses a text reports the token that comes next or one that it has read already, and
at the end of the text the end.  A reader that accepts goes on behind some of the tokens that were
ahead of it: also the rest of a line that is taken for a description ends between two tokens, as no
token but a run of blanks goes on behind a line feed.  Both facts compose, so that the fault of a
whole text is at one of its tokens or at its end, and its line and column tell this place.  This
needs a text of fewer than `2 ^ 32` bytes, as the place of a longer line may be lost.

## Main definitions

* `Cursor.Passes` : a later place, with fewer tokens ahead.
* `Cursor.Ahead` : a position at which a token ahead starts, or the end of the text.
* `Reading.Stays` : a reading that goes on behind the place or has its fault ahead of it.
* `PolicyError.PointsInto` : an error at a token of a text or at its end.

## Main results

* `Cursor.passes_lineEnd` : the end of the line is between two tokens.
* `Definition.stays_read`, `Forest.stays_readDefinitions` : the readers of definitions stay.
* `pointsInto_of_error` : the errors of files and element lists point into their texts.
-/

namespace PolicyEditor

open Text

namespace Cursor

/-! ### Later places -/

/-- The byte offset at the end of the text. -/
def stop (c : Cursor) : Nat :=
  c.offset + byteLength c.rest

/-- The place `c'` is `c` or a later place of the same text, with some of the tokens still ahead. -/
structure Passes (c c' : Cursor) : Prop where
  tokens : c'.tokens <:+ c.tokens
  stop_eq : c'.stop = c.stop

/-- A token ahead of the place starts at the offset, or the text ends there. -/
def Ahead (c : Cursor) (offset : Nat) : Prop :=
  (∃ t ∈ c.tokens, t.offset = offset) ∨ offset = c.stop

variable {c c' c'' : Cursor} {offset : Nat}

theorem Passes.refl (c : Cursor) : c.Passes c :=
  ⟨List.suffix_refl _, rfl⟩

theorem Passes.trans (h : c.Passes c') (h' : c'.Passes c'') : c.Passes c'' :=
  ⟨h'.tokens.trans h.tokens, h'.stop_eq.trans h.stop_eq⟩

theorem Ahead.of_passes (hahead : c'.Ahead offset) (h : c.Passes c') : c.Ahead offset := by
  rcases hahead with ⟨t, ht, hoffset⟩ | hstop
  · exact .inl ⟨t, h.tokens.subset ht, hoffset⟩
  · exact .inr (hstop.trans h.stop_eq)

theorem Reads.stop_eq {text : List Char} (h : c.Reads text c') : c'.stop = c.stop := by
  rw [stop, stop, h.rest, h.offset, byteLength_append, Nat.add_assoc]

theorem offset_of_next? {t : Token} (h : c.next? = some (t, c')) : t.offset = c.start := by
  simp only [next?] at h
  split at h
  · cases h
  · cases h
    rfl

/-- Behind the next token there are the other ones. -/
theorem passes_of_next? {t : Token} (h : c.next? = some (t, c')) : c.Passes c' := by
  obtain ⟨trivia, lexeme, -, -, -, -, hreads⟩ := next?_eq_some h
  exact ⟨by rw [c.tokens_eq, h]; exact List.suffix_cons t _, hreads.stop_eq⟩

/-- The next token starts ahead, and so does the end of the text if there is none. -/
theorem ahead_start (c : Cursor) : c.Ahead c.start := by
  cases hnext : c.next? with
  | some next =>
    obtain ⟨t, c'⟩ := next
    exact .inl ⟨t, by rw [c.tokens_eq, hnext]; exact List.mem_cons_self, offset_of_next? hnext⟩
  | none =>
    have hrest : (splitTrivia false c.rest).2 = [] := by
      simp only [next?, skipTrivia, advance] at hnext
      split at hnext
      · assumption
      · cases hnext
    have htrivia : (splitTrivia false c.rest).1 = c.rest := by
      conv_rhs => rw [← splitTrivia_append false c.rest, hrest, List.append_nil]
    have hstart : c.start = c.offset + byteLength (splitTrivia false c.rest).1 := rfl
    exact .inr (by rw [hstart, htrivia, stop])

theorem ahead_of_next? {t : Token} (h : c.next? = some (t, c')) : c.Ahead t.offset :=
  offset_of_next? h ▸ c.ahead_start

theorem ahead_unexpected (c : Cursor) (wanted : String) : c.Ahead (c.unexpected wanted).offset :=
  c.ahead_start

theorem passes_bump (c : Cursor) : c.Passes c.bump := by
  rw [bump]
  split
  · next hnext => exact passes_of_next? hnext
  · exact .refl c

theorem passes_of_eat? {kind : Token.Kind} (h : c.eat? kind = some c') : c.Passes c' := by
  rw [eat?] at h
  split at h
  · next hnext =>
    split at h
    · cases h
      exact passes_of_next? hnext
    · cases h
  · cases h

/-! ### The end of the line -/

/-- A run of characters that the text behind `a` does not go on with ends in `a`. -/
theorem takeWhile_dropWhile_append {p : Char → Bool} {a b : List Char}
    (h : ∀ d ∈ b.head?, p d = false) : (a ++ b).takeWhile p = a.takeWhile p ∧
      (a ++ b).dropWhile p = a.dropWhile p ++ b := by
  have hstop : b.takeWhile p = [] ∧ b.dropWhile p = b := by
    cases b with
    | nil => exact ⟨rfl, rfl⟩
    | cons d b =>
      have hd := h d rfl
      exact ⟨List.takeWhile_cons_of_neg (by simp [hd]), List.dropWhile_cons_of_neg (by simp [hd])⟩
  rw [List.takeWhile_append, List.dropWhile_append, hstop.1, hstop.2]
  constructor
  · split
    · next hlength =>
      rw [List.append_nil]
      exact ((List.takeWhile_prefix p).eq_of_length hlength).symm
    · rfl
  · split
    · next hempty => rw [List.isEmpty_iff.1 hempty, List.nil_append]
    · rfl

/-- Of the tokens of a line and of the text behind it, those of this text are left behind the line.
The induction is on the line, token by token: a run of blanks may go on behind it, but each blank
may as well be taken for itself. -/
theorem tokens_line {line rest : List Char} (hline : '\n' ∉ line)
    (hrest : ∀ d ∈ rest.head?, d = '\n') (n : Nat) :
    (⟨n + byteLength line, rest⟩ : Cursor).tokens <:+ (⟨n, line ++ rest⟩ : Cursor).tokens := by
  induction hlength : line.length using Nat.strongRecOn generalizing n line with
  | ind length ih =>
    rcases line with - | ⟨d, line⟩
    · exact List.suffix_refl _
    rw [List.mem_cons, not_or] at hline
    by_cases hspace : Token.Kind.ofChar d = .space
    · have htrivia : IsTrivia [d] :=
        .of_blank fun e he => by
          obtain rfl := List.mem_singleton.1 he
          exact Token.Kind.isBlank_of_ofChar hspace
      have hreads : (⟨n, d :: line ++ rest⟩ : Cursor).Reads [d] ⟨n + d.utf8Size, line ++ rest⟩ :=
        ⟨rfl, rfl⟩
      rw [tokens_trivia hreads htrivia, byteLength_cons, ← Nat.add_assoc]
      exact ih line.length (by rw [← hlength]; exact Nat.lt_succ_self _) hline.2 _ rfl
    · -- No other token goes on behind a line feed.
      have hstops : (Token.Kind.ofChar d).continues '\n' = false := by
        cases hkind : Token.Kind.ofChar d with
        | space => exact absurd hkind hspace
        | _ => rfl
      generalize hp : (Token.Kind.ofChar d).continues = p at hstops
      have hsplit : (line ++ rest).takeWhile p = line.takeWhile p ∧
          (line ++ rest).dropWhile p = line.dropWhile p ++ rest :=
        takeWhile_dropWhile_append fun e he => hrest e he ▸ hstops
      have hlexeme : Token.lexeme d (line ++ rest) = d :: line.takeWhile p := by
        rw [Token.lexeme, hp, hsplit.1]
      have hremainder : Token.remainder d (line ++ rest) = line.dropWhile p ++ rest := by
        rw [Token.remainder, hp, hsplit.2]
      have hbytes : n + byteLength (d :: line) =
          n + byteLength (d :: line.takeWhile p) + byteLength (line.dropWhile p) := by
        rw [Nat.add_assoc, ← byteLength_append, List.cons_append, List.takeWhile_append_dropWhile]
      rw [List.cons_append, tokens_cons, hlexeme, hremainder, hbytes]
      refine (ih _ ?_ (fun hmem => hline.2 ((List.dropWhile_sublist p).subset hmem)) _ rfl).trans
        (List.suffix_append _ _)
      rw [← hlength]
      exact Nat.lt_succ_of_le (List.dropWhile_sublist p).length_le

theorem passes_lineEnd (c : Cursor) : c.Passes c.lineEnd := by
  have hreads := c.reads_lineEnd
  refine ⟨?_, hreads.stop_eq⟩
  have htokens := tokens_line c.newline_notMem_firstLine c.head?_lineEnd c.offset
  rwa [← hreads.rest, ← hreads.offset] at htokens

end Cursor

/-! ### Readings -/

namespace Reading

variable {α β : Type} {c c' : Cursor}

/-- The reading goes on at a later place, or its fault is ahead of the place. -/
def Stays (c : Cursor) : Reading (α × Cursor) → Prop
  | .ok (_, c') => c.Passes c'
  | .error fault => c.Ahead fault.offset

theorem Stays.of_passes {r : Reading (α × Cursor)} (hr : Stays c' r) (h : c.Passes c') :
    Stays c r := by
  rcases r with fault | ⟨a, c''⟩
  · exact Cursor.Ahead.of_passes hr h
  · exact h.trans hr

theorem Stays.bind {x : Reading (α × Cursor)} {f : α × Cursor → Reading (β × Cursor)}
    (hx : Stays c x) (hf : ∀ a c', c.Passes c' → Stays c' (f (a, c'))) : Stays c (x >>= f) := by
  rcases x with fault | ⟨a, c'⟩
  · exact hx
  · exact (hf a c' hx).of_passes hx

theorem stays_ok (a : α) (c : Cursor) : Stays c (.ok (a, c)) :=
  .refl c

theorem stays_unexpected (wanted : String) : Stays (α := α) c (.error (c.unexpected wanted)) :=
  c.ahead_unexpected wanted

/-- Behind an optional token the reading goes on with `f`, and without it with `r`. -/
theorem stays_eat? {kind : Token.Kind} {f : Cursor → Reading (α × Cursor)}
    {r : Reading (α × Cursor)} (hf : ∀ c', c.Passes c' → Stays c' (f c')) (hr : Stays c r) :
    Stays c (match c.eat? kind with
      | some c' => f c'
      | none => r) := by
  split
  · next heat => exact (hf _ (Cursor.passes_of_eat? heat)).of_passes (Cursor.passes_of_eat? heat)
  · exact hr

end Reading

namespace Cursor

open Reading

variable {α : Type} {c : Cursor}

/-- A reading that goes on behind a token of the wanted kind may report that token. -/
theorem stays_expectAs_bind {kind : Token.Kind} {wanted : String}
    {f : Token × Cursor → Reading (α × Cursor)}
    (hf : ∀ t c', c.Passes c' → c.Ahead t.offset → Stays c (f (t, c'))) :
    Stays c (c.expectAs kind wanted >>= f) := by
  rw [expectAs]
  split
  · next t c' hnext =>
    split
    · exact hf t c' (passes_of_next? hnext) (ahead_of_next? hnext)
    · exact stays_unexpected wanted
  · exact stays_unexpected wanted

theorem stays_expectAs (kind : Token.Kind) (wanted : String) :
    Stays c (c.expectAs kind wanted) := by
  rw [expectAs]
  split
  · next hnext =>
    split
    · exact passes_of_next? hnext
    · exact stays_unexpected wanted
  · exact stays_unexpected wanted

theorem stays_expect (kind : Token.Kind) : Stays c (c.expect kind) :=
  stays_expectAs kind kind.describe

theorem stays_expectWord_bind {word : String} {f : Cursor → Reading (α × Cursor)}
    (hf : ∀ c', c.Passes c' → Stays c' (f c')) : Stays c (c.expectWord word >>= f) := by
  rw [expectWord]
  split
  · exact (hf c.bump c.passes_bump).of_passes c.passes_bump
  · exact stays_unexpected s!"'{word}'"

end Cursor

open Reading

/-! ### Lists -/

namespace Layout

variable {α : Type} {item : Cursor → Reading (α × Cursor)}

theorem stays_readItems (hitem : ∀ c, Stays c (item c)) (close : Token.Kind) (limit : Nat)
    (previous : Option Nat) (c : Cursor) : Stays c (readItems item close limit previous c) := by
  induction limit generalizing previous c with
  | zero => exact stays_unexpected close.describe
  | succ limit ih =>
    rw [readItems]
    split
    · exact stays_ok _ c
    · refine (hitem c).bind fun _ c₁ _ => stays_eat? (fun c₂ _ => ?_) ?_
      · exact (ih _ c₂).bind fun _ c₃ _ => stays_ok _ c₃
      · split
        · exact stays_ok _ c₁
        · exact stays_unexpected _

theorem stays_readList (hitem : ∀ c, Stays c (item c)) (close : Token.Kind) (c : Cursor) :
    Stays c (readList item close c) :=
  (stays_readItems hitem close _ none c).bind fun _ _ _ =>
    (Cursor.stays_expect close).bind fun _ c₂ _ => stays_ok _ c₂

theorem stays_readStatements (hitem : ∀ c, Stays c (item c)) (stop : Cursor → Bool) (limit : Nat)
    (previous : Option Nat) (c : Cursor) : Stays c (readStatements stop item limit previous c) := by
  induction limit generalizing previous c with
  | zero => exact stays_ok _ c
  | succ limit ih =>
    rw [readStatements]
    split
    · exact stays_ok _ c
    · exact (hitem c).bind fun _ c₁ _ => (ih _ c₁).bind fun _ c₂ _ => stays_ok _ c₂

end Layout

/-! ### Elements -/

namespace Element

variable {element : Cursor → Reading (Element × Cursor)}

theorem stays_readTerm (h : ∀ c, Stays c (element c)) (c : Cursor) :
    Stays c (readTerm element c) :=
  stays_eat? (fun c₁ _ => (h c₁).bind fun _ c₂ _ => stays_ok _ c₂) (h c)

theorem stays_readConjuncts (h : ∀ c, Stays c (element c)) (limit : Nat) (c : Cursor) :
    Stays c (readConjuncts element limit c) := by
  induction limit generalizing c with
  | zero => exact stays_ok _ c
  | succ limit ih =>
    rw [readConjuncts]
    split
    · exact stays_ok _ c
    · next c₁ heat =>
      have hpasses := Cursor.passes_of_eat? heat
      refine Stays.of_passes ?_ hpasses
      exact (stays_readTerm h c₁).bind fun _ c₂ _ =>
        (ih c₂).bind fun _ c₃ _ => stays_ok _ c₃

theorem stays_readIntersection (h : ∀ c, Stays c (element c)) (c : Cursor) :
    Stays c (readIntersection element c) :=
  (stays_readTerm h c).bind fun _ c₁ _ =>
    (stays_readConjuncts h _ c₁).bind fun _ c₂ _ => stays_ok _ c₂

theorem stays_readSelector (c : Cursor) : Stays c (readSelector c) :=
  (Cursor.stays_expect .openBracket).bind fun _ _ _ =>
    (Cursor.stays_expect .word).bind fun _ _ _ =>
      (Cursor.stays_expect .closeBracket).bind fun _ c₃ _ => stays_ok _ c₃

theorem stays_readAutoSelector (c : Cursor) : Stays c (readAutoSelector c) := by
  rw [readAutoSelector]
  split
  · refine Stays.of_passes ?_ c.passes_bump
    dsimp only
    split
    · exact (stays_readSelector c.bump).bind fun _ c₁ _ => stays_ok _ c₁
    · exact stays_unexpected _
  · exact stays_ok _ c

theorem stays_readAutoIp (c : Cursor) : Stays c (readAutoIp c) := by
  rw [readAutoIp]
  split
  · refine Stays.of_passes ?_ (c.passes_bump.trans c.bump.passes_bump)
    exact (Cursor.stays_expect .word).bind fun _ _ _ =>
      (Cursor.stays_expect .ampersand).bind fun _ c₂ _ => stays_ok _ c₂
  · exact stays_ok _ c

theorem stays_readAuto (h : ∀ c, Stays c (element c)) (type : String) (c : Cursor) :
    Stays c (readAuto element type c) := by
  refine (Cursor.stays_expect .openBracket).bind fun _ c₁ _ => ?_
  have hpasses : c₁.Passes (if c₁.seesKey "managed" .ampersand then c₁.bump.bump else c₁) := by
    split
    · exact c₁.passes_bump.trans c₁.bump.passes_bump
    · exact .refl c₁
  refine Stays.of_passes ?_ hpasses
  exact (stays_readAutoIp _).bind fun _ c₂ _ =>
    (Layout.stays_readList (stays_readIntersection h) .closeBracket c₂).bind fun _ c₃ _ =>
      (stays_readAutoSelector c₃).bind fun _ c₄ _ => stays_ok _ c₄

/-- The reader of an element reports the next token, or the word that it has read. -/
theorem stays_read (depth : Nat) (c : Cursor) : Stays c (read depth c) := by
  induction depth generalizing c with
  | zero => exact stays_unexpected "element"
  | succ depth ih =>
    rw [read]
    refine Cursor.stays_expectAs_bind fun word c₁ hpasses hword => ?_
    dsimp only
    split
    · exact (stays_ok _ c₁).of_passes hpasses
    · split
      · exact hword
      · split
        · split
          · exact (stays_readAuto ih _ c₁).of_passes hpasses
          · exact hword
        · split
          · refine Stays.of_passes ?_ hpasses
            exact (stays_readSelector c₁).bind fun _ c₂ _ => stays_ok _ c₂
          · exact (stays_ok _ c₁).of_passes hpasses

theorem stays_readItem (c : Cursor) : Stays c (readItem c) :=
  stays_readIntersection (stays_read _) c

theorem stays_readUnion (c : Cursor) : Stays c (readUnion c) :=
  Layout.stays_readList stays_readItem .semicolon c

end Element

/-! ### Values and attributes -/

theorem Value.passes_skip (limit depth : Nat) (c : Cursor) : c.Passes (skip limit depth c) := by
  induction limit generalizing depth c with
  | zero => exact .refl c
  | succ limit ih =>
    rw [skip]
    split
    · exact .refl c
    · next t c' hnext =>
      have hpasses (depth : Nat) : c.Passes (skip limit depth c') :=
        (Cursor.passes_of_next? hnext).trans (ih depth c')
      split
      · exact hpasses depth
      · exact hpasses depth
      · exact hpasses depth
      · exact hpasses (depth + 1)
      · split
        · exact .refl c
        · exact hpasses (depth - 1)
      · split
        · exact .refl c
        · exact hpasses depth
      · split
        · exact .refl c
        · exact hpasses depth
      · split
        · exact .refl c
        · exact hpasses depth
      · exact .refl c

theorem Value.stays_readText (c : Cursor) : Stays c (readText c) := by
  rw [readText]
  split
  · exact stays_unexpected "value"
  · exact passes_skip _ 0 c

theorem Value.stays_readList (c : Cursor) : Stays c (readList c) :=
  (Layout.stays_readList stays_readText .semicolon c).bind fun _ c₁ _ => stays_ok _ c₁

theorem stays_readBlock {entry : Cursor → Reading (Attribute × Cursor)}
    (h : ∀ c, Stays c (entry c)) (c : Cursor) : Stays c (readBlock entry c) := by
  refine (Layout.stays_readStatements (fun c => ?_) _ _ none c).bind fun _ _ _ =>
    (Cursor.stays_expect .closeBrace).bind fun _ c₂ _ => stays_ok _ c₂
  split
  · exact stays_unexpected _
  · exact h c

theorem Attribute.stays_readNested (depth : Nat) (c : Cursor) : Stays c (readNested depth c) := by
  induction depth generalizing c with
  | zero => exact stays_unexpected "attribute"
  | succ depth ih =>
    rw [readNested]
    refine (Cursor.stays_expectAs .word "attribute").bind fun name c₁ _ => ?_
    refine stays_eat? (fun c₂ _ => stays_ok _ c₂) ?_
    refine (Cursor.stays_expect .equals).bind fun _ c₂ _ => stays_eat? (fun c₃ _ => ?_) ?_
    · exact (stays_readBlock ih c₃).bind fun _ c₄ _ => stays_ok _ c₄
    · exact (Value.stays_readList c₂).bind fun _ c₃ _ => stays_ok _ c₃

theorem Attribute.stays_read (c : Cursor) : Stays c (read c) :=
  stays_readNested _ c

theorem stays_readDescription (c : Cursor) : Stays c (readDescription c) := by
  rw [readDescription]
  split
  · exact (c.passes_bump.trans c.bump.passes_bump).trans c.bump.bump.passes_lineEnd
  · exact stays_ok _ c

/-! ### Services -/

theorem Union.stays_read (role : Role) (c : Cursor) : Stays c (read role c) := by
  refine Cursor.stays_expectWord_bind fun c₁ _ =>
    (Cursor.stays_expect .equals).bind fun _ c₂ _ => ?_
  dsimp only
  generalize (role == .user && (c₂.seesKey "foreach" .word || c₂.seesKey "foreach" .bang)) = foreach
  have hpasses : c₂.Passes (if foreach then c₂.bump else c₂) := by
    split
    · exact c₂.passes_bump
    · exact .refl c₂
  refine Stays.of_passes ?_ hpasses
  exact (Element.stays_readUnion _).bind fun _ c₃ _ => stays_ok _ c₃

theorem Action.stays_read (c : Cursor) : Stays c (read c) := by
  rw [read]
  split
  · next t c' hnext =>
    split
    · exact Cursor.passes_of_next? hnext
    · exact stays_unexpected _
  · exact stays_unexpected _

namespace Rule

theorem stays_readAttribute (name : String) (previous : Option Nat) (c : Cursor) :
    Stays c (readAttribute name previous c) := by
  rw [readAttribute]
  split
  · exact (Attribute.stays_read c).bind fun _ c₁ _ => stays_ok _ c₁
  · exact stays_unexpected _

theorem stays_readSide (role : Role) (previous : Option Nat) (c : Cursor) :
    Stays c (readSide role previous c) :=
  (Union.stays_read role c).bind fun _ c₁ _ => stays_ok _ c₁

theorem stays_read (c : Cursor) : Stays c (read c) := by
  refine (Action.stays_read c).bind fun _ c₁ _ => (stays_readSide .src _ c₁).bind fun _ c₂ _ =>
    (stays_readSide .dst _ c₂).bind fun _ c₃ _ =>
      (stays_readAttribute "prt" _ c₃).bind fun _ c₄ _ => ?_
  dsimp only
  split
  · exact (stays_readAttribute "log" _ c₄).bind fun _ c₅ _ => stays_ok _ c₅
  · exact stays_ok _ c₄

end Rule

namespace Service

theorem stays_readAttribute (c : Cursor) : Stays c (readAttribute c) := by
  rw [readAttribute]
  split
  · exact stays_unexpected _
  · exact Attribute.stays_read c

theorem stays_read (c : Cursor) : Stays c (read c) :=
  (Cursor.stays_expect .openBrace).bind fun _ c₁ _ =>
    (stays_readDescription c₁).bind fun _ c₂ _ =>
      (Layout.stays_readStatements stays_readAttribute _ _ none c₂).bind fun _ c₃ _ =>
        (Union.stays_read .user c₃).bind fun _ c₄ _ =>
          (Layout.stays_readStatements Rule.stays_read _ _ _ c₄).bind fun _ _ _ =>
            (Cursor.stays_expect .closeBrace).bind fun _ c₆ _ => stays_ok _ c₆

end Service

/-! ### Definitions and files -/

theorem Block.stays_read (c : Cursor) : Stays c (read c) :=
  (Cursor.stays_expect .openBrace).bind fun _ c₁ _ =>
    (stays_readDescription c₁).bind fun _ c₂ _ =>
      (stays_readBlock Attribute.stays_read c₂).bind fun _ c₃ _ => stays_ok _ c₃

theorem Group.stays_read (c : Cursor) : Stays c (read c) :=
  (stays_readDescription c).bind fun _ c₁ _ =>
    (Element.stays_readUnion c₁).bind fun _ c₂ _ => stays_ok _ c₂

theorem Body.stays_read (type : String) (c : Cursor) : Stays c (read type c) := by
  rw [read]
  split
  · exact (Group.stays_read c).bind fun _ c₁ _ => stays_ok _ c₁
  · split
    · exact (Service.stays_read c).bind fun _ c₁ _ => stays_ok _ c₁
    · split
      · exact (Block.stays_read c).bind fun _ c₁ _ => stays_ok _ c₁
      · split
        · exact (Block.stays_read c).bind fun _ c₁ _ => stays_ok _ c₁
        · exact (Value.stays_readList c).bind fun _ c₁ _ => stays_ok _ c₁

/-- The reader of a definition reports the next token, or the name that it has read. -/
theorem Definition.stays_read (c : Cursor) : Stays c (read c) := by
  refine Cursor.stays_expectAs_bind fun name c₁ hpasses hname => ?_
  dsimp only
  split
  · exact hname
  · next type _ =>
    refine Stays.of_passes ?_ hpasses
    exact (Cursor.stays_expect .equals).bind fun _ c₂ _ =>
      (Body.stays_read type c₂).bind fun _ c₃ _ => stays_ok _ c₃

theorem Forest.stays_readDefinitions (limit : Nat) (previous : Option Nat) (c : Cursor) :
    Stays c (readDefinitions limit previous c) := by
  induction limit generalizing previous c with
  | zero => exact stays_ok _ c
  | succ limit ih =>
    rw [readDefinitions]
    split
    · exact stays_ok _ c
    · exact (Definition.stays_read c).bind fun _ c₁ _ => (ih _ c₁).bind fun _ c₂ _ => stays_ok _ c₂

/-- The fault of a file is ahead of its start. -/
theorem Forest.ahead_of_parse {text : List Char} {fault : Cursor.Fault}
    (h : parse text = .error fault) : (Cursor.ofText text).Ahead fault.offset := by
  have hstays := stays_readDefinitions (text.length + 1) none (.ofText text)
  rw [parse] at h
  cases hread : readDefinitions (text.length + 1) none (.ofText text) with
  | error fault' =>
    rw [hread] at h hstays
    cases h
    exact hstays
  | ok result =>
    rw [hread] at h
    cases h

/-- The fault of an element list is ahead of the place from which it is read. -/
theorem Element.ahead_of_readAll {limit : Nat} {c : Cursor} {fault : Cursor.Fault}
    (h : readAll limit c = .error fault) : c.Ahead fault.offset := by
  induction limit generalizing c with
  | zero => cases h
  | succ limit ih =>
    rw [readAll] at h
    split at h
    · cases h
    · have hstays := stays_readItem c
      cases hitem : readItem c with
      | error fault' =>
        rw [hitem] at h hstays
        cases h
        exact hstays
      | ok result =>
        obtain ⟨e, c₁⟩ := result
        rw [hitem] at h hstays
        replace hstays : c.Passes c₁ := hstays
        replace h : (match c₁.eat? .comma with
          | some c₂ => readAll limit c₂ >>= fun es => pure (e :: es)
          | none => if c₁.atEnd then pure [e]
            else .error (c₁.unexpected Token.Kind.comma.describe)) = .error fault := h
        split at h
        · next c₂ heat =>
          cases hrest : readAll limit c₂ with
          | error fault' =>
            rw [hrest] at h
            cases h
            exact ((ih hrest).of_passes (Cursor.passes_of_eat? heat)).of_passes hstays
          | ok es =>
            rw [hrest] at h
            cases h
        · split at h
          · cases h
          · cases h
            exact (c₁.ahead_unexpected _).of_passes hstays

/-! ### Errors -/

/-- The error is called `file` and tells a line and a column of the text.  They are those of one
byte offset only: a token that is neither blank nor a comment starts there, or the text ends
there. -/
def PolicyError.PointsInto (file : String) (text : List Char) (e : PolicyError) : Prop :=
  ∃ place cause offset, e = .parse file place cause ∧
    ((∃ t ∈ Token.ofText text, t.kind.isTrivia = false ∧ t.offset = offset) ∨
      offset = byteLength text) ∧
    ∀ other, place.Tells text other ↔ other = offset

/-- A fault ahead of the start of a text is at one of its tokens or at its end. -/
theorem Cursor.Ahead.of_ofText {text : List Char} {offset : Nat}
    (h : (Cursor.ofText text).Ahead offset) :
    (∃ t ∈ Token.ofText text, t.kind.isTrivia = false ∧ t.offset = offset) ∨
      offset = byteLength text := by
  rcases h with ⟨t, ht, hoffset⟩ | hstop
  · rw [Cursor.tokens_ofText, List.mem_filter, Bool.not_eq_true'] at ht
    exact .inl ⟨t, ht.1, ht.2, hoffset⟩
  · exact .inr (hstop.trans (Nat.zero_add _))

/-- A fault ahead of the start of a text that is not too long is located in it. -/
theorem Cursor.Ahead.pointsInto {text : List Char} (hsize : byteLength text < offsetLimit)
    {fault : Cursor.Fault} (h : (Cursor.ofText text).Ahead fault.offset) (file : String) :
    (fault.locate file text).PointsInto file text := by
  have hplace := h.of_ofText
  have hoffset : fault.offset < offsetLimit := by
    rcases hplace with ⟨t, ht, -, hoffset⟩ | hstop
    · have := (Token.hasAt_of_mem_listFrom ht).1.stop_le
      omega
    · omega
  have htells := LineIndex.tells_position hsize hoffset
  exact ⟨_, _, fault.offset, rfl, hplace, fun other =>
    ⟨fun hother => hother.unique htells, fun heq => heq ▸ htells⟩⟩

/-- The error of a refused file or element list of fewer than `2 ^ 32` bytes points into its
text. -/
theorem pointsInto_of_error {text : String} (hsize : byteLength text.toList < offsetLimit)
    (label : String) (e : PolicyError) :
    (parseFile text label = .error e → e.PointsInto label text.toList) ∧
      (parseUnion text = .error e → e.PointsInto "union" text.toList) := by
  constructor <;> intro h
  · rw [parseFile] at h
    cases hparse : Forest.parse text.toList with
    | ok f =>
      rw [hparse] at h
      cases h
    | error fault =>
      rw [hparse] at h
      cases h
      exact (Forest.ahead_of_parse hparse).pointsInto hsize label
  · rw [parseUnion] at h
    cases hparse : Element.parseList text.toList with
    | ok es =>
      rw [hparse] at h
      cases h
    | error fault =>
      rw [hparse] at h
      cases h
      exact (Element.ahead_of_readAll hparse).pointsInto hsize "union"

/-- A missing separator is told at the brace behind it, and a missing comma at the element behind
it. -/
theorem pointsInto_of_error_separator :
    ∃ cause cause' e e', e = .parse "bad" ⟨3, 1⟩ cause ∧ e' = .parse "union" ⟨1, 8⟩ cause' ∧
      byteLength "owner:a = \x7b\n admins = x\n\x7d".toList < offsetLimit ∧
      byteLength "host:a host:b".toList < offsetLimit ∧
      parseFile "owner:a = \x7b\n admins = x\n\x7d" "bad" = .error e ∧
      e.PointsInto "bad" "owner:a = \x7b\n admins = x\n\x7d".toList ∧
      parseUnion "host:a host:b" = .error e' ∧
      e'.PointsInto "union" "host:a host:b".toList := by
  obtain ⟨cause, hfile⟩ : ∃ cause, parseFile "owner:a = \x7b\n admins = x\n\x7d" "bad" =
      .error (.parse "bad" ⟨3, 1⟩ cause) := ⟨_, rfl⟩
  obtain ⟨cause', hunion⟩ : ∃ cause, parseUnion "host:a host:b" =
      .error (.parse "union" ⟨1, 8⟩ cause) := ⟨_, rfl⟩
  have hsize : byteLength "owner:a = \x7b\n admins = x\n\x7d".toList < offsetLimit := by
    decide +kernel
  have hsize' : byteLength "host:a host:b".toList < offsetLimit := by decide +kernel
  exact ⟨cause, cause', _, _, rfl, rfl, hsize, hsize', hfile,
    (pointsInto_of_error hsize _ _).1 hfile, hunion,
    (pointsInto_of_error hsize' "bad" _).2 hunion⟩

section LongLine

open LineIndex

/-- A word with a brace right behind it is no definition. -/
theorem Forest.parse_braced (rest : List Char) :
    parse ("owner:a\x7d".toList ++ rest) =
      .error ⟨7, .unexpected Token.Kind.equals.describe (.token .closeBrace)⟩ := by
  have hstart : (⟨0, "owner:a\x7d".toList ++ rest⟩ : Cursor).atEnd = false := rfl
  have hword : (⟨0, "owner:a\x7d".toList ++ rest⟩ : Cursor).expectAs .word "definition" =
      .ok (⟨.word, "owner:a", 0⟩, ⟨7, '\x7d' :: rest⟩) := rfl
  have htype : definitionType? "owner:a" = some "owner" := by decide +kernel
  have hequals : (⟨7, '\x7d' :: rest⟩ : Cursor).expect .equals =
      .error ⟨7, .unexpected Token.Kind.equals.describe (.token .closeBrace)⟩ := rfl
  simp only [parse, Cursor.ofText, readDefinitions, hstart, Definition.read, hword, htype, hequals,
    bind, Except.bind]
  rfl

theorem Cursor.tokens_wideText (n : Nat) :
    (Cursor.ofText (wideText n)).tokens =
      [⟨.word, "owner:a", 0⟩, ⟨.closeBrace, "\x7d", 7⟩] := by
  have hback : "\n   ".toList.all isBlank = true := rfl
  have hquiet : kindAhead? (List.replicate n ' ' ++ "\n   ".toList) = none := by
    refine kindAhead?_of_isQuiet (IsTrivia.of_blank fun c hc => ?_).quiet
    rcases List.mem_append.1 hc with hc | hc
    · rw [List.eq_of_mem_replicate hc]
      rfl
    · exact List.all_eq_true.1 hback c hc
  have hword : (Cursor.ofText (wideText n)).next? = some (⟨.word, "owner:a", 0⟩,
      ⟨7, [] ++ '\x7d' :: (List.replicate n ' ' ++ "\n   ".toList)⟩) := rfl
  rw [tokens_eq, hword]
  dsimp only
  rw [tokens_eq, next?_sign .nil (κ := .closeBrace) rfl]
  dsimp only
  rw [tokens_eq_nil.2 hquiet]
  rfl

/-- The second line of this text has no token in its third column, nor does the text end there. -/
theorem not_tells_wideText (n : Nat) {offset : Nat}
    (h : offset = 0 ∨ offset = 7 ∨ offset = byteLength (wideText n)) :
    ¬(⟨2, 3⟩ : Position).Tells (wideText n) offset := by
  intro htells
  obtain rfl | rfl | rfl := h
  · cases htells.line
  · have hline := htells.line
    rw [count_take_wideText] at hline
    cases hline
  · have hlength : byteLength (wideText n) = 8 + (n * 1 + 4) := by
      have htext : wideText n =
        "owner:a\x7d".toList ++ (List.replicate n ' ' ++ "\n   ".toList) := rfl
      rw [htext, byteLength_append, byteLength_append, byteLength_replicate]
      rfl
    obtain ⟨start, hstart, hcolumn⟩ := htells.column
    have hle := hstart.le
    dsimp only at hcolumn
    obtain rfl | ⟨i, hfeed, rfl⟩ := hstart.front
    · omega
    · -- There is only one line feed.
      have hmem : i + 1 ∈ startsFrom 0 (wideText n) := mem_startsFrom.2 ⟨i, hfeed, by omega⟩
      rw [startsFrom_wideText, List.mem_singleton] at hmem
      omega

/-- In a text that is too long, the line and column of an error may be those of no token. -/
theorem not_pointsInto_of_error_longLine :
    ∃ cause e, e = .parse "f" ⟨2, 3⟩ cause ∧
      parseFile (String.ofList longLine) "f" = .error e ∧
      ¬e.PointsInto "f" (String.ofList longLine).toList := by
  have hparse : Forest.parse longLine =
      .error ⟨7, .unexpected Token.Kind.equals.describe (.token .closeBrace)⟩ :=
    Forest.parse_braced _
  have hlocate (cause : Cursor.Cause) :
      Cursor.Fault.locate "f" longLine ⟨7, cause⟩ = .parse "f" ⟨2, 3⟩ cause := by
    rw [Cursor.Fault.locate, position_longLine]
  refine ⟨.unexpected Token.Kind.equals.describe (.token .closeBrace), _, rfl, ?_, ?_⟩
  · rw [parseFile, String.toList_ofList, hparse, Except.mapError, hlocate]
  · rw [String.toList_ofList]
    rintro ⟨place, cause, offset, heq, hplace, htells⟩
    cases heq
    refine not_tells_wideText _ ?_ ((htells offset).2 rfl)
    rcases hplace with ⟨t, ht, htrivia, rfl⟩ | hstop
    · have hmem : t ∈ (Cursor.ofText longLine).tokens := by
        rw [Cursor.tokens_ofText, List.mem_filter, htrivia]
        exact ⟨ht, rfl⟩
      rw [longLine, Cursor.tokens_wideText] at hmem
      rcases List.mem_pair.1 hmem with rfl | rfl
      · exact .inl rfl
      · exact .inr (.inl rfl)
    · exact .inr (.inr hstop)

end LongLine

end PolicyEditor
