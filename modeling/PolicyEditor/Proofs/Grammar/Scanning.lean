import Mathlib.Computability.Language
import Mathlib.Data.List.Chain
import PolicyEditor.Proofs.Grammar.Tokens

/-!
# Scanning a text

The tokens of a text can be told in three ways.  A scanner goes through the text and takes, wherever
it stands, the longest piece that the pattern of some kind describes.  A division of the text is a
list of tokens of which the texts, the places and the neighbours are known.  And `tokenize` decides
by the first character of a token how far this token reaches.

The three agree.  The first character of a piece tells which pattern describes the piece, and the
other characters continue a token of this kind.  So there is a longest piece wherever the text has
not ended, and no piece of a text is invalid.  In a division, what stands behind a token does not
continue it, so a division starts with the longest piece, too.

A scanner counts its offsets in 32 bits, as `tokenize` does.  So they are the places of a division
in a text of fewer than `2 ^ 32` bytes, and need not be in a longer one.

## Main definitions

* `Token.Kind.pattern` : the texts that the pattern of a kind describes.
* `Token.Scanner.TakesLongest` : a scanner takes the longest piece.
* `Token.Scanner.Yields` : what a scanner finds on its way through a text.
* `Token.Divides` : the tokens divide a text.

## Main results

* `Token.Kind.cons_mem_pattern` : the first character of a piece tells its pattern.
* `Token.isLongest_lexeme` : the longest piece at the start of a text.
* `Token.divides_cons` : what a division of a text starts with.
* `Token.divides_iff_eq_tokenize` : scanners, divisions and `tokenize` agree.
-/

namespace PolicyEditor

open Text Computability

namespace Token

/-! ### Characters of tokens -/

/-- The characters of white space. -/
def blanks : List Char :=
  [' ', '\t', '\r', '\n']

/-- The characters that are tokens of their own. -/
def delimiters : List Char :=
  ['=', ',', ';', '\x7b', '\x7d', '[', ']', '&', '!']

/-- The character belongs to words. -/
def IsWordChar (c : Char) : Prop :=
  c ∉ blanks ∧ c ∉ delimiters ∧ c ≠ '#'

theorem mem_blanks {c : Char} : c ∈ blanks ↔ isBlank c = true := by
  simp [isBlank, blanks, or_assoc]

namespace Kind

theorem eq_or_sign (kind : Kind) :
    kind = .space ∨ kind = .comment ∨ kind = .word ∨ ∃ s, kind.sign? = some s := by
  cases kind <;> simp [sign?]

theorem ofChar_eq_space {c : Char} : ofChar c = .space ↔ c ∈ blanks := by
  rw [mem_blanks]
  exact ⟨isBlank_of_ofChar, fun h => if_pos h⟩

theorem mem_delimiters {c : Char} : c ∈ delimiters ↔ ∃ kind : Kind, kind.sign? = some c := by
  constructor
  · simp only [delimiters, List.mem_cons, List.not_mem_nil, or_false]
    rintro (rfl | rfl | rfl | rfl | rfl | rfl | rfl | rfl | rfl)
    exacts [⟨.equals, rfl⟩, ⟨.comma, rfl⟩, ⟨.semicolon, rfl⟩, ⟨.openBrace, rfl⟩,
      ⟨.closeBrace, rfl⟩, ⟨.openBracket, rfl⟩, ⟨.closeBracket, rfl⟩, ⟨.ampersand, rfl⟩,
      ⟨.bang, rfl⟩]
  · rintro ⟨kind, h⟩
    cases kind <;> cases h <;> decide

theorem ofChar_eq_of_sign? {kind : Kind} {s c : Char} (h : kind.sign? = some s) :
    ofChar c = kind ↔ c = s :=
  ⟨eq_of_ofChar h, fun hc => hc ▸ ofChar_of_sign? h⟩

theorem ofChar_eq_word {c : Char} : ofChar c = .word ↔ IsWordChar c := by
  constructor
  · intro h
    refine ⟨fun hc => ?_, fun hc => ?_, fun hc => ?_⟩
    · cases h.symm.trans (ofChar_eq_space.2 hc)
    · obtain ⟨kind, hs⟩ := mem_delimiters.1 hc
      obtain rfl := h.symm.trans (ofChar_of_sign? hs)
      cases hs
    · cases h.symm.trans (ofChar_eq_comment.2 hc)
  · rintro ⟨hblank, hdelimiter, hhash⟩
    obtain h | h | h | ⟨s, hs⟩ := (ofChar c).eq_or_sign
    · exact absurd (ofChar_eq_space.1 h) hblank
    · exact absurd (ofChar_eq_comment.1 h) hhash
    · exact h
    · have hsign : some s = some c := congrArg some (eq_of_ofChar hs rfl).symm
      exact absurd (mem_delimiters.2 ⟨_, hs.trans hsign⟩) hdelimiter

/-! ### Patterns -/

/-- The texts of one character that has a property. -/
def oneOf (p : Char → Prop) : Language Char :=
  {text | ∃ c, p c ∧ text = [c]}

/-- The texts that the pattern of a kind describes: blanks, a `#` and what follows it on its line,
characters of words, or a single delimiter. -/
def pattern : Kind → Language Char
  | space => oneOf (· ∈ blanks) * (oneOf (· ∈ blanks))∗
  | comment => oneOf (· = '#') * (oneOf (· ≠ '\n'))∗
  | word => oneOf IsWordChar * (oneOf IsWordChar)∗
  | kind => oneOf (kind.sign? = some ·)

theorem mem_kstar_oneOf {p : Char → Prop} {text : List Char} :
    text ∈ (oneOf p)∗ ↔ ∀ c ∈ text, p c := by
  rw [Language.mem_kstar]
  constructor
  · rintro ⟨pieces, rfl, hpieces⟩ c hc
    obtain ⟨piece, hpiece, hc⟩ := List.mem_flatten.1 hc
    obtain ⟨d, hd, rfl⟩ := hpieces piece hpiece
    exact List.mem_singleton.1 hc ▸ hd
  · intro h
    refine ⟨text.map fun c => [c], (List.flatMap_singleton' text).symm, fun piece hpiece => ?_⟩
    obtain ⟨c, hc, rfl⟩ := List.mem_map.1 hpiece
    exact ⟨c, h c hc, rfl⟩

theorem cons_mem_oneOf_mul {p : Char → Prop} {l : Language Char} {c : Char} {cs : List Char} :
    c :: cs ∈ oneOf p * l ↔ p c ∧ cs ∈ l := by
  rw [Language.mem_mul]
  constructor
  · rintro ⟨_, ⟨d, hd, rfl⟩, cs', hcs', heq⟩
    obtain ⟨rfl, rfl⟩ := List.cons.inj heq
    exact ⟨hd, hcs'⟩
  · rintro ⟨hc, hcs⟩
    exact ⟨[c], ⟨c, hc, rfl⟩, cs, hcs, rfl⟩

theorem pattern_of_sign? {kind : Kind} {s : Char} (h : kind.sign? = some s) :
    kind.pattern = oneOf (kind.sign? = some ·) := by
  cases kind <;> first | rfl | cases h

/-- The first character of a piece tells which pattern describes it, and the others continue it. -/
theorem cons_mem_pattern {kind : Kind} {c : Char} {cs : List Char} :
    c :: cs ∈ kind.pattern ↔ ofChar c = kind ∧ ∀ d ∈ cs, kind.continues d = true := by
  obtain rfl | rfl | rfl | ⟨s, hs⟩ := kind.eq_or_sign
  · simp only [pattern, cons_mem_oneOf_mul, mem_kstar_oneOf, ofChar_eq_space, continues, mem_blanks]
  · simp only [pattern, cons_mem_oneOf_mul, mem_kstar_oneOf, ofChar_eq_comment, continues,
      bne_iff_ne]
  · simp only [pattern, cons_mem_oneOf_mul, mem_kstar_oneOf, ofChar_eq_word, continues, beq_iff_eq]
  · rw [pattern_of_sign? hs, ofChar_eq_of_sign? hs]
    constructor
    · rintro ⟨d, hd, heq⟩
      obtain ⟨rfl, rfl⟩ := List.cons.inj heq
      exact ⟨Option.some.inj (hd.symm.trans hs), by simp⟩
    · rintro ⟨rfl, hcs⟩
      obtain rfl : cs = [] := List.eq_nil_iff_forall_not_mem.2 fun d hd => by
        simpa [continues_of_sign? hs] using hcs d hd
      exact ⟨c, hs, rfl⟩

/-- No pattern describes the empty text. -/
theorem ne_nil_of_mem_pattern {kind : Kind} {text : List Char} (h : text ∈ kind.pattern) :
    text ≠ [] := by
  rintro rfl
  obtain rfl | rfl | rfl | ⟨s, hs⟩ := kind.eq_or_sign
  -- The first three patterns start with a character of some class.
  iterate 3
    obtain ⟨_, ⟨c, -, rfl⟩, _, -, heq⟩ := Language.mem_mul.1 h
    cases heq
  rw [pattern_of_sign? hs] at h
  obtain ⟨c, -, heq⟩ := h
  cases heq

end Kind

/-! ### The longest piece -/

/-- Some pattern describes the piece at the start of a text, and no pattern describes a longer one
there. -/
structure IsLongest (text piece : List Char) : Prop where
  start : piece <+: text
  fits : ∃ kind : Kind, piece ∈ kind.pattern
  longest : ∀ other (kind : Kind), other <+: text → other ∈ kind.pattern →
    other.length ≤ piece.length

theorem lexeme_mem_pattern (c : Char) (cs : List Char) :
    lexeme c cs ∈ (Kind.ofChar c).pattern :=
  Kind.cons_mem_pattern.2 ⟨rfl, fun _ hd => List.mem_takeWhile_imp hd⟩

/-- The token at the start of a text is the longest piece there. -/
theorem isLongest_lexeme (c : Char) (cs : List Char) : IsLongest (c :: cs) (lexeme c cs) where
  start := ⟨remainder c cs, lexeme_append_remainder c cs⟩
  fits := ⟨_, lexeme_mem_pattern c cs⟩
  longest other kind hstart hother := by
    obtain ⟨d, ds, rfl⟩ := List.exists_cons_of_ne_nil (Kind.ne_nil_of_mem_pattern hother)
    obtain ⟨rfl, behind, rfl⟩ := List.cons_prefix_cons.1 hstart
    obtain ⟨rfl, hds⟩ := Kind.cons_mem_pattern.1 hother
    -- The token takes all characters that continue it, so those of the other piece as well.
    rw [lexeme, List.takeWhile_append_of_pos hds]
    simp

theorem IsLongest.unique {text piece other : List Char} (h : IsLongest text piece)
    (h' : IsLongest text other) : piece = other := by
  obtain ⟨kind, hkind⟩ := h.fits
  obtain ⟨kind', hkind'⟩ := h'.fits
  have hle := h'.longest _ _ h.start hkind
  exact (List.prefix_of_prefix_length_le h.start h'.start hle).eq_of_length_le
    (h.longest _ _ h'.start hkind')

/-! ### Scanners -/

/-- What finds the piece at the start of a text, if there is one.  An invalid piece has no kind. -/
abbrev Scanner := List Char → Option (Option Kind × List Char)

/-- A piece that was found, with the byte offset at which it starts.  An invalid piece has no
kind. -/
structure Scanned where
  kind? : Option Kind
  text : String
  offset : Nat
deriving DecidableEq, Repr

/-- The token as a valid piece. -/
def scanned (t : Token) : Scanned :=
  ⟨some t.kind, t.text, t.offset⟩

namespace Scanner

/-- The scanner stops at the end of a text.  If the patterns describe pieces at the start of a text,
it takes the longest of these, as a piece of a kind whose pattern describes it.  Nothing is known
about texts at whose start the patterns describe no piece. -/
structure TakesLongest (scan : Scanner) : Prop where
  stops : scan [] = none
  takes : ∀ text piece, IsLongest text piece →
    ∃ kind : Kind, piece ∈ kind.pattern ∧ scan text = some (some kind, piece)

/-- The scanner finds these pieces one after the other in a text that starts at a byte offset, and
then it finds nothing.  The offset of the next piece is a sum in 32 bits. -/
inductive Yields (scan : Scanner) : Nat → List Char → List Scanned → Prop
  | stop {offset : Nat} {text : List Char} (h : scan text = none) : Yields scan offset text []
  | step {offset : Nat} {kind? : Option Kind} {piece rest : List Char} {found : List Scanned}
      (h : scan (piece ++ rest) = some (kind?, piece))
      (hrest : Yields scan (wrap (offset + byteLength piece)) rest found) :
      Yields scan offset (piece ++ rest) (⟨kind?, String.ofList piece, offset⟩ :: found)

/-- The scanner that decides by the first character how far a piece reaches. -/
def byFirst : Scanner
  | [] => none
  | c :: cs => some (some (Kind.ofChar c), lexeme c cs)

theorem takesLongest_byFirst : byFirst.TakesLongest where
  stops := rfl
  takes text piece h := by
    obtain ⟨kind, hkind⟩ := h.fits
    obtain ⟨c, cs, rfl⟩ := List.exists_cons_of_ne_nil fun htext : text = [] =>
      Kind.ne_nil_of_mem_pattern hkind (List.prefix_nil.1 (htext ▸ h.start))
    obtain rfl := h.unique (isLongest_lexeme c cs)
    exact ⟨_, lexeme_mem_pattern c cs, rfl⟩

section TakesLongest

variable {scan : Scanner} (h : scan.TakesLongest) {offset : Nat} {found : List Scanned}

include h

theorem TakesLongest.scan_cons (c : Char) (cs : List Char) :
    scan (c :: cs) = some (some (Kind.ofChar c), lexeme c cs) := by
  obtain ⟨kind, hkind, hscan⟩ := h.takes _ _ (isLongest_lexeme c cs)
  rw [hscan, (Kind.cons_mem_pattern.1 hkind).1]

theorem TakesLongest.yields_nil : scan.Yields offset [] found ↔ found = [] := by
  constructor
  · intro hyields
    generalize htext : [] = text at hyields
    cases hyields with
    | stop => rfl
    | step hscan => rw [← htext, h.stops] at hscan; cases hscan
  · rintro rfl
    exact .stop h.stops

/-- What a scanner finds first. -/
theorem TakesLongest.yields_cons {c : Char} {cs : List Char} :
    scan.Yields offset (c :: cs) found ↔
      ∃ further, found = (starting offset c cs).scanned :: further ∧
        scan.Yields (wrap (offset + byteLength (lexeme c cs))) (remainder c cs) further := by
  constructor
  · intro hyields
    generalize htext : c :: cs = text at hyields
    cases hyields with
    | stop hscan => rw [← htext, h.scan_cons] at hscan; cases hscan
    | step hscan hrest =>
      rw [← htext, h.scan_cons] at hscan
      cases hscan
      rw [← lexeme_append_remainder, List.append_cancel_left_eq] at htext
      exact ⟨_, rfl, htext ▸ hrest⟩
  · rintro ⟨further, rfl, hrest⟩
    have hscan := h.scan_cons c cs
    rw [← lexeme_append_remainder] at hscan ⊢
    exact .step hscan hrest

end TakesLongest

end Scanner

/-! ### Divisions -/

/-- What the text of a token of a kind is like, whatever stands around it. -/
def Kind.Admits : Kind → List Char → Prop
  | .space, text => ∀ c ∈ text, c ∈ blanks
  | .comment, text => IsComment text
  | .word, text => ∀ c ∈ text, IsWordChar c
  | kind, text => ∃ s, kind.sign? = some s ∧ text = [s]

theorem Kind.admits_of_sign? {kind : Kind} {s : Char} (h : kind.sign? = some s) :
    kind.Admits = fun text => ∃ s, kind.sign? = some s ∧ text = [s] := by
  cases kind <;> first | rfl | cases h

/-- A token may stand directly in front of another one: there are no two words and no two runs of
blanks side by side, and a comment goes on up to the next line feed. -/
structure Meets (t u : Token) : Prop where
  offset : u.offset = t.stop
  words : ¬(t.kind = .word ∧ u.kind = .word)
  spaces : ¬(t.kind = .space ∧ u.kind = .space)
  comment : t.kind = .comment → u.text.toList.head? = some '\n'

/-- The tokens divide a text that starts at a byte offset: they make up the text one after the
other, none of them is empty, and each has a text of its kind. -/
structure Divides (offset : Nat) (text : List Char) (ts : List Token) : Prop where
  texts : ts.flatMap (·.text.toList) = text
  start : ∀ t ∈ ts.head?, t.offset = offset
  nonempty : ∀ t ∈ ts, t.text ≠ ""
  admits : ∀ t ∈ ts, t.kind.Admits t.text.toList
  meets : ts.IsChain Meets

/-- The texts of tokens of a kind, the empty text apart, are those that its pattern describes. -/
theorem Kind.mem_pattern {kind : Kind} {text : List Char} :
    text ∈ kind.pattern ↔ text ≠ [] ∧ kind.Admits text := by
  rcases text with - | ⟨c, cs⟩
  · exact iff_of_false (fun h => ne_nil_of_mem_pattern h rfl) fun h => h.1 rfl
  rw [cons_mem_pattern, and_iff_right (List.cons_ne_nil c cs)]
  obtain rfl | rfl | rfl | ⟨s, hs⟩ := kind.eq_or_sign
  · simp [ofChar_eq_space, continues, mem_blanks, Admits]
  · have hcomment : IsComment (c :: cs) ↔ c = '#' ∧ '\n' ∉ cs := by
      refine ⟨fun h => ⟨by simpa using h.head, fun hline => h.line (by simp [hline])⟩, ?_⟩
      rintro ⟨rfl, hline⟩
      exact ⟨rfl, by simpa using hline⟩
    rw [ofChar_eq_comment, Admits, hcomment]
    simp [continues, List.forall_mem_ne']
  · simp [ofChar_eq_word, continues, Admits]
  · rw [← cons_mem_pattern, pattern_of_sign? hs, admits_of_sign? hs]
    exact Iff.rfl

/-- A token stands in front of another one that starts behind it and does not continue it. -/
theorem meets_iff {t u : Token} {c : Char} {cs : List Char} (htext : u.text.toList = c :: cs)
    (hc : Kind.ofChar c = u.kind) :
    Meets t u ↔ u.offset = t.stop ∧ t.kind.continues c = false := by
  have hmeets : t.kind.continues c = false ↔ ¬(t.kind = .word ∧ u.kind = .word) ∧
      ¬(t.kind = .space ∧ u.kind = .space) ∧
      (t.kind = .comment → u.text.toList.head? = some '\n') := by
    rw [← hc, htext]
    obtain h | h | h | ⟨s, hs⟩ := t.kind.eq_or_sign
    · simp [h, Kind.continues, Kind.ofChar_eq_space, mem_blanks]
    · simp [h, Kind.continues]
    · simp [h, Kind.continues]
    · have hother : t.kind ≠ .word ∧ t.kind ≠ .space ∧ t.kind ≠ .comment := by
        refine ⟨?_, ?_, ?_⟩ <;> rintro h <;> rw [h] at hs <;> cases hs
      simp [Kind.continues_of_sign? hs, hother]
  rw [hmeets]
  exact ⟨fun h => ⟨h.offset, h.words, h.spaces, h.comment⟩, fun h => ⟨h.1, h.2.1, h.2.2.1, h.2.2.2⟩⟩

/-- A token can stand in front of a division of what is left if this does not continue it. -/
theorem Divides.forall_head_meets {t : Token} {rest : List Char} {us : List Token}
    (h : Divides t.stop rest us) :
    (∀ u ∈ us.head?, Meets t u) ↔ ∀ c ∈ rest.head?, t.kind.continues c = false := by
  rcases us with - | ⟨u, us⟩
  · obtain rfl := h.texts
    simp
  · have hpattern := Kind.mem_pattern.2
      ⟨mt String.toList_eq_nil_iff.1 (h.nonempty u List.mem_cons_self),
        h.admits u List.mem_cons_self⟩
    obtain ⟨c, cs, htext⟩ := List.exists_cons_of_ne_nil (Kind.ne_nil_of_mem_pattern hpattern)
    rw [htext] at hpattern
    have hhead : rest.head? = some c := by rw [← h.texts, List.flatMap_cons, htext]; rfl
    simp only [List.head?_cons, hhead, Option.mem_some_iff, forall_eq']
    rw [meets_iff htext (Kind.cons_mem_pattern.1 hpattern).1, and_iff_right (h.start u rfl)]

/-- The tokens divide a text if the first one is a piece of it that does not go on, and the others
divide what is left. -/
theorem divides_cons_iff {offset : Nat} {text : List Char} {t : Token} {us : List Token} :
    Divides offset text (t :: us) ↔ ∃ rest, text = t.text.toList ++ rest ∧ t.offset = offset ∧
      t.text.toList ∈ t.kind.pattern ∧ (∀ c ∈ rest.head?, t.kind.continues c = false) ∧
      Divides t.stop rest us := by
  constructor
  · intro h
    obtain ⟨hne, hnonempty⟩ := List.forall_mem_cons.1 h.nonempty
    obtain ⟨hadmits, hfurther⟩ := List.forall_mem_cons.1 h.admits
    obtain ⟨hmeets, hchain⟩ := List.isChain_cons.1 h.meets
    -- The second token tells where the division of what is left starts.
    have hrest : Divides t.stop (us.flatMap (·.text.toList)) us :=
      ⟨rfl, fun u hu => (hmeets u hu).offset, hnonempty, hfurther, hchain⟩
    exact ⟨_, h.texts.symm, h.start t rfl,
      Kind.mem_pattern.2 ⟨mt String.toList_eq_nil_iff.1 hne, hadmits⟩,
      hrest.forall_head_meets.1 hmeets, hrest⟩
  · rintro ⟨rest, rfl, rfl, hpattern, hboundary, hrest⟩
    obtain ⟨hne, hadmits⟩ := Kind.mem_pattern.1 hpattern
    exact {
      texts := by rw [List.flatMap_cons, hrest.texts]
      start := by simp
      nonempty := List.forall_mem_cons.2 ⟨mt String.toList_eq_nil_iff.2 hne, hrest.nonempty⟩
      admits := List.forall_mem_cons.2 ⟨hadmits, hrest.admits⟩
      meets := List.isChain_cons.2 ⟨hrest.forall_head_meets.2 hboundary, hrest.meets⟩ }

theorem divides_nil {offset : Nat} {ts : List Token} : Divides offset [] ts ↔ ts = [] := by
  constructor
  · intro h
    rcases ts with - | ⟨t, us⟩
    · rfl
    · obtain ⟨rest, htext, -, hpattern, -⟩ := divides_cons_iff.1 h
      exact absurd (List.append_eq_nil_iff.1 htext.symm).1 (Kind.ne_nil_of_mem_pattern hpattern)
  · rintro rfl
    exact ⟨rfl, by simp, by simp, by simp, .nil⟩

/-- What a division starts with. -/
theorem divides_cons {offset : Nat} {c : Char} {cs : List Char} {ts : List Token} :
    Divides offset (c :: cs) ts ↔ ∃ us, ts = starting offset c cs :: us ∧
      Divides (offset + byteLength (lexeme c cs)) (remainder c cs) us := by
  constructor
  · intro h
    rcases ts with - | ⟨⟨kind, text, start⟩, us⟩
    · cases h.texts
    obtain ⟨rest, htext, rfl, hpattern, hboundary, hrest⟩ := divides_cons_iff.1 h
    obtain ⟨d, ds, hds⟩ := List.exists_cons_of_ne_nil (Kind.ne_nil_of_mem_pattern hpattern)
    -- The text starts with the first token, whose first character tells the kind.
    obtain rfl : text = String.ofList (d :: ds) := by rw [← hds, String.ofList_toList]
    simp only [String.toList_ofList, List.cons_append] at htext hpattern
    obtain ⟨rfl, rfl⟩ := List.cons.inj htext
    obtain ⟨rfl, hcontinues⟩ := Kind.cons_mem_pattern.1 hpattern
    obtain ⟨hlexeme, hremainder⟩ := lexeme_append hcontinues hboundary
    rw [starting, hlexeme, hremainder]
    refine ⟨us, rfl, ?_⟩
    simpa [stop] using hrest
  · rintro ⟨us, rfl, hrest⟩
    refine divides_cons_iff.2 ⟨remainder c cs, ?_, rfl, ?_, ?_, ?_⟩
    · simp [starting, lexeme_append_remainder]
    · simpa [starting] using lexeme_mem_pattern c cs
    · exact continues_head_remainder c cs
    · simpa [stop, starting] using hrest

/-! ### The tokens of a text -/

/-- What goes on from token to token as `listFrom` does finds the tokens of `listFrom`. -/
theorem eq_map_listFrom_iff {α : Type} {P : Nat → List Char → List α → Prop} {f : Token → α}
    (hnil : ∀ offset found, P offset [] found ↔ found = [])
    (hcons : ∀ offset c cs found, P offset (c :: cs) found ↔
      ∃ further, found = f (starting offset c cs) :: further ∧
        P (offset + byteLength (lexeme c cs)) (remainder c cs) further)
    {limit offset : Nat} {text : List Char} {found : List α} (hlimit : text.length ≤ limit) :
    P offset text found ↔ found = (listFrom limit offset text).map f := by
  induction limit generalizing offset text found with
  | zero =>
    obtain rfl := List.length_eq_zero_iff.1 (Nat.le_zero.1 hlimit)
    exact hnil offset found
  | succ limit ih =>
    rcases text with - | ⟨c, cs⟩
    · exact hnil offset found
    · have hlength := length_remainder_le c cs
      rw [List.length_cons] at hlimit
      rw [hcons, listFrom, List.map_cons]
      constructor
      · rintro ⟨further, rfl, hfurther⟩
        rw [(ih (by omega)).1 hfurther]
      · rintro rfl
        exact ⟨_, rfl, (ih (by omega)).2 rfl⟩

/-- A scanner that takes the longest piece finds the tokens of a text, of any length. -/
theorem Scanner.TakesLongest.yields_iff {scan : Scanner} (h : scan.TakesLongest)
    {text : List Char} {found : List Scanned} :
    scan.Yields 0 text found ↔ found = (tokenize text).map scanned := by
  have hyields : scan.Yields (wrap 0) text found ↔
      found = (ofText text).map (scanned ∘ wrapped) := by
    refine eq_map_listFrom_iff (P := fun offset => scan.Yields (wrap offset))
      (fun _ _ => h.yields_nil) (fun offset c cs found => ?_) le_rfl
    rw [h.yields_cons, wrap_wrap_add]
    rfl
  rw [tokenize, List.map_map]
  exact hyields

/-- The tokens at their places divide a text, and no others do. -/
theorem divides_iff {text : List Char} {ts : List Token} :
    Divides 0 text ts ↔ ts = ofText text := by
  have hdivides : Divides 0 text ts ↔ ts = (ofText text).map id :=
    eq_map_listFrom_iff (P := Divides) (fun _ _ => divides_nil) (fun _ _ _ _ => divides_cons) le_rfl
  rwa [List.map_id] at hdivides

/-- In a text that is not too long, 32 bits hold the places of all tokens. -/
theorem tokenize_eq {text : List Char} (hsize : byteLength text < offsetLimit) :
    tokenize text = ofText text := by
  refine (List.map_congr_left fun t ht => ?_).trans (List.map_id _)
  have hstop := (hasAt_of_mem_listFrom ht).1.stop_le
  have hwrap : wrap t.offset = t.offset := wrap_of_lt (by omega)
  rw [wrapped, hwrap]
  rfl

/-- For every text of fewer than `2 ^ 32` bytes, a scanner that takes the longest piece which some
pattern describes finds the tokens of the text and no invalid piece.  The tokens divide the text,
and no other list of tokens does. -/
theorem divides_iff_eq_tokenize {scan : Scanner} (h : scan.TakesLongest) {text : List Char}
    (hsize : byteLength text < offsetLimit) :
    (∀ found, scan.Yields 0 text found ↔ found = (tokenize text).map scanned) ∧
      ∀ ts, Divides 0 text ts ↔ ts = tokenize text :=
  ⟨fun _ => h.yields_iff, fun _ => tokenize_eq hsize ▸ divides_iff⟩

/-- A word of letters that have two bytes each touches a sign, and a comment holds other signs. -/
theorem divides_iff_eq_tokenize_comment :
    ∃ ts, ts = [⟨.word, "größe", 0⟩, ⟨.equals, "=", 7⟩, ⟨.comment, "#, ä;", 8⟩,
        ⟨.space, "\n\t", 14⟩, ⟨.closeBrace, "\x7d", 16⟩] ∧
      Scanner.byFirst.TakesLongest ∧ byteLength "größe=#, ä;\n\t\x7d".toList < offsetLimit ∧
      Scanner.byFirst.Yields 0 "größe=#, ä;\n\t\x7d".toList (ts.map scanned) ∧
      Divides 0 "größe=#, ä;\n\t\x7d".toList ts := by
  have htokens : [⟨.word, "größe", 0⟩, ⟨.equals, "=", 7⟩, ⟨.comment, "#, ä;", 8⟩,
      ⟨.space, "\n\t", 14⟩, ⟨.closeBrace, "\x7d", 16⟩] =
        tokenize "größe=#, ä;\n\t\x7d".toList := by decide +kernel
  have hsize : byteLength "größe=#, ä;\n\t\x7d".toList < offsetLimit := by decide
  obtain ⟨hyields, hdivides⟩ := divides_iff_eq_tokenize Scanner.takesLongest_byFirst hsize
  exact ⟨_, rfl, Scanner.takesLongest_byFirst, hsize, (hyields _).2 (congrArg _ htokens),
    (hdivides _).2 htokens⟩

/-- The letter `a` behind `n` blanks. -/
def behindBlanks (n : Nat) : List Char :=
  List.replicate n ' ' ++ ['a']

theorem ofText_behindBlanks (n : Nat) :
    ofText (behindBlanks (n + 1)) =
      [⟨.space, String.ofList (List.replicate (n + 1) ' '), 0⟩, ⟨.word, "a", n + 1⟩] := by
  have hblank : ∀ d ∈ List.replicate n ' ', (Kind.ofChar ' ').continues d = true := fun d hd => by
    rw [List.eq_of_mem_replicate hd]
    rfl
  have hletter : ∀ d ∈ (['a'] : List Char).head?, (Kind.ofChar ' ').continues d = false := by
    simp [Kind.continues, Kind.ofChar, isBlank]
  obtain ⟨hlexeme, hremainder⟩ := lexeme_append hblank hletter
  refine (divides_iff.1 ?_).symm
  rw [behindBlanks, List.replicate_succ, List.cons_append, divides_cons, starting, hlexeme,
    hremainder]
  refine ⟨_, rfl, divides_cons.2 ⟨[], ?_, divides_nil.2 rfl⟩⟩
  have hsize : ' '.utf8Size = 1 := rfl
  have hoffset : 0 + byteLength (' ' :: List.replicate n ' ') = n + 1 := by
    rw [← List.replicate_succ, byteLength_replicate, hsize, Nat.mul_one, Nat.zero_add]
  rw [hoffset]
  rfl

/-- The letter of this text starts at byte `2 ^ 32`, and its token at zero. -/
theorem not_divides_tokenize_behindBlanks :
    (tokenize (behindBlanks offsetLimit)).map (·.offset) = [0, 0] ∧
      ¬Divides 0 (behindBlanks offsetLimit) (tokenize (behindBlanks offsetLimit)) := by
  have hlimit : offsetLimit = (offsetLimit - 1) + 1 := by decide
  have htokens := ofText_behindBlanks (offsetLimit - 1)
  rw [← hlimit] at htokens
  have hoffsets : (tokenize (behindBlanks offsetLimit)).map (·.offset) = [0, 0] := by
    have hwrap : wrap offsetLimit = 0 := Nat.mod_self offsetLimit
    rw [tokenize, htokens]
    simp only [List.map_cons, List.map_nil, wrapped, hwrap]
    rfl
  refine ⟨hoffsets, fun hdivides => ?_⟩
  -- In a division the letter has the offset at which the blanks stop.
  rw [divides_iff.1 hdivides, htokens] at hoffsets
  have hzero : offsetLimit = 0 := (List.cons.inj (List.cons.inj hoffsets).2).1
  exact absurd hzero (by decide)

end Token

end PolicyEditor
