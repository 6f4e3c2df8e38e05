/-!
# White space

Two notions of white space are in use.  The policy language separates tokens by the four
characters of `isBlank`.  Values, descriptions and configuration lines are trimmed by the Unicode
property `White_Space`, which is `isWhite`.

## Main definitions

* `Text.isBlank`, `Text.isWhite` : the two character classes.
* `Text.trim` : a text without white space at its ends.
* `Text.words` : the maximal pieces without white space.
* `Text.collapse` : the words of a text, joined by single spaces.
-/

namespace PolicyEditor.Text

/-- White space between the tokens of a policy file. -/
def isBlank (c : Char) : Bool :=
  c == ' ' || c == '\t' || c == '\r' || c == '\n'

/-- A blank that does not end a line or go back to its start. -/
def isSpaceOrTab (c : Char) : Bool :=
  c == ' ' || c == '\t'

/-- The ranges of the Unicode property `White_Space`. -/
def whiteRanges : List (Nat × Nat) :=
  [(0x09, 0x0D), (0x20, 0x20), (0x85, 0x85), (0xA0, 0xA0), (0x1680, 0x1680), (0x2000, 0x200A),
    (0x2028, 0x2029), (0x202F, 0x202F), (0x205F, 0x205F), (0x3000, 0x3000)]

/-- A character with the Unicode property `White_Space`. -/
def isWhite (c : Char) : Bool :=
  whiteRanges.any fun range => range.1 ≤ c.toNat && c.toNat ≤ range.2

theorem isWhite_of_isBlank {c : Char} (h : isBlank c = true) : isWhite c = true := by
  simp only [isBlank, Bool.or_eq_true, beq_iff_eq] at h
  rcases h with ((rfl | rfl) | rfl) | rfl <;> decide

/-- A text without the white space at its start. -/
def trimStart (cs : List Char) : List Char :=
  cs.dropWhile isWhite

/-- A text without the white space at its end. -/
def trimEnd : List Char → List Char
  | [] => []
  | c :: cs =>
    match trimEnd cs with
    | [] => if isWhite c then [] else [c]
    | rest => c :: rest

/-- A text without the white space at its ends. -/
def trim (cs : List Char) : List Char :=
  trimEnd (trimStart cs)

/-- The maximal pieces of a text without white space. -/
def words : List Char → List (List Char)
  | [] => []
  | c :: cs =>
    if isWhite c then words cs
    else
      match cs, words cs with
      | d :: _, w :: ws => if isWhite d then [c] :: w :: ws else (c :: w) :: ws
      | _, ws => [c] :: ws

/-- The words of a text, joined by single spaces. -/
def collapse (cs : List Char) : List Char :=
  [' '].intercalate (words cs)

end PolicyEditor.Text
