import PolicyEditor.Pattern.Spans
import PolicyEditor.Text.Blank
import PolicyEditor.Text.CategoryTable
import PolicyEditor.Text.Lowercase

/-!
# Character classes of patterns

A class is a set of characters.  It is kept by its spans, so that classes can be compared and
measured.

## Main definitions

* `CharClass` : a set of characters.
* `CharClass.accepts` : the characters of a class.
* `CharClass.union`, `CharClass.intersection`, `CharClass.difference`, `CharClass.complement` :
  operations on sets.
* `CharClass.caseless` : a class in every case.
* `CharClass.digit`, `CharClass.white`, `CharClass.word` : well-known classes.
-/

namespace PolicyEditor

/-- A set of characters. -/
structure CharClass where
  spans : Spans
deriving DecidableEq, Repr

namespace CharClass

/-- The character is in the class. -/
def accepts (s : CharClass) (c : Char) : Bool :=
  s.spans.contains c.toNat

/-- The characters whose code points lie in some ranges. -/
def ofRanges (ranges : List (Nat × Nat)) : CharClass :=
  ⟨.ofRanges ranges⟩

/-- No character. -/
def empty : CharClass :=
  ⟨[]⟩

/-- All characters. -/
def any : CharClass :=
  ⟨[(0, 0x10FFFF)]⟩

/-- The characters from one to another. -/
def range (first last : Char) : CharClass :=
  ⟨[(first.toNat, last.toNat)]⟩

/-- A single character. -/
def single (c : Char) : CharClass :=
  range c c

/-- The characters of a list. -/
def ofChars (cs : List Char) : CharClass :=
  ofRanges (cs.map fun c => (c.toNat, c.toNat))

/-! ### Operations -/

/-- The characters of several classes. -/
def unions (classes : List CharClass) : CharClass :=
  ofRanges (classes.flatMap (·.spans))

/-- The characters of two classes. -/
def union (s t : CharClass) : CharClass :=
  ⟨s.spans.union t.spans⟩

/-- The characters that two classes have in common. -/
def intersection (s t : CharClass) : CharClass :=
  ⟨s.spans.intersection t.spans⟩

/-- The characters of the first class that are not in the second one. -/
def difference (s t : CharClass) : CharClass :=
  ⟨s.spans.difference t.spans⟩

/-- The characters of exactly one of two classes. -/
def symmetricDifference (s t : CharClass) : CharClass :=
  (s.union t).difference (s.intersection t)

/-- The characters that are not in the class. -/
def complement (s : CharClass) : CharClass :=
  ⟨s.spans.complement⟩

/-- All characters but those of a list. -/
def allBut (cs : List Char) : CharClass :=
  (ofChars cs).complement

/-- The characters of a class, one by one. -/
def toList (s : CharClass) : List Char :=
  s.spans.flatMap fun r => (List.range' r.1 (r.2 + 1 - r.1)).map Char.ofNat

/-- Letters of ASCII. -/
def asciiLetter : CharClass :=
  ⟨[(0x41, 0x5A), (0x61, 0x7A)]⟩

/-- Characters among which are all those with several cases. -/
def withCases : CharClass :=
  ofRanges Text.caseRanges

/-- The characters of a class and all other cases of them, as far as ASCII goes or beyond. -/
def caseless (ascii : Bool) (s : CharClass) : CharClass :=
  let variants :=
    if ascii then (s.intersection asciiLetter).toList.flatMap Text.asciiVariants
    else (s.intersection withCases).toList.flatMap Text.caseVariants
  s.union (ofChars variants)

/-- The characters of some categories. -/
def ofCategories (categories : List Text.Category) : CharClass :=
  ofRanges (categories.flatMap (·.ranges))

/-! ### Well-known classes -/

/-- Alphabetic characters. -/
def alphabetic : CharClass :=
  (ofCategories [.lu, .ll, .lt, .lm, .lo, .nl]).union (ofRanges Text.otherAlphabeticRanges)

/-- Decimal digits. -/
def digit : CharClass :=
  ofCategories [.nd]

/-- White space. -/
def white : CharClass :=
  ofRanges Text.whiteRanges

/-- Marks that ask for joined characters or for separate ones. -/
def joinControl : CharClass :=
  range '\u200c' '\u200d'

/-- The characters of words: alphabetic characters, marks, digits, connectors and joiners. -/
def word : CharClass :=
  unions [alphabetic, ofCategories [.nd, .mn, .mc, .me, .pc], joinControl]

/-- Decimal digits of ASCII. -/
def asciiDigit : CharClass :=
  range '0' '9'

/-- White space of ASCII. -/
def asciiWhite : CharClass :=
  ⟨[(0x09, 0x0D), (0x20, 0x20)]⟩

/-- The characters of words of ASCII. -/
def asciiWord : CharClass :=
  ⟨[(0x30, 0x39), (0x41, 0x5A), (0x5F, 0x5F), (0x61, 0x7A)]⟩

end CharClass

end PolicyEditor
