import PolicyEditor.Text.CaseTable

/-!
# Letter case

Names are ordered by their lower-case form.  The conversion is the full one of Unicode: it knows
every script, turns a dotted capital `İ` into two characters, and gives a sigma its final form at
the end of a word.  Caseless matching compares simple case foldings instead.

## Main definitions

* `Text.lowercase` : the lower-case form of a text.
* `Text.foldCase` : the simple case folding of a character.
* `Text.caseVariants`, `Text.asciiVariants` : the characters that fold like a given one.
* `Text.caseRanges` : ranges that hold every character with several cases.
-/

namespace PolicyEditor.Text

/-- The character `n` code points behind `c`, or before it if `n` is negative. -/
def shift (c : Char) (n : Int) : Char :=
  Char.ofNat ((c.toNat : Int) + n).toNat

/-- The image of a character under the first run that covers it. -/
def CaseRun.image? (runs : List CaseRun) (c : Char) : Option Char :=
  (runs.find? (·.covers c.toNat)).map fun run => shift c run.offset

/-- The simple lower-case mapping of a character. -/
def lowerChar (c : Char) : Char :=
  if c.toNat < 128 then
    if 'A' ≤ c ∧ c ≤ 'Z' then shift c 32 else c
  else (CaseRun.image? lowercaseRuns c).getD c

/-- A character lies in one of the ranges of a table. -/
def inRanges (ranges : List (Nat × Nat)) (c : Char) : Bool :=
  ranges.any fun range => range.1 ≤ c.toNat && c.toNat ≤ range.2

/-- The first character that is not case ignorable is a cased letter. -/
def casedFirst : List Char → Bool
  | [] => false
  | c :: cs => if inRanges caseIgnorableRanges c then casedFirst cs else inRanges casedRanges c

/-- The lower-case form of a text that stands behind the text `behind`, given backwards. -/
def lowercaseBehind (behind : List Char) : List Char → List Char
  | [] => []
  | c :: cs =>
    let rest := lowercaseBehind (c :: behind) cs
    if c = 'Σ' then (if casedFirst behind && !casedFirst cs then 'ς' else 'σ') :: rest
    else if c = 'İ' then 'i' :: '\u0307' :: rest
    else lowerChar c :: rest

/-- The lower-case form of a text. -/
def lowercase (text : String) : String :=
  String.ofList (lowercaseBehind [] text.toList)

/-- The simple case folding of a character. -/
def foldCase (c : Char) : Char :=
  if c.toNat < 128 then lowerChar c else (CaseRun.image? foldingRuns c).getD (lowerChar c)

/-- The runs of all simple case mappings and foldings. -/
def caseRuns : List CaseRun :=
  lowercaseRuns ++ foldingRuns

/-- The character that a run maps to `c`. -/
def CaseRun.preimage? (c : Char) (run : CaseRun) : Option Char :=
  let n := ((c.toNat : Int) - run.offset).toNat
  if run.covers n then some (Char.ofNat n) else none

/-- The characters with the same simple case folding as `c`, as of version 16 of the standard. -/
def caseVariants (c : Char) : List Char :=
  let folded := foldCase c
  let ascii := if 'a' ≤ folded ∧ folded ≤ 'z' then [shift folded (-32)] else []
  let others := caseRuns.filterMap (CaseRun.preimage? folded)
  let variants := folded :: ascii ++ others
  if inRanges lateCaseRanges c then [c] else variants.filter fun d => !inRanges lateCaseRanges d

/-- The code points of a run and those that it maps them to. -/
def CaseRun.ranges (run : CaseRun) : List (Nat × Nat) :=
  [(run.first, run.last),
    (((run.first : Int) + run.offset).toNat, ((run.last : Int) + run.offset).toNat)]

/-- Ranges of code points that hold every character with several cases. -/
def caseRanges : List (Nat × Nat) :=
  (0x41, 0x5A) :: (0x61, 0x7A) :: caseRuns.flatMap CaseRun.ranges

/-- The characters that differ from `c` at most by their case, as far as ASCII goes. -/
def asciiVariants (c : Char) : List Char :=
  [c.toLower, c.toUpper]

end PolicyEditor.Text
