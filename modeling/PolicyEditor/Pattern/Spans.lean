/-!
# Spans of characters

A set of characters is given by spans: ranges of code points in ascending order with gaps between
them.  No span ends at a surrogate, and where one goes across the surrogates they do not belong to
it.  An automaton that reads bytes tests a span by ranges for the bytes of its UTF-8 form.

## Main definitions

* `Spans` : the spans of a set of characters.
* `Spans.ofRanges`, `Spans.contains` : the spans of some ranges, and their members.
* `Spans.union`, `Spans.intersection`, `Spans.difference`, `Spans.complement` : operations on sets.
* `Spans.byteRanges` : spans as products of ranges of bytes.
-/

namespace PolicyEditor

/-- The ranges of code points of a set of characters. -/
abbrev Spans := List (Nat × Nat)

namespace Spans

/-! ### Sets -/

/-- The character with a code point is in the set. -/
def contains (n : Nat) : Spans → Bool
  | [] => false
  | r :: rs => if r.2 < n then contains n rs else r.1 ≤ n

/-- The range `r` and those behind it, where ranges without a gap are joined. -/
def joinFrom (r : Nat × Nat) : Spans → Spans
  | [] => [r]
  | q :: qs =>
    if q.1 ≤ r.2 + 1 then joinFrom (r.1, max r.2 q.2) qs else r :: joinFrom q qs

/-- The spans of ranges that ascend. -/
def join : Spans → Spans
  | [] => []
  | r :: rs => joinFrom r rs

/-- The range `q` does not start behind the range `r`. -/
def startsFirst (q r : Nat × Nat) : Bool :=
  q.1 ≤ r.1

/-- The spans of some ranges. -/
def ofRanges (ranges : List (Nat × Nat)) : Spans :=
  join (ranges.mergeSort startsFirst)

/-- The characters of both sets. -/
def union (s t : Spans) : Spans :=
  join (s.merge t startsFirst)

/-- The characters that two sets have in common. -/
def intersection : Spans → Spans → Spans
  | r :: rs, q :: qs =>
    let rest := if r.2 < q.2 then intersection rs (q :: qs) else intersection (r :: rs) qs
    let lo := max r.1 q.1
    let hi := min r.2 q.2
    if lo ≤ hi then (lo, hi) :: rest else rest
  | _, _ => []
termination_by s t => s.length + t.length

/-- The code point of the next character.  Surrogates are no characters. -/
def next (n : Nat) : Nat :=
  if n = 0xD7FF then 0xE000 else n + 1

/-- The code point of the character before another one. -/
def previous (n : Nat) : Nat :=
  if n = 0xE000 then 0xD7FF else n - 1

/-- The characters of the first set that are not in the second one. -/
def difference : Spans → Spans → Spans
  | [], _ => []
  | rs, [] => rs
  | r :: rs, q :: qs =>
    if q.2 < r.1 then difference (r :: rs) qs
    else if r.2 < q.1 then r :: difference rs (q :: qs)
    else
      let rest :=
        if q.2 < r.2 then difference ((next q.2, r.2) :: rs) qs else difference rs (q :: qs)
      if r.1 < q.1 then (r.1, previous q.1) :: rest else rest
termination_by s t => s.length + t.length

/-- The spans behind a character that is the last one of a span, where `spans` are those that follow
it.  If only surrogates part the two, both their edges are behind it. -/
def gapsBehind (last : Nat) : (spans : Spans) → Spans
  | [] => if last < 0x10FFFF then [(next last, 0x10FFFF)] else []
  | r :: rs =>
    let lo := next last
    let hi := previous r.1
    (min lo hi, max lo hi) :: gapsBehind r.2 rs

/-- The characters that are not in the set. -/
def complement : Spans → Spans
  | [] => [(0, 0x10FFFF)]
  | r :: rs =>
    if 0 < r.1 then (0, previous r.1) :: gapsBehind r.2 rs else gapsBehind r.2 rs

/-! ### Bytes -/

/-- The number of values of `count` digits between 0 and 63. -/
def blockSize : (count : Nat) → Nat
  | 0 => 1
  | count + 1 => 64 * blockSize count

/-- The numbers from one to another, as products of ranges of their digits: one digit in front and
`count` further digits between 0 and 63. -/
def digitRanges : (count : Nat) → (lo hi : Nat) → List (List (Nat × Nat))
  | 0, lo, hi => [[(lo, hi)]]
  | count + 1, lo, hi =>
    let size := blockSize (count + 1)
    let first := lo / size
    let last := hi / size
    if first = last then
      (digitRanges count (lo % size) (hi % size)).map ((first, first) :: ·)
    else
      let head :=
        if lo % size = 0 then []
        else (digitRanges count (lo % size) (size - 1)).map ((first, first) :: ·)
      let tail :=
        if hi % size = size - 1 then []
        else (digitRanges count 0 (hi % size)).map ((last, last) :: ·)
      let first := if head.isEmpty then first else first + 1
      let last := if tail.isEmpty then last else last - 1
      let middle :=
        if first ≤ last then [(first, last) :: List.replicate (count + 1) (0, 63)] else []
      head ++ middle ++ tail

/-- A form of characters in UTF-8. -/
structure ByteForm where
  first : Nat
  last : Nat
  /-- What is added to the first digit. -/
  mark : Nat
  /-- The number of further digits. -/
  count : Nat

/-- The forms of characters in UTF-8. -/
def byteForms : List ByteForm :=
  [⟨0x0, 0x7F, 0x0, 0⟩, ⟨0x80, 0x7FF, 0xC0, 1⟩, ⟨0x800, 0xD7FF, 0xE0, 2⟩,
    ⟨0xE000, 0xFFFF, 0xE0, 2⟩, ⟨0x10000, 0x10FFFF, 0xF0, 3⟩]

/-- The part of a span that has a certain form, as products of ranges of bytes. -/
def ByteForm.ranges (form : ByteForm) (span : Nat × Nat) : List (List (Nat × Nat)) :=
  let lo := max form.first span.1
  let hi := min form.last span.2
  if lo ≤ hi then
    (digitRanges form.count lo hi).map fun
      | r :: rs => (form.mark + r.1, form.mark + r.2) :: rs.map fun r => (0x80 + r.1, 0x80 + r.2)
      | [] => []
  else []

/-- Spans as products of ranges of bytes, in ascending order. -/
def byteRanges (spans : Spans) : List (List (Nat × Nat)) :=
  spans.flatMap fun span => byteForms.flatMap (·.ranges span)

end Spans

end PolicyEditor
