import PolicyEditor.Text.Bytes

/-!
# Lines and columns

Messages show a byte offset of a text as a line and a column, both counted from one.  Columns
count bytes.  The line of an offset is found by a binary search over the places at which lines
start.

Offsets are 32 bits wide in the program, the starts of lines as well as those that are looked up.
So the starts ascend in a text of fewer than `2 ^ 32` bytes.  In a longer one a line may be found
that starts elsewhere, or, in a build that checks sums for overflow, the program may stop at the
line feed in front of it.

## Main definitions

* `Position` : a line and a column.
* `LineIndex` : the byte offsets at which the lines of a text start.
* `LineIndex.search` : where an offset stands among the line starts.
* `LineIndex.position?`, `LineIndex.position` : the line and column of a byte offset.
-/

namespace PolicyEditor

/-- A line and a column of a text, counted from one. -/
structure Position where
  line : Nat
  column : Nat
deriving DecidableEq, Repr

/-- The byte offsets at which the lines of a text start, in 32 bits. -/
structure LineIndex where
  starts : List Nat
  /-- The first line starts with the text. -/
  head?_starts : starts.head? = some 0
deriving DecidableEq, Repr

namespace LineIndex

/-! ### Line starts -/

/-- The offsets behind the line feeds of a text that starts at `offset`. -/
def startsFrom (offset : Nat) : List Char → List Nat
  | [] => []
  | c :: cs =>
    let next := offset + c.utf8Size
    if c = '\n' then next :: startsFrom next cs else startsFrom next cs

/-- The line index of a text; the first line starts at offset zero. -/
def ofText (text : List Char) : LineIndex where
  starts := 0 :: (startsFrom 0 text).map Text.wrap
  head?_starts := rfl

/-! ### Search -/

/-- Where an offset stands among the line starts. -/
inductive Sought where
  /-- A line starts there. -/
  | found (line : Nat)
  /-- No line starts there; a line that did would have this number. -/
  | missing (next : Nat)
deriving DecidableEq, Repr

/-- The number of the line at which a search for `offset` ends.  The search goes through `size`
line starts from number `base` on, and each of at most `limit` steps leaves out one half of them. -/
def narrow (starts : List Nat) (offset : Nat) :
    (limit base size : Nat) → base + size ≤ starts.length → Nat
  | 0, base, _, _ => base
  | limit + 1, base, size, h =>
    if hsize : size ≤ 1 then base
    else
      have hmiddle : base + size / 2 < starts.length := by omega
      if starts[base + size / 2] ≤ offset then
        narrow starts offset limit (base + size / 2) (size - size / 2) (by omega)
      else narrow starts offset limit base (size - size / 2) (by omega)

/-- Where an offset stands among the line starts. -/
def search (starts : List Nat) (offset : Nat) : Sought :=
  let line := narrow starts offset starts.length 0 starts.length (by omega)
  match starts[line]? with
  | none => .missing line
  | some start =>
    if start = offset then .found line
    else if start < offset then .missing (line + 1)
    else .missing line

/-- The search ends at a line start that is not behind the offset, whatever the others are. -/
theorem exists_le_narrow {starts : List Nat} {offset limit base size : Nat}
    (h : base + size ≤ starts.length)
    (hbase : ∃ start, starts[base]? = some start ∧ start ≤ offset) :
    ∃ start, starts[narrow starts offset limit base size h]? = some start ∧ start ≤ offset := by
  induction limit generalizing base size with
  | zero => exact hbase
  | succ limit ih =>
    rw [narrow]
    split
    · exact hbase
    · dsimp only
      split
      · next hle => exact ih _ ⟨_, List.getElem?_eq_getElem _, hle⟩
      · exact ih _ hbase

/-- In ascending line starts the search ends at the last one that is not behind the offset. -/
theorem lt_of_narrow_lt {starts : List Nat} (hascending : starts.Pairwise (· < ·)) {offset : Nat}
    {limit base size : Nat} (h : base + size ≤ starts.length) (hlimit : size ≤ limit + 1)
    (hbehind : ∀ later start, base + size ≤ later → starts[later]? = some start → offset < start)
    {later start : Nat} (hlater : narrow starts offset limit base size h < later)
    (hstart : starts[later]? = some start) : offset < start := by
  induction limit generalizing base size with
  | zero => exact hbehind later start (by rw [narrow] at hlater; omega) hstart
  | succ limit ih =>
    rw [narrow] at hlater
    split at hlater
    · exact hbehind later start (by omega) hstart
    · next hsize =>
      have hmiddle : base + size / 2 < starts.length := by omega
      dsimp only at hlater
      split at hlater
      · exact ih _ (by omega) (fun later start hle => hbehind later start (by omega)) hlater
      · next hlt =>
        refine ih _ (by omega) (fun later start hle hstart => ?_) hlater
        obtain ⟨hlength, rfl⟩ := List.getElem?_eq_some_iff.1 hstart
        rcases Nat.eq_or_lt_of_le (show base + size / 2 ≤ later by omega) with rfl | hbefore
        · omega
        · have := List.pairwise_iff_getElem.1 hascending _ _ hmiddle hlength hbefore
          omega

/-! ### Lines and columns -/

variable (index : LineIndex) (offset : Nat)

/-- The number of the line of a byte offset, counted from zero: the line that starts there, or the
one in front of the place at which such a line would stand. -/
def line? : Option Nat :=
  match search index.starts offset with
  | .found line => some line
  | .missing 0 => none
  | .missing (next + 1) => some next

/-- The line and column of a byte offset in 32 bits, which may lie behind the end of the text. -/
def position? : Option Position := do
  let offset := Text.wrap offset
  let line ← index.line? offset
  let start ← index.starts[line]?
  if start ≤ offset then return ⟨line + 1, offset - start + 1⟩ else none

/-- Every offset is on a line that starts at it or before it.  If the lines start one behind the
other, it is the last one of these. -/
theorem position?_spec : ∃ line start,
    index.position? offset = some ⟨line + 1, Text.wrap offset - start + 1⟩ ∧
    index.starts[line]? = some start ∧ start ≤ Text.wrap offset ∧
    (index.starts.Pairwise (· < ·) → ∀ later start, line < later →
      index.starts[later]? = some start → Text.wrap offset < start) := by
  rw [position?]
  generalize Text.wrap offset = offset
  have hfirst : index.starts[0]? = some 0 := List.head?_eq_getElem? ▸ index.head?_starts
  have hsize : 0 + index.starts.length ≤ index.starts.length := Nat.le_of_eq (Nat.zero_add _)
  have hfound : ∃ start,
      index.starts[narrow index.starts offset index.starts.length 0 index.starts.length hsize]? =
        some start ∧ start ≤ offset :=
    exists_le_narrow hsize ⟨0, hfirst, Nat.zero_le offset⟩
  obtain ⟨start, hstart, hle⟩ := hfound
  refine ⟨_, start, ?_, hstart, hle, fun hascending later start hlater hstart => ?_⟩
  · have hline : index.line? offset =
        some (narrow index.starts offset index.starts.length 0 index.starts.length hsize) := by
      simp only [line?, search, hstart]
      by_cases heq : start = offset
      · simp only [if_pos heq]
      · simp only [if_neg heq, if_pos (Nat.lt_of_le_of_ne hle heq)]
    simp only [hline, hstart, Option.bind_eq_bind, Option.bind_some, if_pos hle]
    rfl
  · refine lt_of_narrow_lt hascending hsize (Nat.le_succ _) (fun later start hlater hstart => ?_)
      hlater hstart
    have := (List.getElem?_eq_some_iff.1 hstart).1
    omega

theorem isSome_position? : (index.position? offset).isSome := by
  obtain ⟨line, start, h, -⟩ := index.position?_spec offset
  rw [h]
  rfl

/-- The line and column of a byte offset in 32 bits, which may lie behind the end of the text. -/
def position : Position :=
  (index.position? offset).get (index.isSome_position? offset)

/-- The number of lines, counting the one behind a final line feed. -/
def lineCount : Nat :=
  index.starts.length

end LineIndex

end PolicyEditor
