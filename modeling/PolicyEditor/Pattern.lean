import PolicyEditor.Pattern.Class

/-!
# Patterns for names

A pattern is a regular expression.  A text is matched by reading it once, character by character,
while the characters of the pattern are marked with which the part of the text that was just read
may end.  So the time needed is bounded by the length of the text times the size of the pattern
times its depth.

## Main definitions

* `Place`, `Edge` : a place in a text, and a condition on it.
* `Pattern` : a regular expression over tests of single characters.
* `Progress` : a pattern with marks.
* `Pattern.occursIn` : the pattern matches a part of a text.
-/

namespace PolicyEditor

/-! ### Places -/

/-- A place in a text, by the characters before and after it. -/
structure Place where
  behind : Option Char
  ahead : Option Char
deriving DecidableEq, Repr

/-- A condition on the characters of words around a place. -/
inductive WordEdge where
  /-- There is one on one side. -/
  | change
  /-- There is one on both sides or on none. -/
  | noChange
  /-- A word starts here. -/
  | start
  /-- A word ends here. -/
  | stop
  /-- There is none behind. -/
  | startHalf
  /-- There is none ahead. -/
  | stopHalf
deriving DecidableEq, Repr

/-- The condition holds if there is a character of a word behind or ahead. -/
def WordEdge.holds : WordEdge → (behind ahead : Bool) → Bool
  | change, behind, ahead => behind != ahead
  | noChange, behind, ahead => behind == ahead
  | start, behind, ahead => !behind && ahead
  | stop, behind, ahead => behind && !ahead
  | startHalf, behind, _ => !behind
  | stopHalf, _, ahead => !ahead

/-- A condition on a place. -/
inductive Edge where
  /-- The start of the text. -/
  | start
  /-- The end of the text. -/
  | stop
  /-- The start of a line.  Lines may end with a carriage return too. -/
  | lineStart (crlf : Bool)
  /-- The end of a line. -/
  | lineStop (crlf : Bool)
  | word (edge : WordEdge) (ascii : Bool)
deriving DecidableEq, Repr

/-- The character exists and is one of a word. -/
def isWordChar (ascii : Bool) (c : Option Char) : Bool :=
  c.any (if ascii then CharClass.asciiWord else CharClass.word).accepts

/-- The condition holds at a place.  No line starts or ends between a carriage return and a line
feed. -/
def Edge.holds : Edge → Place → Bool
  | start, p => p.behind.isNone
  | stop, p => p.ahead.isNone
  | lineStart false, p => p.behind.all (· == '\n')
  | lineStart true, p => p.behind.all fun c => c == '\n' || (c == '\r' && p.ahead != some '\n')
  | lineStop false, p => p.ahead.all (· == '\n')
  | lineStop true, p => p.ahead.all fun c => c == '\r' || (c == '\n' && p.behind != some '\r')
  | word edge ascii, p => edge.holds (isWordChar ascii p.behind) (isWordChar ascii p.ahead)

/-! ### Patterns -/

/-- A regular expression, in which the tests of single characters are of type `α`. -/
inductive Pattern (α : Type) where
  /-- Nothing at all. -/
  | empty
  | edge (edge : Edge)
  | char (test : α)
  | seq (first second : Pattern α)
  | either (first second : Pattern α)
  /-- Once or more often. -/
  | plus (repeated : Pattern α)
deriving DecidableEq, Repr

namespace Pattern

variable {α β : Type}

/-- The pattern once or not at all. -/
def optional (p : Pattern α) : Pattern α :=
  either p empty

/-- The pattern any number of times. -/
def star (p : Pattern α) : Pattern α :=
  optional (plus p)

/-- The patterns one after the other. -/
def sequence : List (Pattern α) → Pattern α
  | [] => empty
  | [p] => p
  | p :: ps => seq p (sequence ps)

/-- One of the patterns, or nothing if there are none. -/
def oneOf : List (Pattern α) → Pattern α
  | [] => empty
  | [p] => p
  | p :: ps => either p (oneOf ps)

/-- The pattern `n` times.  It is halved so that it does not get deep. -/
def power (p : Pattern α) (n : Nat) : Pattern α :=
  if n = 0 then empty
  else if n = 1 then p
  else seq (p.power (n / 2)) (p.power (n - n / 2))
termination_by n

/-- The pattern at least `min` times, and at most `max` times if that is given. -/
def repeated (p : Pattern α) : (min : Nat) → (max : Option Nat) → Pattern α
  | 0, none => p.star
  | min + 1, none => if min = 0 then p.plus else seq (p.power min) p.plus
  | 0, some max => p.optional.power max
  | min + 1, some max => seq (p.power (min + 1)) (p.optional.power (max - (min + 1)))

/-- The pattern with its tests replaced. -/
def map (f : α → β) : Pattern α → Pattern β
  | empty => empty
  | edge e => edge e
  | char a => char (f a)
  | seq p q => seq (p.map f) (q.map f)
  | either p q => either (p.map f) (q.map f)
  | plus p => plus (p.map f)

/-- The pattern matches the empty text at a place. -/
def isPassed (place : Place) : Pattern α → Bool
  | empty => true
  | edge e => e.holds place
  | char _ => false
  | seq p q => p.isPassed place && q.isPassed place
  | either p q => p.isPassed place || q.isPassed place
  | plus p => p.isPassed place

end Pattern

/-! ### Matching -/

/-- A pattern in which the characters are marked with which the text that was read may end. -/
abbrev Progress := Pattern (CharClass × Bool)

namespace Progress

/-- A marked character is the last one of a match that ends at a place. -/
def isDone (place : Place) : Progress → Bool
  | .empty | .edge _ => false
  | .char (_, marked) => marked
  | .seq p q => isDone place q || (isDone place p && q.isPassed place)
  | .either p q => isDone place p || isDone place q
  | .plus p => isDone place p

/-- The pattern is left at a place, where it may have been `entered` just there. -/
def isLeft (place : Place) (entered : Bool) (p : Progress) : Bool :=
  isDone place p || (entered && p.isPassed place)

/-- The pattern behind the next character `c`, where it may be `entered` at the place in front of
it. -/
def advance (place : Place) (c : Char) : (entered : Bool) → Progress → Progress
  | _, .empty => .empty
  | _, .edge e => .edge e
  | entered, .char (accepted, _) => .char (accepted, entered && accepted.accepts c)
  | entered, .seq p q =>
    .seq (advance place c entered p) (advance place c (isLeft place entered p) q)
  | entered, .either p q => .either (advance place c entered p) (advance place c entered q)
  | entered, .plus p => .plus (advance place c (entered || isDone place p) p)

/-- A match ends somewhere in the text that stands behind a character, where matches may start at
any place. -/
def finds (p : Progress) (behind : Option Char) : List Char → Bool
  | [] => isLeft ⟨behind, none⟩ true p
  | c :: cs =>
    let place : Place := ⟨behind, some c⟩
    isLeft place true p || finds (advance place c true p) (some c) cs

end Progress

/-- A pattern whose tests are classes of characters matches a part of a text. -/
def Pattern.occursIn (p : Pattern CharClass) (text : String) : Bool :=
  Progress.finds (p.map (·, false)) none text.toList

end PolicyEditor
