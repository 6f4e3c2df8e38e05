import PolicyEditor.Pattern.Expression
import Std.Data.HashMap

/-!
# Footprints of expressions

The size of a pattern is measured by the bytes that automata for it take: one that reads the bytes
of a text forwards and keeps track of groups, and one that reads them backwards.  A repetition
counts as often as it has to be written out.

States are numbered in the order in which they are added.  For classes beyond ASCII, states are
shared by way of a table with a fixed number of slots: the key of a state chooses its slot, and a
state is found there until another one takes its place.

## Main definitions

* `Footprint` : the size of an automaton.
* `Footprint.addClass?`, `Footprint.addTexts?` : classes and alternative texts.
* `Footprint.add?` : an expression.
* `Pattern.Expression.fits` : an expression is not too large.
-/

namespace PolicyEditor

/-- The direction in which an automaton reads a text. -/
inductive Direction where
  | forward
  | backward
deriving DecidableEq, Repr

/-- The size of an automaton. -/
structure Footprint where
  /-- The number of states. -/
  states : Nat := 0
  /-- The bytes that states take beyond their least size. -/
  extra : Nat := 0
deriving DecidableEq, Repr

namespace Footprint

/-! ### Bytes -/

/-- The least size of a state. -/
def stateSize : Nat := 32

/-- The size of a transition, where a state has several. -/
def linkSize : Nat := 8

/-- The size of a way out of a state, where no byte is read. -/
def exitSize : Nat := 4

/-- The greatest size of an automaton. -/
def sizeLimit : Nat := 10 * 1024 * 1024

/-- The number of bytes. -/
def bytes (f : Footprint) : Nat :=
  stateSize * f.states + f.extra

/-- The automaton with further states, some of which have transitions or ways out.  It must not get
too large. -/
def grow? (f : Footprint) (states : Nat) (links exits : Nat := 0) : Option Footprint :=
  let f : Footprint :=
    { states := f.states + states, extra := f.extra + linkSize * links + exitSize * exits }
  if f.bytes ≤ sizeLimit then some f else none

/-- Something is added `n` times. -/
def times (add : Footprint → Option Footprint) : (n : Nat) → Footprint → Option Footprint
  | 0, f => some f
  | n + 1, f => (add f).bind (times add n)

/-! ### Classes -/

/-- An automaton while a class is added to it. -/
structure Sharing where
  footprint : Footprint
  /-- The keys and the numbers of the states that are found, by their slots. -/
  slots : Std.HashMap Nat (List Nat × Nat) := ∅

/-- The slot of a key in a table with `count` slots. -/
def slot (count : Nat) (key : List Nat) : Nat :=
  let mixed := key.foldl (fun (h : UInt64) n => (h ^^^ n.toUInt64) * 1099511628211)
    14695981039346656037
  mixed.toNat % count

namespace Sharing

/-- A new state, with its number. -/
def add? (a : Sharing) (count : Nat) (key : List Nat) (links : Nat) : Option (Nat × Sharing) := do
  let number := a.footprint.states
  let footprint ← a.footprint.grow? 1 links
  return (number, { footprint, slots := a.slots.insert (slot count key) (key, number) })

/-- The number of the state with a key, which is added if it is not found. -/
def find? (a : Sharing) (count : Nat) (key : List Nat) (links : Nat) : Option (Nat × Sharing) :=
  match a.slots[slot count key]? with
  | some (found, number) => if found = key then some (number, a) else a.add? count key links
  | none => a.add? count key links

/-! #### Backwards -/

/-- The states that read ranges of bytes, the last one first, on their way to the state with the
number `target`. -/
def addBackward? (target : Nat) (a : Sharing) : List (Nat × Nat) → Option Sharing
  | [] => do return { a with footprint := ← a.footprint.grow? 0 0 1 }
  | r :: rs => do
    let (number, a) ← a.find? 1000 [target, r.1, r.2] 0
    addBackward? number a rs

/-! #### Forwards -/

/-- A state that is not finished: its transitions, the last one first, and the range of the one
whose target is not known. -/
structure Draft where
  links : List (Nat × Nat × Nat)
  pending : Nat × Nat

/-- The transitions, if the last one goes to a state. -/
def Draft.close (d : Draft) (target : Nat) : List (Nat × Nat × Nat) :=
  (d.pending.1, d.pending.2, target) :: d.links

/-- The states behind each other become finished, and the last one goes to the state with the number
`target`. -/
def close? (target : Nat) (a : Sharing) : List Draft → Option (Nat × Sharing)
  | [] => some (target, a)
  | d :: ds => do
    let (next, a) ← close? target a ds
    let links := (d.close next).reverse
    a.find? 10000 (links.flatMap fun (lo, hi, target) => [lo, hi, target]) links.length

/-- The states behind each other after ranges were added that ascend.  What they have in common with
the ranges before them is kept. -/
def addForward? (target : Nat) (a : Sharing) : List Draft → List (Nat × Nat) →
    Option (List Draft × Sharing)
  | d :: ds, r :: rs =>
    if d.pending = r then do
      let (ds, a) ← addForward? target a ds rs
      return (d :: ds, a)
    else do
      let (next, a) ← close? target a ds
      return ({ links := d.close next, pending := r } :: rs.map ({ links := [], pending := · }), a)
  | ds, rs => some (ds ++ rs.map ({ links := [], pending := · }), a)

end Sharing

/-- An automaton with a class.  Without characters beyond ASCII, one state reads all of them. -/
def addClass? (direction : Direction) (s : CharClass) (f : Footprint) : Option Footprint :=
  if s.spans.all (·.2 < 128) then f.grow? 2 s.spans.length
  else
    match direction with
    | .backward => do
      let f' ← f.grow? 2
      let a ← s.spans.byteRanges.foldlM (Sharing.addBackward? (f.states + 1)) { footprint := f' }
      return a.footprint
    | .forward => do
      let f' ← f.grow? 1
      let (drafts, a) ← s.spans.byteRanges.foldlM
        (fun (drafts, a) ranges => Sharing.addForward? f.states a drafts ranges)
        ([], { footprint := f' })
      let (_, a) ← a.close? f.states drafts
      return a.footprint

/-! ### Alternative texts -/

/-- Bytes and what follows them. -/
abbrev Fork := List (Nat × List (List Nat))

/-- A fork with one more text, which starts with a byte. -/
def Fork.add (byte : Nat) (tail : List Nat) : Fork → Fork
  | [] => [(byte, [tail])]
  | (b, tails) :: fork =>
    if b = byte then (b, tail :: tails) :: fork else (b, tails) :: Fork.add byte tail fork

/-- The forks after one more text.  Where a text ends, the last fork is closed, unless texts only
ended so far. -/
def addText : List Fork × Fork → List Nat → List Fork × Fork
  | (closed, last), [] =>
    if last.isEmpty && !closed.isEmpty && closed.all (·.isEmpty) then (closed, last)
    else (last :: closed, [])
  | (closed, last), byte :: tail => (closed, last.add byte tail)

/-- An automaton with the states in front of the ends of texts, none of which is longer than
`limit`. -/
def addTails? : (limit : Nat) → List (List Nat) → Footprint → Option Footprint
  | 0, _, f => some f
  | limit + 1, texts, f =>
    let (closed, last) := texts.foldl addText ([], [])
    let forks := (last :: closed).filter (!·.isEmpty)
    if forks.isEmpty then some f
    else do
      let f ← forks.foldlM (fun f fork => do
        let f ← f.grow? 1 (if fork.length = 1 then 0 else fork.length)
        fork.foldlM (fun f (_, tails) => addTails? limit tails.reverse f) f) f
      f.grow? 1 0 (forks.length + closed.length)

/-- The bytes of a text. -/
def bytesOf (cs : List Char) : List Nat :=
  cs.flatMap fun c => (String.utf8EncodeChar c).map (·.toNat)

/-- An automaton with alternative texts. -/
def addTexts? (direction : Direction) (texts : List (List Char)) (f : Footprint) :
    Option Footprint := do
  let texts := texts.map fun cs =>
    match direction with
    | .forward => bytesOf cs
    | .backward => (bytesOf cs).reverse
  addTails? (texts.foldl (fun n text => max n text.length) 0 + 1) texts (← f.grow? 1)

/-! ### Expressions -/

/-- An automaton with a repetition of what is added by `add`.  It matters whether what is repeated
can be empty. -/
def addRepeated? (isFilled : Bool) (add : Footprint → Option Footprint) (min : Nat) :
    (max : Option Nat) → Footprint → Option Footprint
  | none, f =>
    if min = 0 then
      if isFilled then do add (← f.grow? 1 0 2) else do (← add f).grow? 3 0 4
    else do (← times add min f).grow? 1 0 2
  | some max, f =>
    let option (f : Footprint) : Option Footprint := do add (← f.grow? 1 0 2)
    if min = 0 ∧ max = 1 then do (← option f).grow? 1
    else if min = max then times add min f
    else do
      let f ← if min = 0 then f.grow? 1 else times add min f
      times option (max - min) (← f.grow? 1)

/-- The texts that an expression consists of as alternatives. -/
def textsOf? : Pattern.Expression → Option (List (List Char))
  | .text cs => some [cs]
  | .either (.text cs) q => (textsOf? q).map (cs :: ·)
  | _ => none

/-- An automaton with the branch behind `before` other ones.  A fork comes after the second one. -/
def addBranch? (before : Nat) (f : Footprint) : Option Footprint :=
  match before with
  | 0 => some f
  | 1 => f.grow? 2 0 2
  | _ => f.grow? 0 0 1

/-- The expression consists of alternatives. -/
def isFork : Pattern.Expression → Bool
  | .either _ _ => true
  | _ => false

/-- An automaton with an expression.  Alternatives are the branches behind `before` other ones. -/
def add? (direction : Direction) : (before : Nat) → Pattern.Expression → Footprint →
    Option Footprint
  | _, .nothing, f | _, .edge _, f => f.grow? 1
  | _, .text cs, f => f.grow? (bytesOf cs).length
  | _, .chars _ s, f => f.addClass? direction s
  | _, .group p, f =>
    match direction with
    | .forward => do (← add? direction 0 p (← f.grow? 1)).grow? 1
    | .backward => add? direction 0 p f
  | _, .repeated min max _ p, f => addRepeated? p.isFilled (add? direction 0 p) min max f
  | _, .seq p q, f =>
    match direction with
    | .forward => (add? direction 0 p f).bind (add? direction 0 q)
    | .backward => (add? direction 0 q f).bind (add? direction 0 p)
  | before, .either p q, f =>
    match if before = 0 then textsOf? (.either p q) else none with
    | some texts => addTexts? direction texts f
    | none => do
      let f ← addBranch? before (← add? direction 0 p f)
      if isFork q then add? direction (before + 1) q f
      else addBranch? (before + 1) (← add? direction 0 q f)

end Footprint

namespace Pattern.Expression

/-- Whether all matches are at the start of the text, or at its end for the other direction, and
whether all of them are empty. -/
def anchor (direction : Direction) : Expression → Bool × Bool
  | nothing => (false, true)
  | edge e =>
    match direction with
    | .forward => (e = .start, true)
    | .backward => (e = .stop, true)
  | text _ | chars _ _ => (false, false)
  | group p => p.anchor direction
  | repeated min _ _ p =>
    let (anchored, flat) := p.anchor direction
    (0 < min && anchored, flat)
  | seq p q =>
    let (anchored, flat) := p.anchor direction
    let (anchored', flat') := q.anchor direction
    match direction with
    | .forward => (anchored || (flat && anchored'), flat && flat')
    | .backward => (anchored' || (flat' && anchored), flat && flat')
  | either p q =>
    let (anchored, flat) := p.anchor direction
    let (anchored', flat') := q.anchor direction
    (anchored && anchored', flat && flat')

/-- The size of the automaton for an expression.  It starts with what goes past the text in front of
a match, and forwards the whole match is a group. -/
def footprint? (direction : Direction) (p : Expression) : Option Footprint := do
  let f : Footprint := {}
  let f ← if (p.anchor direction).1 then f.grow? 1 else f.grow? 3 1 2
  let f ← Footprint.add? direction 0 (.group p) f
  f.grow? 1

/-- The number of texts from which on they are looked for without an automaton. -/
def manyTexts : Nat := 3000

/-- The expression is not too large. -/
def fits (p : Expression) : Bool :=
  ((Footprint.textsOf? p).any (manyTexts ≤ ·.length)) ||
    ((p.footprint? .backward).isSome && (p.footprint? .forward).isSome)

end Pattern.Expression

end PolicyEditor
