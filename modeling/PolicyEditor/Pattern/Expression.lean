import PolicyEditor.Pattern

/-!
# Reduced expressions

What is read of a pattern becomes an expression, which keeps groups and does not write repetitions
out.  Expressions are reduced where they are built: characters behind each other form one text,
alternatives of single characters form one class, and what all alternatives start with is taken out.

## Main definitions

* `Pattern.Expression` : a reduced expression.
* `Pattern.Expression.ofClass`, `Pattern.Expression.sequence`, `Pattern.Expression.oneOf`,
  `Pattern.Expression.repeatBetween` : building of expressions.
* `Pattern.Expression.toPattern` : the pattern of an expression.
-/

namespace PolicyEditor.Pattern

/-- A reduced expression.  Sequences and alternatives are nested in their second part only. -/
inductive Expression where
  /-- Nothing at all. -/
  | nothing
  | edge (edge : Edge)
  /-- One character or several ones behind each other. -/
  | text (chars : List Char)
  /-- A class of characters, which may have been read as one of ASCII only. -/
  | chars (ascii : Bool) (s : CharClass)
  /-- A group that is kept track of. -/
  | group (inner : Expression)
  /-- A repetition, which may prefer short matches. -/
  | repeated (min : Nat) (max : Option Nat) (short : Bool) (inner : Expression)
  | seq (first rest : Expression)
  | either (first rest : Expression)
deriving DecidableEq, Repr

namespace Expression

/-! ### Properties of expressions -/

/-- The expressions are written alike.  Groups are kept apart, so no two of them are alike. -/
def alike : Expression → Expression → Bool
  | nothing, nothing => true
  | edge e, edge f => e = f
  | text cs, text ds => cs = ds
  | chars a s, chars b t => a = b && s = t
  | repeated min max short p, repeated min' max' short' q =>
    min = min' && max = max' && short = short' && p.alike q
  | seq p q, seq p' q' => p.alike p' && q.alike q'
  | either p q, either p' q' => p.alike p' && q.alike q'
  | _, _ => false

/-- All matches are empty. -/
def isFlat : Expression → Bool
  | nothing | edge _ => true
  | text _ | chars _ _ => false
  | group p | repeated _ _ _ p => p.isFlat
  | seq p q | either p q => p.isFlat && q.isFlat

/-- A number of characters that no match goes below.  It is absent if some class is empty. -/
def leastLength? : Expression → Option Nat
  | nothing | edge _ => some 0
  | text cs => some cs.length
  | chars _ s => if s.spans.isEmpty then none else some 1
  | group p => p.leastLength?
  | repeated min _ _ p => p.leastLength?.map (min * ·)
  | seq p q => do return (← p.leastLength?) + (← q.leastLength?)
  | either p q => do return min (← p.leastLength?) (← q.leastLength?)

/-- No match is empty. -/
def isFilled (p : Expression) : Bool :=
  p.leastLength?.any (0 < ·)

/-! ### Building of expressions -/

/-- The expressions behind each other. -/
def items : Expression → List Expression
  | nothing => []
  | seq p q => p :: q.items
  | p => [p]

/-- The alternatives. -/
def branches : Expression → List Expression
  | either p q => p :: q.branches
  | p => [p]

/-- Reduced expressions behind each other. -/
def ofItems : List Expression → Expression
  | [] => nothing
  | [p] => p
  | p :: ps => seq p (ofItems ps)

/-- Several alternatives. -/
def ofBranches : List Expression → Expression
  | [] => nothing
  | [p] => p
  | p :: ps => either p (ofBranches ps)

/-- A class of characters.  A single character is a text. -/
def ofClass (ascii : Bool) (s : CharClass) : Expression :=
  match s.spans with
  | [] => chars true s
  | [(lo, hi)] => if lo = hi then text [Char.ofNat lo] else chars ascii s
  | _ => chars ascii s

/-- The expression in front of others, where texts behind each other become one. -/
def prepend : Expression → List Expression → List Expression
  | text cs, text ds :: ps => text (cs ++ ds) :: ps
  | p, ps => p :: ps

/-- The expressions one after the other. -/
def sequence (ps : List Expression) : Expression :=
  ofItems ((ps.flatMap items).foldr prepend [])

/-- The only character of an expression. -/
def char? : Expression → Option Char
  | text [c] => some c
  | _ => none

/-- The class that an expression is. -/
def class? : Expression → Option CharClass
  | chars _ s => some s
  | _ => none

/-- The number of expressions that two lists have in common at their start. -/
def commonLength : List Expression → List Expression → Nat
  | p :: ps, q :: qs => if p.alike q then commonLength ps qs + 1 else 0
  | _, _ => 0

/-- One of the expressions, of which there is one at least.  At most `limit` times, what they have
in common at their start is taken out. -/
def oneOfWithin (limit : Nat) (ps : List Expression) : Expression :=
  let ps := ps.flatMap branches
  match ps.mapM char?, ps.mapM class?, limit, ps with
  | _, _, _, [p] => p
  | some cs, _, _, _ => ofClass false (.ofChars cs)
  | _, some classes, _, _ => ofClass false (.unions classes)
  | _, _, limit + 1, p :: ps =>
    let first := p.items
    let rests := ps.map items
    let common := rests.foldl (fun n qs => min n (commonLength (first.take n) qs)) first.length
    if 1 < first.length && rests.all (1 < ·.length) && 0 < common then
      sequence (first.take common ++
        [oneOfWithin limit ((first :: rests).map fun qs => ofItems (qs.drop common))])
    else ofBranches (p :: ps)
  | _, _, _, ps => ofBranches ps

/-- One of the expressions. -/
def oneOf (ps : List Expression) : Expression :=
  oneOfWithin (ps.foldl (fun n p => n + p.items.length) 0) ps

/-- The expression at least `min` times, and at most `max` times if that is given.  If its matches
are empty, more than one makes no difference. -/
def repeatBetween (min : Nat) (max : Option Nat) (short : Bool) (p : Expression) : Expression :=
  let (min, max) := if p.isFlat then (Nat.min min 1, some (Nat.min (max.getD 1) 1)) else (min, max)
  if max = some 0 then nothing
  else if min = 1 ∧ max = some 1 then p
  else repeated min max short p

/-! ### Patterns -/

/-- The pattern of an expression. -/
def toPattern : Expression → Pattern CharClass
  | nothing => .empty
  | edge e => .edge e
  | text cs => .sequence (cs.map fun c => .char (.single c))
  | chars _ s => .char s
  | group p => p.toPattern
  | repeated min max _ p => p.toPattern.repeated min max
  | seq p q => .seq p.toPattern q.toPattern
  | either p q => .either p.toPattern q.toPattern

end Expression

end PolicyEditor.Pattern
