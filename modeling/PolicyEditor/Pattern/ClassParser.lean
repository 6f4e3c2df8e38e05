import PolicyEditor.Pattern.Escape

/-!
# Reading character classes

A class in brackets lists characters, ranges, escapes and further classes.  Two lists can be
combined by an operation on sets, and these operations associate to the left.

## Main definitions

* `Pattern.ClassPart` : a part of a class, with the depth of its nesting.
* `Pattern.depthLimit` : the greatest depth of a pattern.
* `Pattern.readClass?` : a class in brackets.
-/

namespace PolicyEditor.Pattern

/-- The greatest depth of a pattern. -/
def depthLimit : Nat := 250

/-- A part of a class. -/
structure ClassPart where
  chars : CharClass
  /-- The number of lists, operations and brackets around each other. -/
  depth : Nat := 0
deriving DecidableEq, Repr

/-- An operation on two classes. -/
inductive SetOperation where
  | intersection
  | difference
  | symmetricDifference
deriving DecidableEq, Repr

/-- The result of an operation. -/
def SetOperation.apply : SetOperation → CharClass → CharClass → CharClass
  | intersection, s, t => s.intersection t
  | difference, s, t => s.difference t
  | symmetricDifference, s, t => s.symmetricDifference t

/-- The first operand of an operation and the operation. -/
abbrev Operand := ClassPart × SetOperation

namespace ClassPart

/-- The list of parts. -/
def ofList : List ClassPart → ClassPart
  | [] => { chars := .empty }
  | [p] => p
  | ps =>
    { chars := .unions (ps.map (·.chars))
      depth := ps.foldl (fun d p => max d p.depth) 0 + 1 }

/-- The list of parts with the operation in front of it.  The operands are classes of their own, in
which case may make no difference. -/
def combine (m : Modes) (operand : Option Operand) (parts : List ClassPart) : ClassPart :=
  let right := ofList parts
  match operand with
  | none => right
  | some (left, operation) =>
    { chars := operation.apply (m.fold left.chars) (m.fold right.chars)
      depth := max left.depth right.depth + 1 }

/-- The class in brackets around a part, which is not nested too deep. -/
def close? (m : Modes) (negated : Bool) (p : ClassPart) : Option ClassPart := do
  if depthLimit ≤ p.depth then none
  return { chars := ← m.negate? negated (m.fold p.chars), depth := p.depth + 1 }

/-- The part for a single character.  Beyond ASCII there are none without Unicode. -/
def ofChar? (m : Modes) (c : Char) : Option ClassPart :=
  if m.unicode || c.toNat < 128 then some { chars := .single c } else none

/-- The part for an escape or a single character. -/
def ofEscape? (m : Modes) : Escape → Option ClassPart
  | .char c | .byte c => ofChar? m c
  | .chars s => some { chars := s }
  | .edge _ => none

end ClassPart

/-- The character of an escape for a single one. -/
def Escape.char? : Escape → Option Char
  | .char c | .byte c => some c
  | _ => none

/-- A character or an escape. -/
def readClassItem? (m : Modes) : List Char → Option (Escape × List Char)
  | [] => none
  | '\\' :: cs => readEscape? m cs
  | c :: cs => some (.char c, cs)

/-- A character, a range or an escape.  A dash before the end or before another dash does not make
a range. -/
def readRange? (m : Modes) (cs : List Char) : Option (ClassPart × List Char) := do
  let (first, cs) ← readClassItem? m cs
  let cs := m.skip cs
  let next := (m.skip (cs.drop 1)).head?
  if cs.head? != some '-' || next == some ']' || next == some '-' then
    return (← ClassPart.ofEscape? m first, cs)
  else
    let (last, cs) ← readClassItem? m (m.skip (cs.drop 1))
    let a ← first.char?
    let b ← last.char?
    let _ ← ClassPart.ofChar? m b
    if a ≤ b then return ({ chars := .range a b }, cs) else none

/-- A traditional name between colons and brackets, of which the first one was read. -/
def readPosix? (m : Modes) : List Char → Option (ClassPart × List Char)
  | ':' :: cs => do
    let negated := cs.head? == some '^'
    let cs := if negated then cs.drop 1 else cs
    let name := cs.takeWhile (· != ':')
    match cs.drop name.length with
    | ':' :: ']' :: cs => do
      let s ← CharClass.ofPosixName? (String.ofList name)
      return ({ chars := ← m.negate? negated (m.fold s) }, cs)
    | _ => none
  | _ => none

/-- The text between the opening bracket and a colon starts with a traditional name. -/
def startsPosix (cs : List Char) : Bool :=
  (readPosix? {} cs).isSome

/-- The rest of a class up to its closing bracket.  It has at most `limit` parts, and `parts` are
those that were read since the operation after `operand`, the last one first. -/
def readParts? (m : Modes) (inner : List Char → Option (ClassPart × List Char)) :
    (limit : Nat) → (operand : Option Operand) → (parts : List ClassPart) → List Char →
    Option (ClassPart × List Char)
  | 0, _, _, _ => none
  | limit + 1, operand, parts, cs =>
    let combine (operation : SetOperation) : Option Operand :=
      some (.combine m operand parts.reverse, operation)
    match m.skip cs with
    | [] => none
    | ']' :: cs => some (.combine m operand parts.reverse, cs)
    | '[' :: cs => do
      let (part, cs) ← if startsPosix cs then readPosix? m cs else inner cs
      readParts? m inner limit operand (part :: parts) cs
    | '&' :: '&' :: cs => readParts? m inner limit (combine .intersection) [] cs
    | '-' :: '-' :: cs => readParts? m inner limit (combine .difference) [] cs
    | '~' :: '~' :: cs => readParts? m inner limit (combine .symmetricDifference) [] cs
    | cs => do
      let (part, cs) ← readRange? m cs
      readParts? m inner limit operand (part :: parts) cs

/-- Dashes at the start of a class, at most `limit` many.  They stand for themselves. -/
def readDashes (m : Modes) : (limit : Nat) → List Char → List ClassPart × List Char
  | limit + 1, '-' :: cs =>
    let (dashes, cs) := readDashes m limit (m.skip cs)
    ({ chars := .single '-' } :: dashes, cs)
  | _, cs => ([], cs)

/-- A class behind its opening bracket, with at most `depth` parts, in which brackets are nested
less than `depth` deep.  A closing bracket at the start stands for itself. -/
def readClass? (m : Modes) : (depth : Nat) → List Char → Option (ClassPart × List Char)
  | 0, _ => none
  | depth + 1, cs => do
    let cs := m.skip cs
    let negated := cs.head? == some '^'
    let cs := if negated then m.skip (cs.drop 1) else cs
    let (dashes, cs) := readDashes m (depth + 1) cs
    let (first, cs) :=
      if dashes.isEmpty && cs.head? == some ']' then ([{ chars := .single ']' }], cs.drop 1)
      else (dashes, cs)
    let (part, cs) ← readParts? m (readClass? m depth) (depth + 1) none first cs
    return (← part.close? m negated, cs)

end PolicyEditor.Pattern
