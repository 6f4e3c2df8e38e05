import PolicyEditor.Pattern.ClassParser
import PolicyEditor.Pattern.Footprint

/-!
# Reading patterns

A pattern consists of branches between bars, which consist of parts.  Groups nest in parentheses.
So the reader of the branches takes the reader of what stands between parentheses as an argument,
and `Pattern.readGroup?` closes the circle with the depth of nesting as its measure.

A flag holds up to the end of its group.  A pattern is refused if its parts are nested too deep, if
two groups have the same name, or if its expression is too large.

## Main definitions

* `Pattern.Part` : a part of a pattern with its depth and its names.
* `Pattern.readBranches?` : the inside of a group.
* `Pattern.Expression.parse?`, `Pattern.parse?` : the expression and the pattern of a text.
-/

namespace PolicyEditor.Pattern

/-! ### Parts -/

/-- A part of a pattern. -/
structure Part where
  expression : Expression
  /-- The number of lists, repetitions and groups around each other. -/
  depth : Nat := 0
  /-- The names of the groups in the part. -/
  names : List String := []

namespace Part

/-- The part without anything in it. -/
def nothing : Part where
  expression := .nothing

/-- The part for a class of characters. -/
def ofClass (m : Modes) (s : CharClass) (depth : Nat := 0) : Part where
  expression := .ofClass (!m.unicode) s
  depth := depth

/-- The part for a single character. -/
def ofChar (m : Modes) (c : Char) : Part :=
  ofClass m (m.fold (.single c))

/-- The part for a condition on a place. -/
def ofEdge (e : Edge) : Part where
  expression := .edge e

/-- The part for an escape or a single character.  Bytes beyond ASCII are no characters. -/
def ofEscape? (m : Modes) : Escape → Option Part
  | .char c => some (ofChar m c)
  | .byte c => if m.unicode || c.toNat < 128 then some (ofChar m c) else none
  | .chars s => some (ofClass m s)
  | .edge e => some (ofEdge e)

/-- The part for any character, or for any that does not end a line. -/
def dot? (m : Modes) : Option Part :=
  if !m.unicode then none
  else some (ofClass m (.allBut (if m.dotAll then [] else if m.crlf then ['\r', '\n'] else ['\n'])))

/-- The part for the start of the text or of a line. -/
def start (m : Modes) : Part :=
  ofEdge (if m.multiline then .lineStart m.crlf else .start)

/-- The part for the end of the text or of a line. -/
def stop (m : Modes) : Part :=
  ofEdge (if m.multiline then .lineStop m.crlf else .stop)

/-- The part for several ones.  A single one is not nested deeper. -/
def collect (expression : List Expression → Expression) : List Part → Part
  | [] => nothing
  | [p] => p
  | ps =>
    { expression := expression (ps.map (·.expression))
      depth := ps.foldl (fun d p => max d p.depth) 0 + 1
      names := ps.flatMap (·.names) }

/-- The part in a group, which may have a name or not be counted. -/
def group (name : Option String) (counted : Bool) (p : Part) : Part where
  expression := if counted then .group p.expression else p.expression
  depth := p.depth + 1
  names := name.toList ++ p.names

/-- The part at least `min` times, and at most `max` times if that is given. -/
def repeatBetween (min : Nat) (max : Option Nat) (short : Bool) (p : Part) : Part :=
  { p with expression := p.expression.repeatBetween min max short, depth := p.depth + 1 }

end Part

/-- The inside of a group as far as it was read, the last items first.  Flags are items without a
part. -/
structure Draft where
  branches : List Part := []
  items : List (Option Part) := []

namespace Draft

/-- The draft with one more item. -/
def push (d : Draft) (item : Option Part) : Draft :=
  { d with items := item :: d.items }

/-- The part for the items of a branch. -/
def branch (d : Draft) : Part :=
  .collect .sequence (d.items.reverse.map (·.getD .nothing))

/-- The draft with another branch. -/
def nextBranch (d : Draft) : Draft where
  branches := d.branch :: d.branches

/-- The part for all branches. -/
def close (d : Draft) : Part :=
  .collect .oneOf (d.branch :: d.branches).reverse

/-- The draft with its last item changed.  Flags cannot be repeated. -/
def change? (d : Draft) (f : Part → Part) : Option Draft :=
  match d.items with
  | some part :: items => some { d with items := some (f part) :: items }
  | _ => none

end Draft

/-! ### Repetitions -/

/-- The bounds of the repetition that an operator stands for. -/
def boundsOf? : (operator : Char) → Option (Nat × Option Nat)
  | '*' => some (0, none)
  | '+' => some (1, none)
  | '?' => some (0, some 1)
  | _ => none

/-- Whether a repetition prefers short matches, for which a question mark may ask, and the text
behind it. -/
def takePreference (m : Modes) : List Char → Bool × List Char
  | '?' :: cs => (!m.swapGreed, cs)
  | cs => (m.swapGreed, cs)

/-- Decimal digits, at most `limit` many. -/
def takeDigits (m : Modes) : (limit : Nat) → List Char → List Char × List Char
  | limit + 1, c :: cs =>
    if c.isDigit then
      let (digits, cs) := takeDigits m limit (m.skip cs)
      (c :: digits, cs)
    else ([], c :: cs)
  | _, cs => ([], cs)

/-- A number of at most `limit` digits with white space around it.  It is absent if there are no
digits. -/
def readNumber? (m : Modes) (limit : Nat) (cs : List Char) : Option (Option Nat × List Char) :=
  let (digits, cs) := takeDigits m limit (cs.dropWhile Text.isWhite)
  let value := digits.foldl (fun n d => 10 * n + (d.toNat - '0'.toNat)) 0
  let cs := m.skip (cs.dropWhile Text.isWhite)
  if digits.isEmpty then some (none, cs)
  else if value < 0x100000000 then some (some value, cs)
  else none

/-- The bounds of a repetition, behind the opening brace.  They have at most `limit` digits. -/
def readBounds? (m : Modes) (limit : Nat) (cs : List Char) :
    Option ((Nat × Option Nat) × List Char) := do
  let (min, cs) ← readNumber? m limit (m.skip cs)
  let min ← min
  match cs with
  | '\x7d' :: cs => return ((min, some min), cs)
  | ',' :: cs =>
    match m.skip cs with
    | '\x7d' :: cs => return ((min, none), cs)
    | cs =>
      let (max, cs) ← readNumber? m limit cs
      let max ← max
      match cs with
      | '\x7d' :: cs => if min ≤ max then return ((min, some max), cs) else none
      | _ => none
  | _ => none

/-! ### Groups -/

/-- What a parenthesis opens. -/
inductive Opening where
  /-- Flags for the rest of the group around it. -/
  | flags (changes : List (Flag × Bool))
  /-- A group, which may have a name or not be counted. -/
  | group (name : Option String) (counted : Bool) (changes : List (Flag × Bool))

/-- Flags up to a colon or a closing parenthesis.  Each is given once, and a dash in front resets
it.  There is at most one dash, and not at the end. -/
def readFlags? (on : Bool) (changes : List (Flag × Bool)) :
    List Char → Option (List (Flag × Bool) × List Char)
  | [] => none
  | '-' :: ':' :: _ | '-' :: ')' :: _ => none
  | c :: cs =>
    if c = ':' ∨ c = ')' then some (changes, c :: cs)
    else if c = '-' then if on then readFlags? false changes cs else none
    else
      match Flag.ofLetter? c with
      | some flag =>
        if changes.any (·.1 == flag) then none else readFlags? on (changes ++ [(flag, on)]) cs
      | none => none

/-- Letters that are newer than version 16 of the standard. -/
def newLetter : CharClass :=
  ⟨[(0x88F, 0x88F), (0xC5C, 0xC5C), (0xCDC, 0xCDC), (0xA7CE, 0xA7CF), (0xA7D2, 0xA7D2),
    (0xA7D4, 0xA7D4), (0xA7F1, 0xA7F1), (0x10940, 0x10959), (0x10EC5, 0x10EC7), (0x10EFA, 0x10EFB),
    (0x11B60, 0x11B67), (0x11DB0, 0x11DDB), (0x16EA0, 0x16EB8), (0x16EBB, 0x16ED3),
    (0x16FF2, 0x16FF6), (0x187F8, 0x187FF), (0x18D09, 0x18D1E), (0x18D80, 0x18DF2),
    (0x1E6C0, 0x1E6DE), (0x1E6E0, 0x1E6F5), (0x1E6FE, 0x1E6FF), (0x2B73A, 0x2B73F),
    (0x2CEA2, 0x2CEAD), (0x323B0, 0x33479)]⟩

/-- Digits and other numbers, of which some are newer than version 16 of the standard. -/
def nameDigit : CharClass :=
  (CharClass.ofCategories [.nd, .nl, .no]).union ⟨[(0x11DE0, 0x11DE9)]⟩

/-- A character of the name of a group. -/
def isNameChar (first : Bool) (c : Char) : Bool :=
  c == '_' || CharClass.alphabetic.accepts c || newLetter.accepts c ||
    (!first && (c == '.' || c == '[' || c == ']' || nameDigit.accepts c))

/-- The name of a group up to the closing angle bracket. -/
def readName? (cs : List Char) : Option (String × List Char) :=
  let name := cs.takeWhile (· != '>')
  match name, cs.drop name.length with
  | first :: further, _ :: cs =>
    if isNameChar true first && further.all (isNameChar false) then
      some (String.ofList name, cs)
    else none
  | _, _ => none

/-- What a parenthesis opens.  Flags without a group are not empty. -/
def readOpening? (m : Modes) (cs : List Char) : Option (Opening × List Char) :=
  match m.skip cs with
  | '?' :: 'P' :: '<' :: cs | '?' :: '<' :: cs => do
    let (name, cs) ← readName? cs
    return (.group (some name) true [], cs)
  | '?' :: cs => do
    match ← readFlags? true [] cs with
    | (changes, ':' :: cs) => return (.group none false changes, cs)
    | (changes, _ :: cs) => if changes.isEmpty then none else return (.flags changes, cs)
    | _ => none
  | cs => some (.group none true [], cs)

/-! ### The levels of a pattern -/

/-- A part that is no group: a class, an escape, a point, a mark or a character.  A class has at
most `limit` parts. -/
def readPart? (m : Modes) (limit : Nat) : List Char → Option (Part × List Char)
  | [] => none
  | '[' :: cs => do
    let (s, cs) ← readClass? m limit cs
    return (.ofClass m s.chars s.depth, cs)
  | '\\' :: cs => do
    let (escape, cs) ← readEscape? m cs
    return (← Part.ofEscape? m escape, cs)
  | '.' :: cs => (Part.dot? m).map (·, cs)
  | '^' :: cs => some (.start m, cs)
  | '$' :: cs => some (.stop m, cs)
  | c :: cs => (Part.ofEscape? m (.char c)).map (·, cs)

/-- The inside of a group up to its closing parenthesis or the end of the text.  It has at most
`limit` items that were not read yet, and `inner` reads the inside of groups. -/
def readBranches? (inner : Modes → List Char → Option (Part × List Char)) :
    (limit : Nat) → Modes → Draft → List Char → Option (Part × List Char)
  | 0, _, _, _ => none
  | limit + 1, m, d, cs =>
    match m.skip cs with
    | [] => some (d.close, [])
    | ')' :: cs => some (d.close, ')' :: cs)
    | '|' :: cs => readBranches? inner limit m d.nextBranch cs
    | '(' :: cs => do
      match ← readOpening? m cs with
      | (.flags changes, cs) =>
        readBranches? inner limit (changes.foldl Modes.set m) (d.push none) cs
      | (.group name counted changes, cs) =>
        match ← inner (changes.foldl Modes.set m) cs with
        | (part, ')' :: cs) => readBranches? inner limit m (d.push (part.group name counted)) cs
        | _ => none
    | '\x7b' :: cs => do
      let ((min, max), cs) ← readBounds? m limit cs
      let (short, cs) := takePreference m (m.skip cs)
      readBranches? inner limit m (← d.change? (·.repeatBetween min max short)) cs
    | c :: cs =>
      match boundsOf? c with
      | some (min, max) => do
        let (short, cs) := takePreference m cs
        readBranches? inner limit m (← d.change? (·.repeatBetween min max short)) cs
      | none => do
        let (part, cs) ← readPart? m limit (c :: cs)
        readBranches? inner limit m (d.push part) cs

/-- The inside of a group with at most `depth` items, in which parentheses are nested less than
`depth` deep.  What is nested too deep is refused. -/
def readGroup? : (depth : Nat) → Modes → List Char → Option (Part × List Char)
  | 0, _, _ => none
  | depth + 1, m, cs => do
    let (part, cs) ← readBranches? (readGroup? depth) (depth + 1) m {} cs
    if part.depth ≤ depthLimit then return (part, cs) else none

/-- The expression of a text. -/
def Expression.parse? (text : String) : Option Expression := do
  match ← readGroup? (text.toList.length + 1) {} text.toList with
  | (part, []) =>
    if part.names.eraseDups == part.names then return part.expression else none
  | _ => none

/-- The pattern of a text. -/
def parse? (text : String) : Option (Pattern CharClass) := do
  let expression ← Expression.parse? text
  if expression.fits then return expression.toPattern else none

end PolicyEditor.Pattern
