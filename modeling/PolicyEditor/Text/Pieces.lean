/-!
# Pieces of a text

This file cuts a text at single characters: at all of them, at the first or the last one, and at
the ends of lines.

## Main definitions

* `Text.fields` : the pieces between the occurrences of a character.
* `Text.cutAt?`, `Text.cutAtLast?` : the parts before and after one occurrence.
* `Text.firstLine`, `Text.lastLine?` : the ends of a text, line-wise.
-/

namespace PolicyEditor.Text

/-- The pieces of a text between the occurrences of `sep`. -/
def fields (sep : Char) : List Char → List (List Char)
  | [] => [[]]
  | c :: cs =>
    if c = sep then [] :: fields sep cs
    else
      match fields sep cs with
      | [] => [[c]]
      | f :: fs => (c :: f) :: fs

/-- The parts of a text before and after the first `sep`. -/
def cutAt? (sep : Char) : List Char → Option (List Char × List Char)
  | [] => none
  | c :: cs =>
    if c = sep then some ([], cs) else (cutAt? sep cs).map fun p => (c :: p.1, p.2)

/-- The parts of a text before and after the last `sep`. -/
def cutAtLast? (sep : Char) : List Char → Option (List Char × List Char)
  | [] => none
  | c :: cs =>
    match cutAtLast? sep cs with
    | some (a, b) => some (c :: a, b)
    | none => if c = sep then some ([], cs) else none

/-- A text without one `last` at its end. -/
def dropLastChar (last : Char) : List Char → List Char
  | [] => []
  | [c] => if c = last then [] else [c]
  | c :: cs => c :: dropLastChar last cs

/-- The first line of a text, without the line feed that ends it. -/
def firstLine (cs : List Char) : List Char :=
  cs.takeWhile (· != '\n')

/-- A text from the first occurrence of `c` on. -/
def from? (c : Char) (cs : List Char) : Option (List Char) :=
  match cs.dropWhile (· != c) with
  | [] => none
  | rest => some rest

/-- A text after its last line feed, if it has one. -/
def lastLine? (cs : List Char) : Option (List Char) :=
  (cutAtLast? '\n' cs).map (·.2)

end PolicyEditor.Text
