import PolicyEditor.Definition.Parser
import PolicyEditor.Error

/-!
# Policy sources

This file has the entry points for texts in the policy language: whole files, element lists and
single definitions.  A text that is refused gives an error with the line and column of its first
fault.

## Main definitions

* `parseFile` : the forest of a policy file.
* `parseUnion` : the elements of a list such as `host:a, network:b & !host:c`.
* `parseDefinition` : the definition of a text that holds exactly one.
-/

namespace PolicyEditor

/-- The forest of a policy file, which messages call `file`. -/
def parseFile (source file : String) : Except PolicyError Forest :=
  (Forest.parse source.toList).mapError (·.locate file source.toList)

/-- The elements of a list such as `host:a, network:b & !host:c`. -/
def parseUnion (text : String) : Except PolicyError (List Element) :=
  (Element.parseList text.toList).mapError (·.locate "union" text.toList)

/-- The definition of a text that holds exactly one.  It is detached from the text and is rendered
in canonical form. -/
def parseDefinition (text : String) : Except PolicyError Definition := do
  let forest ← parseFile text "definition"
  match forest.definitions with
  | [d] => return d.detach
  | ds => throw (.invalidArgument (.definitionCount ds.length))

end PolicyEditor
