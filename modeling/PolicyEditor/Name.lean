import PolicyEditor.Text.Pieces

/-!
# Typed names

Objects and definitions are called `type:name`.  The first colon separates the two parts, so that
a name may hold further colons.

## Main definitions

* `splitTyped?` : the two parts of a typed name.
* `typeOf` : the type of a typed name.
* `qualify` : a name with its type in front.
-/

namespace PolicyEditor

/-- The text `s` starts with `start`. -/
def startsWith (start s : String) : Bool :=
  start.toList.isPrefixOf s.toList

/-- The type and the name of a typed name. -/
def splitTyped? (full : String) : Option (String × String) :=
  (Text.cutAt? ':' full.toList).map fun p => (String.ofList p.1, String.ofList p.2)

/-- The type of a typed name, empty if there is none. -/
def typeOf (full : String) : String :=
  match splitTyped? full with
  | some (type, _) => type
  | none => ""

/-- The name `name` with the type `type` in front, unless it has this type already. -/
def qualify (type name : String) : String :=
  if startsWith (type ++ ":") name then name else type ++ ":" ++ name

/-- A text without the copies of `start` at its front, at most `limit` of them. -/
def dropRepeated (start : List Char) : (limit : Nat) → List Char → List Char
  | 0, cs => cs
  | limit + 1, cs =>
    if start.isPrefixOf cs then dropRepeated start limit (cs.drop start.length) else cs

/-- A qualified name without any number of types `type` in front. -/
def bareName (type full : String) : String :=
  String.ofList (dropRepeated (type ++ ":").toList full.toList.length full.toList)

end PolicyEditor
