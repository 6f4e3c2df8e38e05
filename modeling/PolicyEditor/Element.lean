import PolicyEditor.Name
import PolicyEditor.Text.Lowercase

/-!
# Elements of unions

An element refers to objects of the policy: by name, by an automatic group that selects them, or
by an intersection or complement of other elements.

## Main definitions

* `Element` : a reference to objects.
* `Element.render` : the canonical text of an element.
* `Element.key` : the key by which lists of elements are sorted.
-/

namespace PolicyEditor

/-- A reference to objects of the policy. -/
inductive Element where
  /-- The keyword `user`, which stands for the users of a service. -/
  | user
  /-- An object `type:name`. -/
  | named (type name : String)
  /-- An automatic group `type:[...]` with an optional selector `.[selector]`. -/
  | auto (type : String) (managed : Bool) (ip : Option String) (elements : List Element)
      (selector : Option String)
  /-- An intersection `a & b`. -/
  | intersection (parts : List Element)
  /-- A complement `!a`. -/
  | complement (inner : Element)
deriving Repr, Inhabited

namespace Element

/-! ### Canonical text -/

/-- The text in front of the elements of an automatic group. -/
def autoOpening (type : String) (managed : Bool) (ip : Option String) : List Char :=
  type.toList ++ ":[".toList ++ (if managed then "managed & ".toList else []) ++
    match ip with
    | some ip => "ip = ".toList ++ ip.toList ++ " & ".toList
    | none => []

/-- The text behind the elements of an automatic group. -/
def autoClosing (selector : Option String) : List Char :=
  ']' ::
    match selector with
    | some selector => ".[".toList ++ selector.toList ++ "]".toList
    | none => []

mutual

/-- The canonical text of an element. -/
def chars : Element → List Char
  | user => "user".toList
  | named type name => type.toList ++ ':' :: name.toList
  | auto type managed ip elements selector =>
    autoOpening type managed ip ++ commaChars elements ++ autoClosing selector
  | intersection parts => conjunctChars parts
  | complement inner => '!' :: inner.chars

/-- The canonical text of elements separated by commas. -/
def commaChars : List Element → List Char
  | [] => []
  | [e] => e.chars
  | e :: es => e.chars ++ ", ".toList ++ commaChars es

/-- The canonical text of the parts of an intersection. -/
def conjunctChars : List Element → List Char
  | [] => []
  | e :: es => e.chars ++ furtherChars es

/-- The canonical text of the parts of an intersection behind the first one. -/
def furtherChars : List Element → List Char
  | [] => []
  | complement inner :: es => " &! ".toList ++ inner.chars ++ furtherChars es
  | e :: es => " & ".toList ++ e.chars ++ furtherChars es

end

/-- The canonical text of an element. -/
def render (e : Element) : String :=
  String.ofList e.chars

/-- The element is the keyword `user`. -/
def isUser : Element → Bool
  | user => true
  | _ => false

/-! ### Order -/

/-- The lower-case parts of a typed name, by which names are ordered. -/
def nameKey (full : String) : String × String :=
  match splitTyped? full with
  | some (type, name) => (Text.lowercase type, Text.lowercase name)
  | none => (Text.lowercase full, "")

mutual

/-- The key of an element: its type, then its name, in lower case.  An intersection has the key of
its first part, and a complement that of the element inside. -/
def key : Element → String × String
  | user => ("user", "")
  | named type name => (Text.lowercase type, Text.lowercase name)
  | e@(auto ..) => nameKey e.render
  | intersection parts => firstKey parts
  | complement inner => inner.key

/-- The key of the first element of a list. -/
def firstKey : List Element → String × String
  | [] => ("", "")
  | e :: _ => e.key

end

/-- The order of keys: by type, then by name. -/
def keyLe (a b : String × String) : Bool :=
  a.1 < b.1 || (a.1 == b.1 && a.2 ≤ b.2)

end Element

end PolicyEditor
