import PolicyEditor.Definition.Order
import PolicyEditor.Text.Blank

/-!
# Edits of lists

An edit keeps the layout of the nodes around it.  A node that is changed loses its span and is
rendered anew in its old place.

## Main definitions

* `setValues`, `removeAttribute` : edits of the attributes of a block.
* `removeMember?`, `removeValue?` : remove one entry of a list.
* `addMembers` : add elements to a list and sort it.
* `splitValues` : the values of a comma separated text.
-/

namespace PolicyEditor

/-! ### Attributes -/

/-- The attribute with a new list of values.  A value list keeps its frame, so that only its values
change. -/
def Attribute.withValues (a : Attribute) (values : List Value) : Attribute :=
  match a.value with
  | .values _ => { a with value := .values values }
  | _ => { name := a.name, value := .values values, layout := a.layout.replaced }

/-- The attributes with the first one called `name` set to a list of values; it is appended if
there is none. -/
def setValues (name : String) (values : List Value) : List Attribute → List Attribute
  | [] => [{ name, value := .values values }]
  | a :: as =>
    if a.name = name then a.withValues values :: as else a :: setValues name values as

/-- The attributes with `name` set to the given texts in alphabetical order. -/
def setSortedValues (name : String) (texts : List String) (attributes : List Attribute) :
    List Attribute :=
  setValues name (sortValues (texts.map fun text => { content := text })) attributes

/-- The attributes without those called `name`. -/
def removeAttribute (name : String) (attributes : List Attribute) : List Attribute :=
  attributes.filter (·.name != name)

/-! ### Members and values -/

/-- The list without its first entry for which `p` holds, if it has one. -/
def removeFirst? {α : Type} (p : α → Bool) : List α → Option (List α)
  | [] => none
  | a :: as => if p a then some as else (removeFirst? p as).map (a :: ·)

theorem sublist_of_removeFirst? {α : Type} {p : α → Bool} {as bs : List α}
    (h : removeFirst? p as = some bs) : bs.Sublist as := by
  induction as generalizing bs with
  | nil => cases h
  | cons a as ih =>
    rw [removeFirst?] at h
    split at h
    · cases h
      exact List.sublist_cons_self a as
    · obtain ⟨cs, hcs, rfl⟩ := Option.map_eq_some_iff.1 h
      exact (ih hcs).cons_cons a

/-- The list without its first member that is rendered like `element`. -/
def removeMember? (element : Element) (elements : List Member) : Option (List Member) :=
  removeFirst? (fun e => e.content.chars == element.chars) elements

/-- The text with its white space collapsed, by which values are compared. -/
def normalizeValue (text : String) : String :=
  String.ofList (Text.collapse text.toList)

/-- The list without its first value that equals `text` up to white space. -/
def removeValue? (text : String) (values : List Value) : Option (List Value) :=
  removeFirst? (fun v => normalizeValue v.content == normalizeValue text) values

/-- The list with new elements, put in order. -/
def addMembers (new : List Element) (elements : List Member) : List Member :=
  sortMembers (elements ++ new.map fun e => { content := e })

/-- The union with new elements, put in order. -/
def Union.add (new : List Element) (u : Union) : Union :=
  { u with elements := addMembers new u.elements }

/-- The values of a comma separated text such as `tcp 80, udp 53`. -/
def splitValues (text : String) : List String :=
  ((Text.fields ',' text.toList).map fun field => String.ofList (Text.collapse field)).filter
    (!·.isEmpty)

end PolicyEditor
