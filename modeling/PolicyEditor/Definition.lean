import PolicyEditor.Element
import PolicyEditor.Layout

/-!
# Definitions of a policy

A policy file is a forest of definitions.  A definition has a typed name and a body, whose shape
depends on the type.  Every node carries its content and its layout; a node with the empty layout
has no text in any file and is rendered in canonical form.

## Main definitions

* `Item` : an entry of a comma list; `Value` and `Member` are its two uses.
* `Attribute`, `AttributeValue` : the attributes of a block, which may hold blocks themselves.
* `Union`, `Rule`, `Service`, `Block`, `Group` : the parts of definitions.
* `Body`, `Definition`, `Forest` : definitions and files.
* `Definition.detach` : the definition without any layout.
-/

namespace PolicyEditor

/-! ### Entries of comma lists -/

/-- An entry of a comma list with its layout. -/
structure Item (α : Type) where
  content : α
  layout : Layout := {}
deriving DecidableEq, Repr, Inhabited

/-- The entry without its layout. -/
def Item.detach {α : Type} (item : Item α) : Item α :=
  { item with layout := {} }

/-- An entry of a value list, such as `10.1.1.0/24` or `tcp 80`. -/
abbrev Value := Item String

/-- An entry of an element list. -/
abbrev Member := Item Element

/-! ### Attributes -/

mutual

/-- An attribute of a block. -/
structure Attribute where
  name : String
  value : AttributeValue
  layout : Layout := {}
  frame : Option Frame := none

/-- What an attribute holds. -/
inductive AttributeValue where
  /-- An attribute `name;`. -/
  | flag
  /-- An attribute `name = v1, v2;`. -/
  | values (values : List Value)
  /-- An attribute that holds a block of further attributes. -/
  | block (attributes : List Attribute)

end

instance : Inhabited AttributeValue := ⟨.flag⟩

instance : Inhabited Attribute := ⟨⟨"", .flag, {}, none⟩⟩

namespace Attribute

/-- A new attribute with a list of values. -/
def ofValues (name : String) (values : List String) : Attribute where
  name := name
  value := .values (values.map fun text => { content := text })

/-- A new attribute with a block. -/
def ofBlock (name : String) (attributes : List Attribute) : Attribute where
  name := name
  value := .block attributes

/-- The values of an attribute that holds a value list. -/
def values? (a : Attribute) : Option (List Value) :=
  match a.value with
  | .values values => some values
  | _ => none

/-- The attributes of an attribute that holds a block. -/
def block? (a : Attribute) : Option (List Attribute) :=
  match a.value with
  | .block attributes => some attributes
  | _ => none

/-- The first value of an attribute that holds a value list. -/
def firstValue? (a : Attribute) : Option String :=
  match a.value with
  | .values (v :: _) => some v.content
  | _ => none

/-- The attribute is a host entry of a network. -/
def isHost (a : Attribute) : Bool :=
  startsWith "host:" a.name

end Attribute

mutual

/-- The attribute without any layout. -/
def Attribute.detach : Attribute → Attribute
  | ⟨name, value, _, _⟩ => { name, value := value.detach }

/-- The value without any layout. -/
def AttributeValue.detach : AttributeValue → AttributeValue
  | .flag => .flag
  | .values values => .values (values.map Item.detach)
  | .block attributes => .block (detachAttributes attributes)

/-- The attributes without any layout. -/
def detachAttributes : List Attribute → List Attribute
  | [] => []
  | a :: as => a.detach :: detachAttributes as

end

theorem detachAttributes_eq_map (as : List Attribute) :
    detachAttributes as = as.map Attribute.detach := by
  induction as with
  | nil => rfl
  | cons a as ih => rw [detachAttributes, ih, List.map_cons]

/-! ### Unions, rules and bodies -/

/-- The part that a union plays in a service. -/
inductive Role where
  | user
  | src
  | dst
deriving DecidableEq, Repr

/-- The keyword that introduces a union. -/
def Role.keyword : Role → String
  | user => "user"
  | src => "src"
  | dst => "dst"

/-- An element list of a service: its users or one side of a rule. -/
structure Union where
  role : Role
  /-- The rules are to be expanded for each user, written `user = foreach ...;`. -/
  foreach : Bool := false
  elements : List Member
  layout : Layout := {}
  frame : Option Frame := none

namespace Union

/-- A new union of the given elements. -/
def ofElements (role : Role) (elements : List Element) : Union where
  role := role
  elements := elements.map fun e => { content := e }

/-- The union consists of the keyword `user` alone. -/
def isUserOnly (u : Union) : Bool :=
  match u.elements with
  | [e] => e.content.isUser
  | _ => false

/-- The union without any layout. -/
def detach (u : Union) : Union :=
  { u with elements := u.elements.map Item.detach, layout := {}, frame := none }

end Union

/-- What a rule does with the traffic that it matches. -/
inductive Action where
  | permit
  | deny
deriving DecidableEq, Repr

namespace Action

/-- The keyword of an action. -/
def keyword : Action → String
  | permit => "permit"
  | deny => "deny"

/-- The action of a keyword. -/
def ofKeyword? (word : String) : Option Action :=
  if word = "permit" then some permit else if word = "deny" then some deny else none

end Action

/-- A rule of a service. -/
structure Rule where
  action : Action
  src : Union
  dst : Union
  prt : Attribute
  log : Option Attribute := none
  layout : Layout := {}
  frame : Option Frame := none

namespace Rule

/-- A new rule. -/
def ofParts (action : Action) (src dst : List Element) (prt : List String) : Rule where
  action := action
  src := .ofElements .src src
  dst := .ofElements .dst dst
  prt := .ofValues "prt" prt

/-- The rule denies traffic. -/
def isDeny (r : Rule) : Bool :=
  r.action == .deny

/-- The rule without any layout. -/
def detach (r : Rule) : Rule where
  action := r.action
  src := r.src.detach
  dst := r.dst.detach
  prt := r.prt.detach
  log := r.log.map Attribute.detach

end Rule

/-- The body of a structured definition or a network. -/
structure Block where
  description : Option String := none
  attributes : List Attribute := []

/-- The body of an element list definition. -/
structure Group where
  description : Option String := none
  elements : List Member := []

/-- The body of a service. -/
structure Service where
  description : Option String := none
  attributes : List Attribute := []
  user : Union
  rules : List Rule := []

/-- The body of a definition. -/
inductive Body where
  /-- A structured definition, such as an owner or a router. -/
  | struct (block : Block)
  /-- A network with its attributes and hosts. -/
  | network (block : Block)
  /-- A list of elements: a group or a path restriction. -/
  | group (group : Group)
  /-- A list of values: a protocol or a protocol group. -/
  | protocol (values : List Value)
  | service (service : Service)

/-- The kinds of definitions. -/
inductive Kind where
  | struct
  | network
  | group
  | protocol
  | service
deriving DecidableEq, Repr

/-- The kind as messages call it. -/
def Kind.describe : Kind → String
  | struct => "structured definition"
  | network => "network"
  | group => "element list"
  | protocol => "protocol definition"
  | service => "service"

/-- The block without any layout. -/
def Block.detach (b : Block) : Block :=
  { b with attributes := detachAttributes b.attributes }

/-- The group without any layout. -/
def Group.detach (g : Group) : Group :=
  { g with elements := g.elements.map Item.detach }

/-- The service without any layout. -/
def Service.detach (s : Service) : Service where
  description := s.description
  attributes := detachAttributes s.attributes
  user := s.user.detach
  rules := s.rules.map Rule.detach

namespace Body

/-- The kind of a body. -/
def kind : Body → Kind
  | struct _ => .struct
  | network _ => .network
  | group _ => .group
  | protocol _ => .protocol
  | service _ => .service

/-- The body without any layout. -/
def detach : Body → Body
  | struct block => struct block.detach
  | network block => network block.detach
  | group g => group g.detach
  | protocol values => protocol (values.map Item.detach)
  | service s => service s.detach

end Body

/-! ### Definitions and files -/

/-- A definition at the top level of a policy file. -/
structure Definition where
  /-- The full name `type:name`. -/
  name : String
  body : Body
  layout : Layout := {}
  frame : Option Frame := none

namespace Definition

/-- The type of a definition, which is the part of its name before the first colon. -/
def type (d : Definition) : String :=
  typeOf d.name

/-- The kind of a definition. -/
def kind (d : Definition) : Kind :=
  d.body.kind

/-- The definition without any layout, so that it is rendered in canonical form in any file. -/
def detach (d : Definition) : Definition where
  name := d.name
  body := d.body.detach

end Definition

/-- The definitions of a policy file. -/
structure Forest where
  definitions : List Definition := []
  /-- The frame of a parsed file; its gap holds the comments at the start of the file. -/
  frame : Option Frame := none

namespace Forest

/-- The first definition of the given name. -/
def find? (f : Forest) (name : String) : Option Definition :=
  f.definitions.find? (·.name == name)

/-- The index of the first definition of the given name. -/
def position? (f : Forest) (name : String) : Option Nat :=
  f.definitions.findIdx? (·.name == name)

end Forest

end PolicyEditor
