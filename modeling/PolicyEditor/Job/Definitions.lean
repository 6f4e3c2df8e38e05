import PolicyEditor.Job.Params
import PolicyEditor.Repository

/-!
# Jobs on definitions

These methods create and delete whole definitions, edit owners and add elements to groups.  A new
definition is put in canonical order.

## Main definitions

* `Repository.createDefinition` : the common part of all methods that create.
* `Job.createToplevel`, `Job.createOwner`, `Job.modifyOwner`, `Job.addToGroup` and so on : the
  methods.
-/

namespace PolicyEditor

/-- Insert a definition in canonical order into the file `path`.  With `okIfExists` nothing is done
if the name is taken. -/
def Repository.createDefinition (path : Path) (d : Definition) (okIfExists : Bool) :
    Edit Repository Unit := do
  let repo ← get
  if okIfExists && repo.contains d.name then return
  create path d.normalize

namespace Job

open Repository

/-! ### Definitions of any kind -/

/-- Create a definition that is given as a text. -/
def createToplevel (p : Params.CreateToplevel) : Edit Repository Unit := do
  let d ← Edit.ofExcept (parseDefinition p.definition)
  createDefinition p.file d p.okIfExists

/-- Delete the definition of a full name. -/
def deleteToplevel (p : Params.ByName) : Edit Repository Unit :=
  discard (delete p.name)

/-- Delete the definition of a name of the given type. -/
def deleteTyped (type : String) (p : Params.ByName) : Edit Repository Unit :=
  discard (delete (qualify type p.name))

/-! ### Owners -/

/-- The file of an owner.  Owners that stand for tokens have a file of their own. -/
def ownerFile (bare : String) : Path :=
  if startsWith "DA_TOKEN_" bare then ⟨"owner-token"⟩ else ⟨"owner"⟩

/-- The attributes of a new owner. -/
def ownerAttributes (p : Params.CreateOwner) : List Attribute :=
  let admins := setSortedValues "admins" p.admins []
  match p.watchers with
  | some watchers => setSortedValues "watchers" watchers admins
  | none => admins

/-- Create an owner. -/
def createOwner (p : Params.CreateOwner) : Edit Repository Unit :=
  let name := qualify "owner" p.name
  let owner : Definition := { name, body := .struct { attributes := ownerAttributes p } }
  createDefinition (ownerFile (bareName "owner" name)) owner p.okIfExists

/-- The attributes with a list changed: an absent list keeps the attribute, an empty one removes
it, and any other replaces its values. -/
def changeList (name : String) (list : Option (List String)) (attributes : List Attribute) :
    List Attribute :=
  match list with
  | none => attributes
  | some [] => removeAttribute name attributes
  | some texts => setSortedValues name texts attributes

/-- The block of an owner with its lists changed. -/
def changeOwnerLists (p : Params.ModifyOwner) (block : Block) : Block :=
  let attributes := changeList "admins" p.admins block.attributes
  { block with attributes := changeList "watchers" p.watchers attributes }

/-- Change the lists of an owner. -/
def modifyOwner (p : Params.ModifyOwner) : Edit Repository Unit :=
  modifyNamed .struct (qualify "owner" p.name) (modify (changeOwnerLists p))

/-! ### Groups -/

/-- Add elements to a group. -/
def addToGroup (p : Params.AddToGroup) : Edit Repository Unit := do
  let elements ← Edit.ofExcept p.object.elements
  modifyNamed .group (qualify "group" p.name) <| modify fun g =>
    { g with elements := addMembers elements g.elements }

end Job

end PolicyEditor
