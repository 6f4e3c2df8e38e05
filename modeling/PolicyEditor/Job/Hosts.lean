import PolicyEditor.Definition.Edit
import PolicyEditor.Job.Address
import PolicyEditor.Job.Params
import PolicyEditor.Repository

/-!
# Jobs on hosts

A host is an attribute of the network that it belongs to.  A new host goes into the network that is
named or, on demand, into the networks with the computed address.  A host name `id:user@domain.net`
names its network behind the last dot.

## Main definitions

* `Job.splitIdHost` : the host and the network of a host name.
* `Job.createHost`, `Job.modifyHost` : the methods.
-/

namespace PolicyEditor.Job

/-- The host name and, for a name `id:host.network`, the full name of the network. -/
def splitIdHost (name : String) : String × Option String :=
  if startsWith "id:" name then
    match Text.cutAtLast? '.' name.toList with
    | some (host, network) => (String.ofList host, some (qualify "network" (String.ofList network)))
    | none => (name, none)
  else (name, none)

/-- The first value of the first attribute called `name`. -/
def valueOf? (name : String) (attributes : List Attribute) : Option String :=
  (attributes.find? (·.name == name)).bind Attribute.firstValue?

/-- The attributes have a host entry called `host`. -/
def hasHost (host : String) (attributes : List Attribute) : Bool :=
  attributes.any fun a => a.isHost && a.name == host

/-- A definition is a network with the given attributes. -/
def isNetwork (p : List Attribute → Bool) (d : Definition) : Bool :=
  match d.body with
  | .network block => p block.attributes
  | _ => false

/-! ### New hosts -/

/-- The networks that get a new host. -/
inductive Target where
  /-- The network of a full name. -/
  | named (network : String)
  /-- The networks with an address, of a full name if one is given. -/
  | addressed (address : String) (network : Option String)
deriving DecidableEq, Repr

namespace Target

/-- A definition is a network that gets the new host. -/
def selects : Target → Definition → Bool
  | named network, d => isNetwork (fun _ => d.name == network) d
  | addressed address network, d =>
    isNetwork (fun attributes =>
      (match network with
        | some name => d.name == name
        | none => true) && valueOf? "ip" attributes == some address) d

/-- What is missing if no network is selected. -/
def missing : Target → Missing
  | named network => .definition network
  | addressed address _ => .networkWithAddress address

end Target

/-- The networks that a new host goes into.  The name `[auto]` asks for the network that its
address belongs to. -/
def hostTarget (p : Params.CreateHost) : Except PolicyError Target :=
  if p.network = "[auto]" then do
    let address ← networkAddress p.ip p.mask
    return .addressed address (splitIdHost p.name).2
  else .ok (.named (qualify "network" p.network))

/-- A new host entry.  An owner that the network has anyway is left out. -/
def newHost (host ip : String) (owner : Option String) (attributes : List Attribute) : Attribute :=
  let owner := owner.filter fun o => !o.isEmpty && valueOf? "owner" attributes != some o
  .ofBlock host (.ofValues "ip" [ip] :: owner.toList.map fun o => .ofValues "owner" [o])

/-- Add a host to a network. -/
def addHost (host ip : String) (owner : Option String) : Edit Definition Unit := do
  let d ← get
  match d.body with
  | .network block =>
    if hasHost host block.attributes then throw (.alreadyExists (.host host d.name))
    else
      let entry := newHost host ip owner block.attributes
      let block := { block with attributes := sortHosts (block.attributes ++ [entry]) }
      set { d with body := Body.network block }
  | _ => return

/-- Create a host in all networks that it goes into. -/
def createHost (p : Params.CreateHost) : Edit Repository Unit := do
  let host := "host:" ++ (splitIdHost p.name).1
  let target ← Edit.ofExcept (hostTarget p)
  let touched ← Repository.modifyMatching target.selects (addHost host p.ip p.owner)
  if touched = 0 then throw (.notFound target.missing)

/-! ### Owners of hosts -/

/-- The attributes of a host with another owner, or without one. -/
def changeOwner (owner : Option String) (attributes : List Attribute) : List Attribute :=
  match owner with
  | some owner => setValues "owner" [{ content := owner }] attributes
  | none => removeAttribute "owner" attributes

/-- The attributes of a network with the owner of its first host entry `host` changed. -/
def changeHost (host : String) (owner : Option String) :
    List Attribute → Except PolicyError (List Attribute)
  | [] => .ok []
  | a :: as =>
    if a.isHost && a.name == host then
      match a.value with
      | .block attributes => .ok ({ a with value := .block (changeOwner owner attributes) } :: as)
      | _ => .error (.invalidArgument (.hostWithoutBlock host))
    else do return a :: (← changeHost host owner as)

/-- A definition is a network with the host, and the network is the given one if there is one. -/
def holdsHost (host : String) (network : Option String) (d : Definition) : Bool :=
  isNetwork (fun attributes =>
    (match network with
      | some name => d.name == name
      | none => true) && hasHost host attributes) d

/-- Change the owner of a host in one network. -/
def modifyHostIn (host : String) (owner : Option String) : Edit Definition Unit := do
  let d ← get
  match d.body with
  | .network block =>
    let attributes ← Edit.ofExcept (changeHost host owner block.attributes)
    set { d with body := Body.network { block with attributes } }
  | _ => return

/-- Change the owner of a host in all networks that hold it. -/
def modifyHost (p : Params.ModifyHost) : Edit Repository Unit := do
  let (name, network) := splitIdHost p.name
  let host := "host:" ++ name
  let owner := p.owner.filter (!·.isEmpty)
  let touched ← Repository.modifyMatching (holdsHost host network) (modifyHostIn host owner)
  if touched = 0 then throw (.notFound (.definition host))

end PolicyEditor.Job
