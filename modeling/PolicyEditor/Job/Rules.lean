import PolicyEditor.Definition.Edit
import PolicyEditor.Job.Definitions

/-!
# Jobs on services and their rules

These methods create services, change their users and add, change and delete their rules.  Rules
are numbered from one.  The older methods take one text of objects or protocols and find out
themselves which side of a rule holds the servers.

Elements are removed one after the other: if one of them is missing, those before it are gone.

## Main definitions

* `Job.createService`, `Job.addRule`, `Job.addToRule`, `Job.addToUser` and so on : the methods.
* `Job.addServiceUser`, `Job.addServiceRule` and so on : the older methods.
-/

namespace PolicyEditor.Job

open Repository

/-! ### Parts of rules -/

/-- The action of a keyword. -/
def parseAction (text : String) : Except PolicyError Action :=
  match Action.ofKeyword? text with
  | some action => .ok action
  | none => .error (.invalidArgument (.action text))

/-- The index of the rule with a number, which counts from one. -/
def ruleIndex? (count : Nat) (number : Int) : Option Nat :=
  if 1 ≤ number ∧ number ≤ count then some (number.toNat - 1) else none

/-- The failure that a service has no rule with a number. -/
def missingRule (service : String) (count : Nat) (number : Int) : PolicyError :=
  .notFound (.rule number service count)

/-- Edit the rule with a number of the service `service`. -/
def modifyRule (service : String) (number : Int) (edit : Edit Rule Unit) : Edit Repository Unit :=
  modifyNamed .service service do
    let count := (← get).rules.length
    match ruleIndex? count number with
    | none => throw (missingRule service count number)
    | some i =>
      Edit.focus Service.rules (fun s rules => { s with rules })
        (Edit.atIndex (missingRule service count number) edit i)

/-- Remove elements from a union, one after the other. -/
def removeElements (context : Context) : List Element → Edit Union Unit
  | [], u => .ok () u
  | e :: es, u =>
    match removeMember? e u.elements with
    | some elements => removeElements context es { u with elements }
    | none => .error (.notFound (.element e u.role context)) u

/-- Remove values from the protocols of a rule, one after the other. -/
def removeProtocols (context : Context) : List String → Edit (List Value) Unit
  | [], values => .ok () values
  | text :: texts, values =>
    match removeValue? text values with
    | some values => removeProtocols context texts values
    | none => .error (.notFound (.protocol text context)) values

/-- Edit the protocols of a rule, which have to be a value list. -/
def editProtocols (context : Context) (edit : Edit (List Value) Unit) : Edit Rule Unit := fun r =>
  match r.prt.value with
  | .values values =>
    let put := fun values => { r with prt := { r.prt with value := .values values } }
    match edit values with
    | .ok () values => .ok () (put values)
    | .error e values => .error e (put values)
  | _ => .error (.invalidArgument (.protocolsNotList context)) r

/-- Add protocols to a rule. -/
def addProtocols (context : Context) (texts : List String) : Edit Rule Unit :=
  editProtocols context (modify (· ++ texts.map fun text => { content := text }))

/-- Edit the sources of a rule. -/
def editSrc (edit : Edit Union Unit) : Edit Rule Unit :=
  Edit.focus Rule.src (fun r src => { r with src }) edit

/-- Edit the destinations of a rule. -/
def editDst (edit : Edit Union Unit) : Edit Rule Unit :=
  Edit.focus Rule.dst (fun r dst => { r with dst }) edit

/-- Edit the users of a service. -/
def editUser (edit : Edit Union Unit) : Edit Service Unit :=
  Edit.focus Service.user (fun s user => { s with user }) edit

/-- Run an edit with a value if there is one. -/
def editIfSome {σ α : Type} (value : Option α) (edit : α → Edit σ Unit) : Edit σ Unit :=
  match value with
  | some a => edit a
  | none => pure ()

/-- The elements of a phrase that may be absent. -/
def elementsOf? (phrase : Option Phrase) : Except PolicyError (Option (List Element)) :=
  match phrase with
  | some phrase => phrase.elements.map some
  | none => .ok none

/-! ### Services -/

/-- The file of a service, by the first letter of its name. -/
def servicePath (bare : String) : Path :=
  match bare.toList with
  | c :: _ => if c.isAlphanum then ⟨"rule/" ++ String.ofList [c.toUpper]⟩ else ⟨"rule/other"⟩
  | [] => ⟨"rule/other"⟩

/-- The rule of some parameters, with its elements in order. -/
def buildRule (p : Params.RuleParams) : Except PolicyError Rule := do
  let action ← parseAction p.action
  let src ← p.src.elements
  let dst ← p.dst.elements
  return (Rule.ofParts action src dst p.prt.values).normalize

/-- The rules with further ones at their places. -/
def buildRules (rules : List Rule) : List Params.RuleParams → Except PolicyError (List Rule)
  | [] => .ok rules
  | p :: ps => do buildRules (insertRule rules (← buildRule p)) ps

/-- Create a service. -/
def createService (p : Params.CreateService) : Edit Repository Unit := do
  let name := qualify "service" p.name
  let user ← Edit.ofExcept p.user.elements
  let rules ← Edit.ofExcept (buildRules [] p.rules)
  let service : Service :=
    { description := p.description, user := .ofElements .user user, rules }
  let d : Definition := { name, body := Body.service service }
  createDefinition (servicePath (bareName "service" name)) d p.okIfExists

/-! ### Rules -/

/-- Insert a rule into a service. -/
def insertRuleInto (rule : Rule) : Edit Service Unit :=
  modify fun s => { s with rules := insertRule s.rules rule }

/-- Delete the rule with a number of the service `service`. -/
def deleteRuleOf (service : String) (number : Int) : Edit Repository Unit :=
  modifyNamed .service service do
    let s ← get
    match ruleIndex? s.rules.length number with
    | none => throw (missingRule service s.rules.length number)
    | some i => set { s with rules := s.rules.eraseIdx i }

/-- Add a rule. -/
def addRule (p : Params.AddRule) : Edit Repository Unit := do
  let rule ← Edit.ofExcept (buildRule p.rule)
  modifyNamed .service (qualify "service" p.service) (insertRuleInto rule)

/-- Delete a rule. -/
def deleteRule (p : Params.DeleteRule) : Edit Repository Unit :=
  deleteRuleOf (qualify "service" p.service) p.ruleNum

/-- Add elements and protocols to a rule. -/
def addToRule (p : Params.RuleEdit) : Edit Repository Unit := do
  let service := qualify "service" p.service
  let src ← Edit.ofExcept (elementsOf? p.src)
  let dst ← Edit.ofExcept (elementsOf? p.dst)
  modifyRule service p.ruleNum do
    editIfSome p.prt fun prt => addProtocols (.rule p.ruleNum service) prt.values
    editIfSome src fun elements => editSrc (modify (·.add elements))
    editIfSome dst fun elements => editDst (modify (·.add elements))

/-- Remove elements and protocols from a rule. -/
def removeFromRule (p : Params.RuleEdit) : Edit Repository Unit := do
  let service := qualify "service" p.service
  let context := Context.rule p.ruleNum service
  let src ← Edit.ofExcept (elementsOf? p.src)
  let dst ← Edit.ofExcept (elementsOf? p.dst)
  modifyRule service p.ruleNum do
    editIfSome src fun elements => editSrc (removeElements context elements)
    editIfSome dst fun elements => editDst (removeElements context elements)
    editIfSome p.prt fun prt => editProtocols context (removeProtocols context prt.values)

/-! ### Users -/

/-- Add elements to the users of a service. -/
def addToUser (p : Params.UserEdit) : Edit Repository Unit := do
  let elements ← Edit.ofExcept p.user.elements
  modifyNamed .service (qualify "service" p.service) (editUser (modify (·.add elements)))

/-- Remove elements from the users of a service. -/
def removeFromUser (p : Params.UserEdit) : Edit Repository Unit := do
  let service := qualify "service" p.service
  let elements ← Edit.ofExcept p.user.elements
  modifyNamed .service service (editUser (removeElements (.service service) elements))

/-! ### Older methods -/

/-- Add the objects of a text to the users of a service. -/
def addServiceUser (p : Params.ServiceObject) : Edit Repository Unit := do
  let elements ← Edit.ofExcept (parseUnion p.object)
  modifyNamed .service (qualify "service" p.name) (editUser (modify (·.add elements)))

/-- Remove the objects of a text from the users of a service. -/
def deleteServiceUser (p : Params.ServiceObject) : Edit Repository Unit := do
  let service := qualify "service" p.name
  let elements ← Edit.ofExcept (parseUnion p.object)
  modifyNamed .service service (editUser (removeElements (.service service) elements))

/-- Add the protocols of a text to a rule. -/
def addServiceProtocol (p : Params.ServiceRuleProtocol) : Edit Repository Unit :=
  let service := qualify "service" p.name
  modifyRule service p.ruleNum (addProtocols (.rule p.ruleNum service) (splitValues p.prt))

/-- Remove the protocols of a text from a rule. -/
def deleteServiceProtocol (p : Params.ServiceRuleProtocol) : Edit Repository Unit :=
  let service := qualify "service" p.name
  let context := Context.rule p.ruleNum service
  modifyRule service p.ruleNum
    (editProtocols context (removeProtocols context (splitValues p.prt)))

/-- The union with new elements if it is a server side, which does not hold the users alone. -/
def addServers (elements : List Element) (u : Union) : Union :=
  if u.isUserOnly then u else u.add elements

/-- Add the objects of a text to the server side of a rule. -/
def addServiceServer (p : Params.ServiceRuleObject) : Edit Repository Unit := do
  let service := qualify "service" p.name
  let elements ← Edit.ofExcept (parseUnion p.object)
  modifyRule service p.ruleNum <| modify fun r =>
    { r with src := addServers elements r.src, dst := addServers elements r.dst }

/-- The union without the first occurrence of an element, and whether it has one. -/
def dropElement (e : Element) (u : Union) : Union × Bool :=
  match removeMember? e u.elements with
  | some elements => ({ u with elements }, true)
  | none => (u, false)

/-- The rule without the first occurrences of elements on both sides, and whether it has any. -/
def dropServers : List Element → Rule → Rule × Bool
  | [], r => (r, false)
  | e :: es, r =>
    let (src, inSrc) := dropElement e r.src
    let (dst, inDst) := dropElement e r.dst
    let (r, found) := dropServers es { r with src, dst }
    (r, inSrc || inDst || found)

/-- Remove the objects of a text from both sides of a rule. -/
def deleteServiceServer (p : Params.ServiceRuleObject) : Edit Repository Unit := do
  let service := qualify "service" p.name
  let elements ← Edit.ofExcept (parseUnion p.object)
  modifyRule service p.ruleNum do
    let (r, found) := dropServers elements (← get)
    set r
    if !found then throw (.notFound (.server p.object (.rule p.ruleNum service)))

/-- The protocols of several texts. -/
def protocolsOf (texts : List String) : List String :=
  texts.flatMap splitValues

/-- Add a rule between the users of a service and some objects. -/
def addServiceRule (p : Params.ServiceRule) : Edit Repository Unit := do
  let action ← Edit.ofExcept (parseAction p.action)
  let objects ← Edit.ofExcept (Phrase.unions p.objects)
  let prt := protocolsOf p.protocols
  let rule ← Edit.ofExcept <|
    if p.user = "src" then .ok (Rule.ofParts action [.user] objects prt)
    else if p.user = "dst" then .ok (Rule.ofParts action objects [.user] prt)
    else .error (.invalidArgument (.userSide p.user))
  modifyNamed .service (qualify "service" p.name) (insertRuleInto rule.normalize)

/-- Delete a rule. -/
def deleteServiceRule (p : Params.ServiceRuleNum) : Edit Repository Unit :=
  deleteRuleOf (qualify "service" p.name) p.ruleNum

end PolicyEditor.Job
