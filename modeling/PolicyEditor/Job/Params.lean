import PolicyEditor.Definition.Edit
import PolicyEditor.Job
import PolicyEditor.Source

/-!
# Parameters of jobs

Each method has its own record of parameters, which is decoded from the JSON value of a job.
Fields with a default may be absent, and optional fields may also be `null`.

## Main definitions

* `Phrase` : elements or protocols, given as one text or as several.
* `Params.CreateOwner`, `Params.RuleEdit` and so on : the records of the methods.
* `Job.decode` : the parameters of a job.
-/

namespace PolicyEditor

open Job

/-! ### Values of parameters -/

/-- Elements or protocols, given as one text such as `host:a, host:b`, or as several. -/
inductive Phrase where
  | one (text : String)
  | many (texts : List String)
deriving DecidableEq, Repr

namespace Phrase

/-- The elements of several texts, one after the other. -/
def unions : List String → Except PolicyError (List Element)
  | [] => .ok []
  | text :: texts => do
    let elements ← parseUnion text
    return elements ++ (← unions texts)

/-- The elements of a phrase. -/
def elements : Phrase → Except PolicyError (List Element)
  | one text => parseUnion text
  | many texts => unions texts

/-- The protocols of a phrase.  A single text is split at commas. -/
def values : Phrase → List String
  | one text => splitValues text
  | many texts => (texts.map normalizeValue).filter (!·.isEmpty)

end Phrase

/-- A list of strings. -/
def decodeStrings : Json → Decoded (List String) :=
  decodeList decodeString

/-- A phrase: a string or a list of strings. -/
def decodePhrase (j : Json) : Decoded Phrase :=
  match j with
  | .string s => .ok (.one s)
  | _ =>
    match decodeStrings j with
    | .ok texts => .ok (.many texts)
    | .error _ => .error (.noVariant "Text")

/-- A condition, given as a boolean, as a number that is not zero, or as `null`. -/
def decodeFlag : Json → Decoded Bool
  | .null => .ok false
  | .bool b => .ok b
  | .integer n => if Json.isInt64 n then .ok (n != 0) else .error (.noVariant "Flag")
  | _ => .error (.noVariant "Flag")

/-! ### Parameters of the methods -/

namespace Params

/-- The parameters of a job that runs other jobs. -/
structure MultiJob where
  jobs : List Job

/-- The parameters of a job that runs other jobs from a JSON value. -/
def MultiJob.ofJson (j : Json) : Decoded MultiJob := do
  let f ← Fields.ofJson "MultiJob" ["jobs"] j
  let jobs := f.read "jobs" (decodeList Job.ofJson)
  f.check [fault? jobs]
  let params : MultiJob :=
    { jobs := ← f.need "jobs" jobs }
  f.close
  return params

/-- The parameters of the methods that need a name alone. -/
structure ByName where
  name : String

/-- The parameters of the methods that need a name alone from a JSON value. -/
def ByName.ofJson (j : Json) : Decoded ByName := do
  let f ← Fields.ofJson "ByName" ["name"] j
  let name := f.read "name" decodeString
  f.check [fault? name]
  let params : ByName :=
    { name := ← f.need "name" name }
  f.close
  return params

/-- The parameters of `create_toplevel`. -/
structure CreateToplevel where
  definition : String
  file : Path
  okIfExists : Bool := false

/-- The parameters of `create_toplevel` from a JSON value. -/
def CreateToplevel.ofJson (j : Json) : Decoded CreateToplevel := do
  let f ← Fields.ofJson "CreateToplevel" ["definition", "file", "ok_if_exists"] j
  let definition := f.read "definition" decodeString
  let file := f.read "file" decodePath
  let okIfExists := f.read "ok_if_exists" decodeFlag
  f.check [fault? definition, fault? file, fault? okIfExists]
  let params : CreateToplevel :=
    { definition := ← f.need "definition" definition
      file := ← f.need "file" file
      okIfExists := (← okIfExists).getD false }
  f.close
  return params

/-- The parameters of `create_owner`. -/
structure CreateOwner where
  name : String
  admins : List String := []
  watchers : Option (List String) := none
  okIfExists : Bool := false

/-- The parameters of `create_owner` from a JSON value. -/
def CreateOwner.ofJson (j : Json) : Decoded CreateOwner := do
  let f ← Fields.ofJson "CreateOwner" ["name", "admins", "watchers", "ok_if_exists"] j
  let name := f.read "name" decodeString
  let admins := f.read "admins" decodeStrings
  let watchers := f.read "watchers" (decodeOption decodeStrings)
  let okIfExists := f.read "ok_if_exists" decodeFlag
  f.check [fault? name, fault? admins, fault? watchers, fault? okIfExists]
  let params : CreateOwner :=
    { name := ← f.need "name" name
      admins := (← admins).getD []
      watchers := (← watchers).getD none
      okIfExists := (← okIfExists).getD false }
  f.close
  return params

/-- The parameters of `modify_owner`. -/
structure ModifyOwner where
  name : String
  admins : Option (List String) := none
  watchers : Option (List String) := none

/-- The parameters of `modify_owner` from a JSON value. -/
def ModifyOwner.ofJson (j : Json) : Decoded ModifyOwner := do
  let f ← Fields.ofJson "ModifyOwner" ["name", "admins", "watchers"] j
  let name := f.read "name" decodeString
  let admins := f.read "admins" (decodeOption decodeStrings)
  let watchers := f.read "watchers" (decodeOption decodeStrings)
  f.check [fault? name, fault? admins, fault? watchers]
  let params : ModifyOwner :=
    { name := ← f.need "name" name
      admins := (← admins).getD none
      watchers := (← watchers).getD none }
  f.close
  return params

/-- The parameters of `create_host`. -/
structure CreateHost where
  network : String
  name : String
  ip : String
  mask : Option String := none
  owner : Option String := none

/-- The parameters of `create_host` from a JSON value. -/
def CreateHost.ofJson (j : Json) : Decoded CreateHost := do
  let f ← Fields.ofJson "CreateHost" ["network", "name", "ip", "mask", "owner"] j
  let network := f.read "network" decodeString
  let name := f.read "name" decodeString
  let ip := f.read "ip" decodeString
  let mask := f.read "mask" (decodeOption decodeString)
  let owner := f.read "owner" (decodeOption decodeString)
  f.check [fault? network, fault? name, fault? ip, fault? mask, fault? owner]
  let params : CreateHost :=
    { network := ← f.need "network" network
      name := ← f.need "name" name
      ip := ← f.need "ip" ip
      mask := (← mask).getD none
      owner := (← owner).getD none }
  f.close
  return params

/-- The parameters of `modify_host`. -/
structure ModifyHost where
  name : String
  owner : Option String := none

/-- The parameters of `modify_host` from a JSON value. -/
def ModifyHost.ofJson (j : Json) : Decoded ModifyHost := do
  let f ← Fields.ofJson "ModifyHost" ["name", "owner"] j
  let name := f.read "name" decodeString
  let owner := f.read "owner" (decodeOption decodeString)
  f.check [fault? name, fault? owner]
  let params : ModifyHost :=
    { name := ← f.need "name" name, owner := (← owner).getD none }
  f.close
  return params

/-- The parameters of `add_to_group`. -/
structure AddToGroup where
  name : String
  object : Phrase

/-- The parameters of `add_to_group` from a JSON value. -/
def AddToGroup.ofJson (j : Json) : Decoded AddToGroup := do
  let f ← Fields.ofJson "AddToGroup" ["name", "object"] j
  let name := f.read "name" decodeString
  let object := f.read "object" decodePhrase
  f.check [fault? name, fault? object]
  let params : AddToGroup :=
    { name := ← f.need "name" name, object := ← f.need "object" object }
  f.close
  return params

/-- The parameters of a new rule. -/
structure RuleParams where
  action : String
  src : Phrase
  dst : Phrase
  prt : Phrase

/-- The parameters of a new rule from a JSON value. -/
def RuleParams.ofJson (j : Json) : Decoded RuleParams := do
  let f ← Fields.ofJson "RuleParams" ["action", "src", "dst", "prt"] j
  let action := f.read "action" decodeString
  let src := f.read "src" decodePhrase
  let dst := f.read "dst" decodePhrase
  let prt := f.read "prt" decodePhrase
  f.check [fault? action, fault? src, fault? dst, fault? prt]
  let params : RuleParams :=
    { action := ← f.need "action" action
      src := ← f.need "src" src
      dst := ← f.need "dst" dst
      prt := ← f.need "prt" prt }
  f.close
  return params

/-- The parameters of `create_service`. -/
structure CreateService where
  name : String
  description : Option String := none
  user : Phrase
  rules : List RuleParams := []
  okIfExists : Bool := false

/-- The parameters of `create_service` from a JSON value. -/
def CreateService.ofJson (j : Json) : Decoded CreateService := do
  let f ← Fields.ofJson "CreateService" ["name", "description", "user", "rules", "ok_if_exists"] j
  let name := f.read "name" decodeString
  let description := f.read "description" (decodeOption decodeString)
  let user := f.read "user" decodePhrase
  let rules := f.read "rules" (decodeList RuleParams.ofJson)
  let okIfExists := f.read "ok_if_exists" decodeFlag
  f.check [fault? name, fault? description, fault? user, fault? rules, fault? okIfExists]
  let params : CreateService :=
    { name := ← f.need "name" name
      description := (← description).getD none
      user := ← f.need "user" user
      rules := (← rules).getD []
      okIfExists := (← okIfExists).getD false }
  f.close
  return params

/-- The parameters of the methods that change a rule. -/
structure RuleEdit where
  service : String
  ruleNum : Int
  src : Option Phrase := none
  dst : Option Phrase := none
  prt : Option Phrase := none

/-- The parameters of the methods that change a rule from a JSON value. -/
def RuleEdit.ofJson (j : Json) : Decoded RuleEdit := do
  let f ← Fields.ofJson "RuleEdit" ["service", "rule_num", "src", "dst", "prt"] j
  let service := f.read "service" decodeString
  let ruleNum := f.read "rule_num" decodeInt
  let src := f.read "src" (decodeOption decodePhrase)
  let dst := f.read "dst" (decodeOption decodePhrase)
  let prt := f.read "prt" (decodeOption decodePhrase)
  f.check [fault? service, fault? ruleNum, fault? src, fault? dst, fault? prt]
  let params : RuleEdit :=
    { service := ← f.need "service" service
      ruleNum := ← f.need "rule_num" ruleNum
      src := (← src).getD none
      dst := (← dst).getD none
      prt := (← prt).getD none }
  f.close
  return params

/-- The parameters of `delete_rule`. -/
structure DeleteRule where
  service : String
  ruleNum : Int

/-- The parameters of `delete_rule` from a JSON value. -/
def DeleteRule.ofJson (j : Json) : Decoded DeleteRule := do
  let f ← Fields.ofJson "DeleteRule" ["service", "rule_num"] j
  let service := f.read "service" decodeString
  let ruleNum := f.read "rule_num" decodeInt
  f.check [fault? service, fault? ruleNum]
  let params : DeleteRule :=
    { service := ← f.need "service" service, ruleNum := ← f.need "rule_num" ruleNum }
  f.close
  return params

/-- The parameters of the methods that change the users of a service. -/
structure UserEdit where
  service : String
  user : Phrase

/-- The parameters of the methods that change the users of a service from a JSON value. -/
def UserEdit.ofJson (j : Json) : Decoded UserEdit := do
  let f ← Fields.ofJson "UserEdit" ["service", "user"] j
  let service := f.read "service" decodeString
  let user := f.read "user" decodePhrase
  f.check [fault? service, fault? user]
  let params : UserEdit :=
    { service := ← f.need "service" service, user := ← f.need "user" user }
  f.close
  return params

/-- The parameters of the methods that change users by one text. -/
structure ServiceObject where
  name : String
  object : String

/-- The parameters of the methods that change users by one text from a JSON value. -/
def ServiceObject.ofJson (j : Json) : Decoded ServiceObject := do
  let f ← Fields.ofJson "ServiceObject" ["name", "object"] j
  let name := f.read "name" decodeString
  let object := f.read "object" decodeString
  f.check [fault? name, fault? object]
  let params : ServiceObject :=
    { name := ← f.need "name" name, object := ← f.need "object" object }
  f.close
  return params

/-- The parameters of the methods that change the server side of a rule. -/
structure ServiceRuleObject where
  name : String
  ruleNum : Int
  object : String

/-- The parameters of the methods that change the server side of a rule from a JSON value. -/
def ServiceRuleObject.ofJson (j : Json) : Decoded ServiceRuleObject := do
  let f ← Fields.ofJson "ServiceRuleObject" ["name", "rule_num", "object"] j
  let name := f.read "name" decodeString
  let ruleNum := f.read "rule_num" decodeInt
  let object := f.read "object" decodeString
  f.check [fault? name, fault? ruleNum, fault? object]
  let params : ServiceRuleObject :=
    { name := ← f.need "name" name
      ruleNum := ← f.need "rule_num" ruleNum
      object := ← f.need "object" object }
  f.close
  return params

/-- The parameters of the methods that change protocols by one text. -/
structure ServiceRuleProtocol where
  name : String
  ruleNum : Int
  prt : String

/-- The parameters of the methods that change protocols by one text from a JSON value. -/
def ServiceRuleProtocol.ofJson (j : Json) : Decoded ServiceRuleProtocol := do
  let f ← Fields.ofJson "ServiceRuleProtocol" ["name", "rule_num", "prt"] j
  let name := f.read "name" decodeString
  let ruleNum := f.read "rule_num" decodeInt
  let prt := f.read "prt" decodeString
  f.check [fault? name, fault? ruleNum, fault? prt]
  let params : ServiceRuleProtocol :=
    { name := ← f.need "name" name
      ruleNum := ← f.need "rule_num" ruleNum
      prt := ← f.need "prt" prt }
  f.close
  return params

/-- The parameters of `delete_service_rule`. -/
structure ServiceRuleNum where
  name : String
  ruleNum : Int

/-- The parameters of `delete_service_rule` from a JSON value. -/
def ServiceRuleNum.ofJson (j : Json) : Decoded ServiceRuleNum := do
  let f ← Fields.ofJson "ServiceRuleNum" ["name", "rule_num"] j
  let name := f.read "name" decodeString
  let ruleNum := f.read "rule_num" decodeInt
  f.check [fault? name, fault? ruleNum]
  let params : ServiceRuleNum :=
    { name := ← f.need "name" name, ruleNum := ← f.need "rule_num" ruleNum }
  f.close
  return params

/-- The parameters of `add_service_rule`. -/
structure ServiceRule where
  name : String
  action : String
  user : String
  objects : List String := []
  protocols : List String := []

/-- The parameters of `add_service_rule` from a JSON value. -/
def ServiceRule.ofJson (j : Json) : Decoded ServiceRule := do
  let f ← Fields.ofJson "ServiceRule" ["name", "action", "user", "objects", "protocols"] j
  let name := f.read "name" decodeString
  let action := f.read "action" decodeString
  let user := f.read "user" decodeString
  let objects := f.read "objects" decodeStrings
  let protocols := f.read "protocols" decodeStrings
  f.check [fault? name, fault? action, fault? user, fault? objects, fault? protocols]
  let params : ServiceRule :=
    { name := ← f.need "name" name
      action := ← f.need "action" action
      user := ← f.need "user" user
      objects := (← objects).getD []
      protocols := (← protocols).getD [] }
  f.close
  return params

/-- The parameters of `add_rule`. -/
structure AddRule where
  service : String
  rule : RuleParams

/-- The parameters of `add_rule` from a JSON value, which has to be an object.  The service is
looked at before the parts of the rule. -/
def AddRule.ofJson : Json → Decoded AddRule
  | j@(.object members) => do
    let f : Fields := ⟨"AddRule", ["service"], .members members⟩
    let service ← f.need "service" (f.read "service" decodeString)
    return { service, rule := ← RuleParams.ofJson j }
  | j => .error (.wrongType j "struct AddRule")

end Params

/-- The parameters of a job, decoded by `decode`. -/
def Job.decode {α : Type} (decode : Json → Decoded α) (job : Job) : Except PolicyError α :=
  match decode (job.params.getD (.object [])) with
  | .ok params => .ok params
  | .error mismatch => .error (.invalidArgument (.params job.method mismatch))

end PolicyEditor
