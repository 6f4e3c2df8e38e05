import PolicyEditor.Job.Hosts
import PolicyEditor.Job.Rules

/-!
# Applying jobs

A job is applied to a repository by its method.  The jobs within a job are applied one after the
other; the first failure ends them all.

## Main definitions

* `Job.applyMethod` : a job that holds no other jobs.
* `Job.apply` : any job.
-/

namespace PolicyEditor

mutual

/-- The number of arrays and objects around each other in a JSON value. -/
def Json.depth : Json → Nat
  | .array items => Json.depths items + 1
  | .object members => Json.memberDepths members + 1
  | _ => 0

/-- The greatest depth of some values. -/
def Json.depths : List Json → Nat
  | [] => 0
  | j :: js => max j.depth (Json.depths js)

/-- The greatest depth of some members. -/
def Json.memberDepths : List (String × Json) → Nat
  | [] => 0
  | (_, j) :: members => max j.depth (Json.memberDepths members)

end

namespace Job

/-- Decode the parameters of a job and run its method on them. -/
def run {α : Type} (job : Job) (decode : Json → Decoded α) (method : α → Edit Repository Unit) :
    Edit Repository Unit := do
  method (← Edit.ofExcept (job.decode decode))

/-- Apply a job of the given method, with `multiJob` for the jobs within it. -/
def applyMethod (job : Job) (multiJob : List Job → Edit Repository Unit) :
    Method → Edit Repository Unit
  | .multiJob => job.run Params.MultiJob.ofJson fun p => multiJob p.jobs
  | .createToplevel => job.run Params.CreateToplevel.ofJson createToplevel
  | .deleteToplevel => job.run Params.ByName.ofJson deleteToplevel
  | .createOwner => job.run Params.CreateOwner.ofJson createOwner
  | .modifyOwner => job.run Params.ModifyOwner.ofJson modifyOwner
  | .deleteOwner => job.run Params.ByName.ofJson (deleteTyped "owner")
  | .createHost => job.run Params.CreateHost.ofJson createHost
  | .modifyHost => job.run Params.ModifyHost.ofJson modifyHost
  | .addToGroup => job.run Params.AddToGroup.ofJson addToGroup
  | .createService => job.run Params.CreateService.ofJson createService
  | .deleteService => job.run Params.ByName.ofJson (deleteTyped "service")
  | .addToRule => job.run Params.RuleEdit.ofJson addToRule
  | .removeFromRule => job.run Params.RuleEdit.ofJson removeFromRule
  | .addRule => job.run Params.AddRule.ofJson addRule
  | .deleteRule => job.run Params.DeleteRule.ofJson deleteRule
  | .addToUser => job.run Params.UserEdit.ofJson addToUser
  | .removeFromUser => job.run Params.UserEdit.ofJson removeFromUser
  | .addServiceUser => job.run Params.ServiceObject.ofJson addServiceUser
  | .deleteServiceUser => job.run Params.ServiceObject.ofJson deleteServiceUser
  | .addServiceProtocol => job.run Params.ServiceRuleProtocol.ofJson addServiceProtocol
  | .deleteServiceProtocol => job.run Params.ServiceRuleProtocol.ofJson deleteServiceProtocol
  | .addServiceServer => job.run Params.ServiceRuleObject.ofJson addServiceServer
  | .deleteServiceServer => job.run Params.ServiceRuleObject.ofJson deleteServiceServer
  | .addServiceRule => job.run Params.ServiceRule.ofJson addServiceRule
  | .deleteServiceRule => job.run Params.ServiceRuleNum.ofJson deleteServiceRule

/-- Run an edit for each of some values, from the first to the last. -/
def applyAll (apply : Job → Edit Repository Unit) : List Job → Edit Repository Unit
  | [] => pure ()
  | job :: jobs => do
    apply job
    applyAll apply jobs

/-- Apply a job whose parameters are nested less than `depth` deep. -/
def applyNested : (depth : Nat) → Job → Edit Repository Unit
  | 0, _ => pure ()
  | depth + 1, job =>
    match Method.ofName? job.method with
    | none => throw (.invalidArgument (.unknownMethod job.method))
    | some method => applyMethod job (applyAll (applyNested depth)) method

/-- The depth of the parameters of a job. -/
def depth (job : Job) : Nat :=
  (job.params.getD .null).depth

/-- Apply a job. -/
def apply (job : Job) : Edit Repository Unit :=
  applyNested (job.depth + 1) job

end Job

end PolicyEditor
