import PolicyEditor.Job.Apply
import PolicyEditor.Proofs.Grammar.Lexing
import PolicyEditor.Proofs.Repository.Files

/-!
# What the methods of jobs do

A method first reads its parameters, which may fail and changes nothing.  Then it performs a single
edit of the repository: it creates or deletes a definition, or edits an owner, a group, a service or
some networks.  A job of the method `multi_job` performs the edits of its parts one after the other.

So what holds of each of these edits, and is kept when edits follow each other, holds of all jobs.

## Main definitions

* `Job.Creates` : the path of the file that a job, or a job within it, creates a definition in.
* `Job.EditsRule`, `Job.EditsService`, `Job.EditsHosts` : the edits of rules, services and networks.
* `Job.Performs` : the edit of the repository that a method performs.
* `Job.Part` : a job that is applied within a job.

## Main results

* `Job.performs_apply` : a job of any other method than `multi_job` performs one edit.
* `Job.apply_induction` : what holds of every edit that is performed holds of a job.
-/

namespace PolicyEditor.Job

open Repository

/-! ### Names of methods -/

theorem Method.mem_table {name : String} {method : Method} (h : ofName? name = some method) :
    (name, method) ∈ table := by
  obtain ⟨entry, hfind, rfl⟩ := Option.map_eq_some_iff.1 h
  obtain rfl : entry.1 = name := by simpa using List.find?_some hfind
  exact List.mem_of_find?_eq_some hfind

/-- The path of the file that a job, or a job within it, creates a definition in. -/
inductive Creates : Job → Path → Prop
  | toplevel {job : Job} {p : Params.CreateToplevel}
      (hmethod : Method.ofName? job.method = some .createToplevel)
      (hparams : job.decode Params.CreateToplevel.ofJson = .ok p) : Creates job p.file
  | owner {job : Job} {p : Params.CreateOwner}
      (hmethod : Method.ofName? job.method = some .createOwner)
      (hparams : job.decode Params.CreateOwner.ofJson = .ok p) :
      Creates job (ownerFile (bareName "owner" (qualify "owner" p.name)))
  | service {job : Job} {p : Params.CreateService}
      (hmethod : Method.ofName? job.method = some .createService)
      (hparams : job.decode Params.CreateService.ofJson = .ok p) :
      Creates job (servicePath (bareName "service" (qualify "service" p.name)))
  | part {job sub : Job} {p : Params.MultiJob} {path : Path}
      (hmethod : Method.ofName? job.method = some .multiJob)
      (hparams : job.decode Params.MultiJob.ofJson = .ok p) (hsub : sub ∈ p.jobs)
      (hcreates : Creates sub path) : Creates job path

/-! ### Edits of rules -/

/-- Edit the rule with a number of a service, which messages call `service`. -/
def editRule (service : String) (number : Int) (edit : Edit Rule Unit) : Edit Service Unit := do
  let count := (← get).rules.length
  match ruleIndex? count number with
  | none => throw (missingRule service count number)
  | some i =>
    Edit.focus Service.rules (fun s rules => { s with rules })
      (Edit.atIndex (missingRule service count number) edit i)

/-- Delete the rule with a number of a service, which messages call `service`. -/
def dropRule (service : String) (number : Int) : Edit Service Unit := do
  let s ← get
  match ruleIndex? s.rules.length number with
  | none => throw (missingRule service s.rules.length number)
  | some i => set { s with rules := s.rules.eraseIdx i }

/-- Add elements and protocols to a rule as far as they are given. -/
def addParts (context : Context) (prt : Option Phrase) (src dst : Option (List Element)) :
    Edit Rule Unit := do
  editIfSome prt fun prt => addProtocols context prt.values
  editIfSome src fun elements => editSrc (modify (·.add elements))
  editIfSome dst fun elements => editDst (modify (·.add elements))

/-- Remove elements and protocols from a rule as far as they are given. -/
def removeParts (context : Context) (prt : Option Phrase) (src dst : Option (List Element)) :
    Edit Rule Unit := do
  editIfSome src fun elements => editSrc (removeElements context elements)
  editIfSome dst fun elements => editDst (removeElements context elements)
  editIfSome prt fun prt => editProtocols context (removeProtocols context prt.values)

/-- Remove elements from both sides of a rule, which has to hold one of them. -/
def removeServers (missing : PolicyError) (elements : List Element) : Edit Rule Unit := do
  let (r, found) := dropServers elements (← get)
  set r
  if !found then throw missing

/-- What a job does to the rule with a number of a service. -/
inductive EditsRule (job : Job) : (service : String) → (number : Int) → Edit Rule Unit → Prop
  | addParts {service : String} {number : Int} {prt : Option Phrase}
      {src dst : Option (List Element)} :
      EditsRule job service number (addParts (.rule number service) prt src dst)
  | removeParts {p : Params.RuleEdit} {src dst : Option (List Element)}
      (hmethod : job.method = "remove_from_rule")
      (hparams : job.decode Params.RuleEdit.ofJson = .ok p) :
      EditsRule job (qualify "service" p.service) p.ruleNum
        (removeParts (.rule p.ruleNum (qualify "service" p.service)) p.prt src dst)
  | addProtocols {service : String} {number : Int} {texts : List String} :
      EditsRule job service number (addProtocols (.rule number service) texts)
  | removeProtocols {p : Params.ServiceRuleProtocol}
      (hmethod : job.method = "delete_service_protocol")
      (hparams : job.decode Params.ServiceRuleProtocol.ofJson = .ok p) :
      EditsRule job (qualify "service" p.name) p.ruleNum
        (editProtocols (.rule p.ruleNum (qualify "service" p.name))
          (removeProtocols (.rule p.ruleNum (qualify "service" p.name)) (splitValues p.prt)))
  | addServers {service : String} {number : Int} {elements : List Element} :
      EditsRule job service number (modify fun r =>
        { r with src := addServers elements r.src, dst := addServers elements r.dst })
  | removeServers {service : String} {number : Int} {missing : PolicyError}
      {elements : List Element} : EditsRule job service number (removeServers missing elements)

/-! ### Edits of services and networks -/

/-- What a job does to a service. -/
inductive EditsService (job : Job) : (service : String) → Edit Service Unit → Prop
  | addUsers {service : String} {elements : List Element} :
      EditsService job service (editUser (modify (·.add elements)))
  | removeUsers {p : Params.UserEdit} {elements : List Element}
      (hmethod : job.method = "remove_from_user")
      (hparams : job.decode Params.UserEdit.ofJson = .ok p) :
      EditsService job (qualify "service" p.service)
        (editUser (removeElements (.service (qualify "service" p.service)) elements))
  | removeObjects {p : Params.ServiceObject} {elements : List Element}
      (hmethod : job.method = "delete_service_user")
      (hparams : job.decode Params.ServiceObject.ofJson = .ok p) :
      EditsService job (qualify "service" p.name)
        (editUser (removeElements (.service (qualify "service" p.name)) elements))
  | insertRule {service : String} {r : Rule} :
      EditsService job service (insertRuleInto r.normalize)
  | dropRule {service : String} {number : Int} : EditsService job service (dropRule service number)
  | rule {service : String} {number : Int} {edit : Edit Rule Unit}
      (h : job.EditsRule service number edit) :
      EditsService job service (editRule service number edit)

/-- The networks that a job on hosts edits, and what it does to each of them. -/
inductive EditsHosts (job : Job) : (Definition → Bool) → Edit Definition Unit → Prop
  | create {p : Params.CreateHost} {target : Target} (hmethod : job.method = "create_host")
      (hparams : job.decode Params.CreateHost.ofJson = .ok p)
      (htarget : hostTarget p = .ok target) :
      EditsHosts job target.selects (addHost ("host:" ++ (splitIdHost p.name).1) p.ip p.owner)
  | modify {p : Params.ModifyHost} (hmethod : job.method = "modify_host")
      (hparams : job.decode Params.ModifyHost.ofJson = .ok p) :
      EditsHosts job (holdsHost ("host:" ++ (splitIdHost p.name).1) (splitIdHost p.name).2)
        (modifyHostIn ("host:" ++ (splitIdHost p.name).1) (p.owner.filter (!·.isEmpty)))

/-! ### Edits of the repository -/

/-- An edit of all definitions for which `p` holds, of which there has to be one. -/
def modifyAny (p : Definition → Bool) (edit : Edit Definition Unit) (missing : PolicyError) :
    Edit Repository Unit := do
  if (← modifyMatching p edit) = 0 then throw missing

/-- The edit of the repository that a job performs by its method. -/
inductive Performs (job : Job) : Edit Repository Unit → Prop
  | fail {e : PolicyError} : Performs job (throw e)
  | create {path : Path} {d : Definition} {okIfExists : Bool} (hpath : job.Creates path) :
      Performs job (createDefinition path d okIfExists)
  | delete {name : String} : Performs job (discard (Repository.delete name))
  | owner {name : String} {change : Block → Block} :
      Performs job (modifyNamed .struct name (modify change))
  | group {name : String} {elements : List Element} :
      Performs job (modifyNamed .group name (modify fun g =>
        { g with elements := addMembers elements g.elements }))
  | service {name : String} {edit : Edit Service Unit} (h : job.EditsService name edit) :
      Performs job (modifyNamed .service name edit)
  | hosts {p : Definition → Bool} {edit : Edit Definition Unit} {missing : PolicyError}
      (h : job.EditsHosts p edit) : Performs job (modifyAny p edit missing)

variable {job : Job}

theorem performs_bind {α : Type} {c : Except PolicyError α} {f : α → Edit Repository Unit}
    (h : ∀ a, c = .ok a → job.Performs (f a)) : job.Performs (Edit.ofExcept c >>= f) := by
  cases c with
  | error e => exact .fail
  | ok a => exact h a rfl

theorem buildRule_eq_normalize {p : Params.RuleParams} {r : Rule} (h : buildRule p = .ok r) :
    ∃ r' : Rule, r = r'.normalize := by
  rw [buildRule] at h
  obtain ⟨action, -, h⟩ := Except.bind_eq_ok.1 h
  obtain ⟨src, -, h⟩ := Except.bind_eq_ok.1 h
  obtain ⟨dst, -, h⟩ := Except.bind_eq_ok.1 h
  cases h
  exact ⟨_, rfl⟩

theorem performs_rule {service : String} {number : Int} {edit : Edit Rule Unit}
    (h : job.EditsRule service number edit) : job.Performs (modifyRule service number edit) :=
  .service (.rule h)

/-- Every method but `multi_job` performs one edit. -/
theorem performs_applyMethod {method : Method} (multiJob : List Job → Edit Repository Unit)
    (hmethod : Method.ofName? job.method = some method) (hmulti : method ≠ .multiJob) :
    job.Performs (applyMethod job multiJob method) := by
  have hname := Method.mem_table hmethod
  cases method <;> refine performs_bind fun p hparams => ?_
  case multiJob => exact absurd rfl hmulti
  case createToplevel => exact performs_bind fun d _ => .create (.toplevel hmethod hparams)
  case createOwner => exact .create (.owner hmethod hparams)
  case createService =>
    exact performs_bind fun _ _ => performs_bind fun _ _ => .create (.service hmethod hparams)
  case deleteToplevel | deleteOwner | deleteService => exact .delete
  case modifyOwner => exact .owner
  case addToGroup => exact performs_bind fun _ _ => .group
  case createHost =>
    exact performs_bind fun _ htarget =>
      .hosts (.create (by simpa [Method.table] using hname) hparams htarget)
  case modifyHost => exact .hosts (.modify (by simpa [Method.table] using hname) hparams)
  case addToRule =>
    exact performs_bind fun _ _ => performs_bind fun _ _ => performs_rule .addParts
  case removeFromRule =>
    exact performs_bind fun _ _ => performs_bind fun _ _ =>
      performs_rule (.removeParts (by simpa [Method.table] using hname) hparams)
  case addRule =>
    refine performs_bind fun r hrule => ?_
    obtain ⟨r', rfl⟩ := buildRule_eq_normalize hrule
    exact .service .insertRule
  case addServiceRule =>
    exact performs_bind fun _ _ => performs_bind fun _ _ => performs_bind fun _ _ =>
      .service .insertRule
  case deleteRule | deleteServiceRule => exact .service .dropRule
  case addToUser | addServiceUser => exact performs_bind fun _ _ => .service .addUsers
  case removeFromUser =>
    exact performs_bind fun _ _ =>
      .service (.removeUsers (by simpa [Method.table] using hname) hparams)
  case deleteServiceUser =>
    exact performs_bind fun _ _ =>
      .service (.removeObjects (by simpa [Method.table] using hname) hparams)
  case addServiceProtocol => exact performs_rule .addProtocols
  case deleteServiceProtocol =>
    exact performs_rule (.removeProtocols (by simpa [Method.table] using hname) hparams)
  case addServiceServer => exact performs_bind fun _ _ => performs_rule .addServers
  case deleteServiceServer => exact performs_bind fun _ _ => performs_rule .removeServers

/-! ### Whole jobs -/

theorem apply_of_ofName? {method : Method} (h : Method.ofName? job.method = some method) :
    job.apply = applyMethod job (applyAll (applyNested job.depth)) method := by
  rw [apply, applyNested, h]

/-- A job is its method on its parameters. -/
theorem apply_of_decode {α : Type} {method : Method} {decode : Json → Decoded α}
    {run : α → Edit Repository Unit} {p : α} (hname : Method.ofName? job.method = some method)
    (hmethod : ∀ job multiJob, applyMethod job multiJob method = job.run decode run)
    (hparams : job.decode decode = .ok p) : job.apply = run p := by
  rw [apply_of_ofName? hname, hmethod, Job.run, hparams, Edit.ofExcept_ok_bind]

/-- The job `part` is applied within a job, or is this job itself. -/
inductive Part (part : Job) : Job → Prop
  | self : Part part part
  | within {job sub : Job} {p : Params.MultiJob}
      (hmethod : Method.ofName? job.method = some .multiJob)
      (hparams : job.decode Params.MultiJob.ofJson = .ok p) (hsub : sub ∈ p.jobs)
      (h : Part part sub) : Part part job

theorem Part.creates {part : Job} {path : Path} (h : Part part job) (hcreates : part.Creates path) :
    job.Creates path := by
  induction h with
  | self => exact hcreates
  | within hmethod hparams hsub _ ih => exact .part hmethod hparams hsub ih

section Induction

variable {Q : Edit Repository Unit → Prop}

theorem applyAll_induction {apply : Job → Edit Repository Unit} {jobs : List Job}
    (hdone : Q (pure ())) (hseq : ∀ {x y}, Q x → Q y → Q (do x; y))
    (h : ∀ job ∈ jobs, Q (apply job)) : Q (applyAll apply jobs) := by
  induction jobs with
  | nil => exact hdone
  | cons job jobs ih =>
    rw [List.forall_mem_cons] at h
    exact hseq h.1 (ih h.2)

theorem applyNested_induction {depth : Nat} (hdone : Q (pure ()))
    (hseq : ∀ {x y}, Q x → Q y → Q (do x; y))
    (hperforms : ∀ {part x}, Part part job → part.Performs x → Q x) :
    Q (applyNested depth job) := by
  induction depth generalizing job with
  | zero => exact hdone
  | succ depth ih =>
    rw [applyNested]
    split
    · exact hperforms .self .fail
    · next method hmethod =>
      by_cases hmulti : method = .multiJob
      · subst hmulti
        rw [applyMethod, Job.run]
        cases hparams : job.decode Params.MultiJob.ofJson with
        | error e => exact hperforms .self .fail
        | ok p =>
          exact applyAll_induction hdone hseq fun sub hsub =>
            ih fun hpart => hperforms (.within hmethod hparams hsub hpart)
      · exact hperforms .self (performs_applyMethod _ hmethod hmulti)

/-- What holds of every edit that a job or a part of it performs, and is kept when edits follow each
other, holds of the job. -/
theorem apply_induction (hdone : Q (pure ())) (hseq : ∀ {x y}, Q x → Q y → Q (do x; y))
    (hperforms : ∀ {part x}, Part part job → part.Performs x → Q x) : Q job.apply :=
  applyNested_induction hdone hseq hperforms

end Induction

/-- A job of any other method than `multi_job` performs one edit. -/
theorem performs_apply (h : job.method ≠ "multi_job") : job.Performs job.apply := by
  rw [apply, applyNested]
  split
  · exact .fail
  · next method hmethod =>
    refine performs_applyMethod _ hmethod ?_
    rintro rfl
    exact h (by simpa [Method.table] using Method.mem_table hmethod)

end PolicyEditor.Job
