import PolicyEditor.Proofs.Job.Hosts

/-!
# What jobs do to a repository

A job consists of steps of the repository, also if it fails.  It creates definitions only in the
files that it names, so all files stay at their paths and new files come only there.

## Main definitions

* `Repository.Within` : a repository below a root whose files are at certain paths.

## Main results

* `Job.leads_apply` : applying a job, with success or not, is a sequence of steps.
* `Job.keeps_apply` : applying a job adds no file but at the paths that it creates definitions in.
-/

namespace PolicyEditor

namespace Repository

/-- A repository below a root whose files are at certain paths. -/
structure Within (root : Path) (paths : Path → Prop) (repo : Repository) : Prop where
  root : repo.root = root
  files : ∀ f ∈ repo.files, paths f.path

variable {root : Path} {paths : Path → Prop} {repo repo' : Repository}

/-- A step adds no file but at the paths that it may create definitions in. -/
theorem Step.within (h : repo.Step paths repo') (hrepo : repo.Within root paths) :
    repo'.Within root paths := by
  cases h with
  | create hpath hcreate =>
    obtain ⟨-, -, rfl⟩ := create_eq_ok.1 hcreate
    exact ⟨hrepo.root, forall_insertAt hpath hrepo.files hrepo.files⟩
  | delete hdelete =>
    obtain ⟨front, f, back, hfiles, -, rfl⟩ := delete_ok hdelete
    have hpaths := hrepo.files
    rw [hfiles, List.forall_mem_append, List.forall_mem_cons] at hpaths
    refine ⟨hrepo.root, ?_⟩
    rw [List.forall_mem_append, List.forall_mem_cons]
    exact hpaths
  | rework hfiles =>
    refine ⟨hrepo.root, fun f hf => ?_⟩
    have hpath := List.mem_map_of_mem (f := PolicyFile.path) hf
    rw [PolicyFile.paths_of_reworks hfiles] at hpath
    obtain ⟨g, hg, hpath⟩ := List.mem_map.1 hpath
    exact hpath ▸ hrepo.files g hg

theorem Steps.within (h : Steps paths repo repo') (hrepo : repo.Within root paths) :
    repo'.Within root paths := by
  induction h with
  | refl => exact hrepo
  | tail _ hstep ih => exact hstep.within ih

end Repository

namespace Job

open Edit Repository

/-! ### Parts of jobs -/

theorem keeps_run {α : Type} {P : Repository → Prop} {job : Job} {decode : Json → Decoded α}
    {method : α → Edit Repository Unit}
    (h : ∀ p, job.decode decode = .ok p → Keeps P (method p)) :
    Keeps P (job.run decode method) := by
  rw [Job.run]
  cases hparams : job.decode decode with
  | error e =>
    intro repo _ repo' _ hrun
    cases hrun
  | ok p => exact h p hparams

theorem keeps_modifyAny {P : Repository → Prop} {p : Definition → Bool}
    {edit : Edit Definition Unit} {e : PolicyError} (h : Keeps P (modifyMatching p edit)) :
    Keeps P (modifyAny p edit e) := by
  refine h.bind fun touched => ?_
  split
  · exact keeps_throw _
  · exact keeps_pure _

theorem keeps_applyAll {P : Repository → Prop} {apply : Job → Edit Repository Unit}
    {jobs : List Job} (h : ∀ job ∈ jobs, Keeps P (apply job)) : Keeps P (applyAll apply jobs) :=
  applyAll_induction (keeps_pure _) (fun hx hy => hx.bind fun _ => hy) h

theorem leads_modifyAny {r : Repository → Repository → Prop} [Std.Refl r] [IsTrans Repository r]
    {p : Definition → Bool} {edit : Edit Definition Unit} {e : PolicyError}
    (h : Leads r (modifyMatching p edit)) : Leads r (modifyAny p edit e) := by
  refine h.bind fun touched => ?_
  split
  · exact leads_throw _
  · exact leads_pure _

/-- A new host changes the body of a network. -/
theorem leads_addHost (host ip : String) (owner : Option String) :
    Leads Definition.Namesakes (addHost host ip owner) := by
  intro d
  rcases addHost_cases host ip owner d with ⟨block, -, -, h⟩ | ⟨block, -, -, h⟩ | ⟨-, h⟩ <;>
    rw [Edit.final, h] <;> rfl

/-- Another owner of a host changes the body of a network. -/
theorem leads_modifyHostIn (host : String) (owner : Option String) :
    Leads Definition.Namesakes (modifyHostIn host owner) := by
  intro d
  rcases modifyHostIn_cases host owner d with
    ⟨block, a, -, -, -, h⟩ | ⟨block, as, -, -, h⟩ | ⟨-, h⟩ <;> rw [Edit.final, h] <;> rfl

theorem EditsHosts.leads {job : Job} {p : Definition → Bool} {edit : Edit Definition Unit}
    (h : job.EditsHosts p edit) : Leads Definition.Namesakes edit := by
  cases h with
  | create => exact leads_addHost _ _ _
  | modify => exact leads_modifyHostIn _ _

/-! ### Whole jobs -/

variable {creates : Path → Prop}

/-- What a method performs consists of steps. -/
theorem leads_performs {job : Job} {x : Edit Repository Unit}
    (hpaths : ∀ path, job.Creates path → path.isInside = true → creates path)
    (h : job.Performs x) : Leads (Steps creates) x := by
  cases h with
  | fail => exact leads_throw _
  | create hpath => exact leads_createDefinition _ _ (hpaths _ hpath)
  | delete => exact (leads_delete _).discard
  | owner | group | service => exact leads_modifyNamed _ _ _
  | hosts h => exact leads_modifyAny (leads_modifyMatching h.leads)

/-- A job consists of steps, also if it fails.  It creates definitions in the files that it names
and that lie inside the policy. -/
theorem leads_apply {job : Job}
    (hpaths : ∀ path, job.Creates path → path.isInside = true → creates path) :
    Leads (Steps creates) job.apply :=
  apply_induction (leads_pure _) (fun hx hy => hx.bind fun _ => hy) fun hpart =>
    leads_performs fun path hcreates => hpaths path (hpart.creates hcreates)

/-- A job adds no file but at the paths inside the policy that it creates definitions in. -/
theorem keeps_apply {root : Path} {paths : Path → Prop} {job : Job}
    (hpaths : ∀ path, job.Creates path → path.isInside = true → paths path) :
    Keeps (Within root paths) job.apply := by
  intro repo _ repo' hrepo h
  have hsteps := leads_apply hpaths repo
  rw [final_of_ok h] at hsteps
  exact hsteps.within hrepo

end Job

end PolicyEditor
