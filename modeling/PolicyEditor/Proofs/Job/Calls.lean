import PolicyEditor.Proofs.Job.Targets
import PolicyEditor.Proofs.Repository.Creation
import PolicyEditor.Proofs.Repository.Index

/-!
# Calls and the index

Jobs are applied to a repository and definitions are created and deleted, and any of these calls may
fail.  If the files that were read have different paths and different names in them, the index tells
the definitions of the repository at any time.

If the files define a name several times, a deletion takes one definition away and the name out of
the index.  The others stay, and then a creation of the name goes through although there are
definitions of it.

## Main definitions

* `Repository.Calls` : a job, a creation or a deletion, with success or not.
* `Repository.CountsSince` : the numbers of definitions, compared with those that were read.

## Main results

* `Repository.index_of_calls` : the index tells the definitions after any calls.
* `Repository.count_of_create` : how many definitions of a name there are when one is created.
-/

namespace PolicyEditor

namespace Repository

open Edit

/-- A job is applied, a definition is created or a definition is deleted.  If this fails, the
repository is left as far as it came. -/
inductive Calls (repo : Repository) : Repository → Prop
  | job (job : Job) : Calls repo (job.apply.final repo)
  | create (path : Path) (d : Definition) : Calls repo ((Repository.create path d).final repo)
  | delete (name : String) : Calls repo ((Repository.delete name).final repo)

variable {root : Path} {files : List (Path × String)} {repo repo' repo'' : Repository}

theorem Calls.steps (h : repo.Calls repo') : Steps (fun _ => True) repo repo' := by
  cases h with
  | job job => exact Job.leads_apply (fun _ _ _ => trivial) repo
  | create path d => exact leads_create d (fun _ => trivial) repo
  | delete name => exact leads_delete name repo

theorem steps_of_calls (h : Relation.ReflTransGen Calls repo repo') :
    Steps (fun _ => True) repo repo' := by
  induction h with
  | refl => exact .refl
  | tail _ hcall ih => exact ih.trans hcall.steps

/-- The index knows a name if and only if a file holds a definition of it.  The definition is then
the only one of its name, the index tells the path of its file, and it is what is looked up. -/
theorem index_of_calls (h : ofSources root files = .ok repo)
    (hpaths : files.Pairwise fun a b => a.1.same b.1 = false)
    (hnames : (repo.definitions.map (·.name)).Nodup)
    (hcalls : Relation.ReflTransGen Calls repo repo') (name : String) :
    (repo'.contains name = true ↔
        ∃ f ∈ repo'.files, ∃ d ∈ f.forest.definitions, d.name = name) ∧
      ∀ f ∈ repo'.files, ∀ d ∈ f.forest.definitions, d.name = name →
        repo'.definitions.filter (·.name == name) = [d] ∧
          (∃ path, repo'.location? name = some path ∧ f.path.same path = true) ∧
          repo'.lookup name = .ok d := by
  have hindexed := (indexed_ofSources h hpaths hnames).steps (steps_of_calls hcalls)
  refine ⟨?_, fun f hf d hd hname => hname ▸ hindexed.lookup hf hd⟩
  rw [hindexed.contains_iff]
  simp only [names, PolicyFile.names, List.mem_flatMap, List.mem_map]

/-! ### Two owners in two files -/

/-- Two files with an owner each. -/
def separateOwners : List (Path × String) :=
  [(⟨"owner"⟩, "owner:x = \x7b\n\x7d\n"), (⟨"other"⟩, "owner:y = \x7b\n\x7d\n")]

/-- A job with an unknown method. -/
def unknownJob : Job where
  method := "rename"

theorem final_unknownJob (repo : Repository) : unknownJob.apply.final repo = repo := by
  have hmethod : Job.Method.ofName? unknownJob.method = none := by decide
  rw [Edit.final, Job.apply, Job.applyNested, hmethod]
  rfl

/-- A job fails, an owner is deleted, and it is created anew in another file. -/
def recreate (repo : Repository) : Repository :=
  (create ⟨"team"⟩ newOwner).final
    ((Repository.delete "owner:x").final (unknownJob.apply.final repo))

theorem calls_recreate (repo : Repository) : Relation.ReflTransGen Calls repo (recreate repo) :=
  .tail (.tail (.single (.job unknownJob)) (.delete "owner:x")) (.create ⟨"team"⟩ newOwner)

/-- After a job that fails, the first owner is deleted and created anew in another file. -/
theorem index_of_calls_recreate :
    ∃ repo, ofSources ⟨"policy"⟩ separateOwners = .ok repo ∧
      (recreate repo).definitions.filter (·.name == "owner:x") = [newOwner] ∧
      (∃ path, (recreate repo).location? "owner:x" = some path ∧ Path.same ⟨"team"⟩ path = true) ∧
      (recreate repo).lookup "owner:x" = .ok newOwner := by
  obtain ⟨repo, hload, hnames, hfile⟩ : ∃ repo, ofSources ⟨"policy"⟩ separateOwners = .ok repo ∧
      repo.definitions.map (·.name) = ["owner:x", "owner:y"] ∧
      insertInto newOwner { path := ⟨"team"⟩ } ∈ (recreate repo).files :=
    ⟨_, rfl, rfl, by
      rw [recreate, final_unknownJob]
      exact .tail _ (.tail _ (.head _))⟩
  obtain ⟨-, hindex⟩ := index_of_calls hload (by decide) (by rw [hnames]; decide)
    (calls_recreate repo) "owner:x"
  exact ⟨repo, hload, hindex _ hfile newOwner (.head _) rfl⟩

/-! ### Names with several definitions -/

/-- As long as the index knows a name, there are as many definitions of it as were read, or one if
none was read.  Otherwise there is one less. -/
def CountsSince (loaded repo : Repository) : Prop :=
  ∀ name,
    (repo.contains name = true → loaded.names.count name ≤ repo.names.count name ∧
      repo.names.count name ≤ max 1 (loaded.names.count name)) ∧
    (repo.contains name = false → repo.names.count name = loaded.names.count name - 1)

theorem Known.countsSince (h : repo.Known) : repo.CountsSince repo := by
  intro name
  refine ⟨fun _ => ⟨Nat.le_refl _, Nat.le_max_right _ _⟩, fun hnot => ?_⟩
  have hmem : name ∉ repo.names := fun hmem => by
    rw [known_iff.1 h name hmem] at hnot
    cases hnot
  rw [List.count_eq_zero.2 hmem]

theorem CountsSince.step {creates : Path → Prop} (h : repo.CountsSince repo')
    (hstep : repo'.Step creates repo'') : repo.CountsSince repo'' := by
  intro m
  -- Only the number of the name that the step is about changes.
  obtain ⟨hknown, hunknown⟩ := h m
  rcases hstep.names with ⟨name, hnot, hnames, hcontains⟩ | ⟨name, hfound, hnames, hcontains⟩ |
    ⟨hnames, hcontains⟩
  · by_cases hname : name = m
    · subst hname
      have hcount := hnames.count_eq name
      rw [List.count_cons_self, hunknown hnot] at hcount
      have hafter : repo''.contains name = true := by
        rw [hcontains, beq_self_eq_true, Bool.or_true]
      rw [hafter]
      exact ⟨fun _ => by omega, fun hnot => by cases hnot⟩
    · have hcount := hnames.count_eq m
      rw [List.count_cons_of_ne hname] at hcount
      have hafter : repo''.contains m = repo'.contains m := by
        rw [hcontains, beq_eq_false_iff_ne.2 hname, Bool.or_false]
      rw [hafter, hcount]
      exact ⟨hknown, hunknown⟩
  · by_cases hname : name = m
    · subst hname
      have hcount := hnames.count_eq name
      have hbefore := hknown hfound
      rw [List.count_cons_self] at hcount
      have hafter : repo''.contains name = false := by
        rw [hcontains, bne_self_eq_false, Bool.and_false]
      rw [hafter]
      exact ⟨fun hknown => (by cases hknown), fun _ => by omega⟩
    · have hcount := hnames.count_eq m
      rw [List.count_cons_of_ne hname] at hcount
      have hafter : repo''.contains m = repo'.contains m := by
        rw [hcontains, bne_iff_ne.2 (Ne.symm hname), Bool.and_true]
      rw [hafter, ← hcount]
      exact ⟨hknown, hunknown⟩
  · rw [hcontains m, hnames]
    exact ⟨hknown, hunknown⟩

theorem CountsSince.steps {creates : Path → Prop} (h : repo.CountsSince repo')
    (hsteps : Steps creates repo' repo'') : repo.CountsSince repo'' := by
  induction hsteps with
  | refl => exact h
  | tail _ hstep ih => exact ih.step hstep

/-- When a definition is created, there is one definition of its name less than were read.  So other
definitions of the name are there if and only if several were read. -/
theorem count_of_create (h : ofSources root files = .ok repo)
    (hcalls : Relation.ReflTransGen Calls repo repo') {path : Path} {d : Definition}
    (hcreate : create path d repo' = .ok () repo'') :
    repo'.names.count d.name = repo.names.count d.name - 1 ∧
      repo''.names.count d.name = max 1 (repo.names.count d.name) ∧
      ((∃ f ∈ repo'.files, ∃ e ∈ f.forest.definitions, e.name = d.name) ↔
        1 < repo.names.count d.name) := by
  have hcounts := (known_ofSources h).countsSince.steps (steps_of_calls hcalls)
  have hbefore := (hcounts d.name).2 (create_eq_ok.1 hcreate).2.1
  have hafter := (names_create hcreate).count_eq d.name
  rw [List.count_cons_self] at hafter
  refine ⟨hbefore, by omega, ?_⟩
  have hmem : (∃ f ∈ repo'.files, ∃ e ∈ f.forest.definitions, e.name = d.name) ↔
      d.name ∈ repo'.names := by
    simp only [names, PolicyFile.names, List.mem_flatMap, List.mem_map]
  rw [hmem, ← List.count_pos_iff, hbefore]
  omega

/-! ### An owner in two files -/

/-- Two files with a definition of the same owner. -/
def doubleOwner : List (Path × String) :=
  [(⟨"a"⟩, "owner:x = \x7b\n\x7d\n"), (⟨"b"⟩, "owner:x = \x7b\n admins = b;\n\x7d\n")]

/-- A creation goes through although a file holds a definition of the name. -/
theorem not_unique_of_create :
    ∃ repo repo' repo'' d, ofSources ⟨"policy"⟩ doubleOwner = .ok repo ∧
      delete "owner:x" repo = .ok d repo' ∧ create ⟨"c"⟩ newOwner repo' = .ok () repo'' ∧
      ∃ f ∈ repo'.files, ∃ e ∈ f.forest.definitions, e.name = "owner:x" := by
  refine ⟨_, _, _, _, rfl, rfl, rfl, ?_⟩
  exact ⟨_, .tail _ (.head _), _, .head _, rfl⟩

/-- Of the two definitions one is deleted, and with the new one there are two again. -/
theorem count_of_create_doubleOwner :
    ∃ repo repo' repo'', ofSources ⟨"policy"⟩ doubleOwner = .ok repo ∧
      Relation.ReflTransGen Calls repo repo' ∧ create ⟨"c"⟩ newOwner repo' = .ok () repo'' ∧
      repo.names.count "owner:x" = 2 ∧ repo'.names.count "owner:x" = 1 ∧
      repo''.names.count "owner:x" = 2 := by
  obtain ⟨repo, repo'', hload, hcreate, hcount⟩ : ∃ repo repo'',
      ofSources ⟨"policy"⟩ doubleOwner = .ok repo ∧
      create ⟨"c"⟩ newOwner (Edit.final (delete "owner:x") repo) = .ok () repo'' ∧
      repo.names = ["owner:x", "owner:x"] := ⟨_, _, rfl, rfl, rfl⟩
  obtain ⟨hbefore, hafter, -⟩ := count_of_create hload (.single (.delete "owner:x")) hcreate
  have hcount : repo.names.count newOwner.name = 2 := by
    rw [hcount]
    decide
  rw [hcount] at hbefore hafter
  exact ⟨repo, _, repo'', hload, .single (.delete "owner:x"), hcreate, hcount, hbefore, hafter⟩

end Repository

end PolicyEditor
