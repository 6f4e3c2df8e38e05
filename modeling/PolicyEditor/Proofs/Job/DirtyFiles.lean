import PolicyEditor.Proofs.Job.Targets
import PolicyEditor.Proofs.Repository.Creation
import PolicyEditor.Proofs.Repository.Index
import PolicyEditor.Proofs.Repository.Matching

/-!
# No edit is lost

Only dirty files are written.  An edit that succeeds makes every file dirty that it changes, so a
file that is not dirty is one of those that were read, and its text is its source.  Hence the texts
that are to be written include every text that differs from the one that was read, and the text of
every new file.

## Main definitions

* `Repository.CleanSince` : the files that are not dirty are those of an earlier repository.

## Main results

* `Repository.file?_of_mem` : the files that are read are found at their paths.
* `Job.clean_performs` : an edit that succeeds makes the files dirty that it changes.
* `Repository.renderDirty_of_jobs` : after successful jobs, no changed text is left out.
-/

namespace PolicyEditor

namespace Repository

open Edit

variable {repo repo' loaded : Repository}

/-! ### The files that are read -/

/-- The paths of the files differ. -/
def PathsDiffer (fs : List PolicyFile) : Prop :=
  fs.Pairwise fun f g => f.path.same g.path = false

theorem pathsDiffer_putFile {file : PolicyFile} {fs : List PolicyFile} (h : PathsDiffer fs) :
    PathsDiffer (putFile file fs) := by
  induction fs with
  | nil => exact List.pairwise_singleton _ _
  | cons f fs ih =>
    obtain ⟨hf, hfs⟩ := List.pairwise_cons.1 h
    rw [putFile]
    split
    · next hsame =>
      refine List.pairwise_cons.2 ⟨fun g hg => ?_, hfs⟩
      have hne := hf g hg
      rw [Path.same, Path.same_iff.1 hsame] at hne
      exact hne
    · next hsame =>
      exact List.pairwise_cons.2 ⟨forall_putFile (Bool.eq_false_iff.2 hsame) hf, ih hfs⟩

theorem pathsDiffer_addFiles {files : List (Path × String)} (hrepo : PathsDiffer repo.files)
    (h : repo.addFiles files = .ok repo') : PathsDiffer repo'.files := by
  refine addFiles_induction (P := fun r => PathsDiffer r.files)
    (fun path source r r' _ hpaths hadd => ?_) hrepo h
  obtain ⟨forest, -, rfl⟩ := addFile_eq_ok.1 hadd
  exact pathsDiffer_putFile hpaths

theorem pathsDiffer_ofSources {root : Path} {files : List (Path × String)}
    (h : ofSources root files = .ok repo) : PathsDiffer repo.files := by
  have hempty : PathsDiffer ({ root } : Repository).files := List.Pairwise.nil
  exact pathsDiffer_addFiles hempty h

/-- If the paths of the files differ, every file is found at its path. -/
theorem file?_of_mem (h : PathsDiffer repo.files) {f : PolicyFile} (hf : f ∈ repo.files) :
    repo.file? f.path = some f := by
  cases hfind : repo.file? f.path with
  | none => exact absurd f.path.same_refl (by simpa using List.find?_eq_none.1 hfind f hf)
  | some g =>
    obtain ⟨hg, hsame⟩ := file?_eq_some hfind
    congr 1
    by_contra hne
    have : Std.Symm fun f g : PolicyFile => f.path.same g.path = false :=
      ⟨fun f g hfg => by rw [← hfg, Path.same, Path.same, Bool.beq_comm]⟩
    rw [h.forall hg hf hne] at hsame
    cases hsame

/-! ### The files that are not dirty -/

/-- Every file that is not dirty is a file of the repository `loaded`. -/
def CleanSince (loaded repo : Repository) : Prop :=
  ∀ f ∈ repo.files, f.dirty = false → f ∈ loaded.files

theorem cleanSince_refl (repo : Repository) : repo.CleanSince repo :=
  fun _ hf _ => hf

/-- One file gets other definitions and becomes dirty. -/
theorem CleanSince.withDefinitions {front back : List PolicyFile} {f : PolicyFile}
    {index : List (String × Path)} (h : CleanSince loaded repo)
    (hfiles : repo.files = front ++ f :: back) (ds : List Definition) :
    CleanSince loaded { repo with files := front ++ f.withDefinitions ds :: back, index } := by
  rw [CleanSince, hfiles, List.forall_mem_append, List.forall_mem_cons] at h
  rw [CleanSince, List.forall_mem_append, List.forall_mem_cons]
  exact ⟨h.1, (fun hclean => by cases hclean), h.2.2⟩

theorem clean_create (path : Path) (d : Definition) :
    Keeps (CleanSince loaded) (create path d) := by
  intro repo _ repo' hrepo h
  obtain ⟨-, -, rfl⟩ := create_eq_ok.1 h
  have hdirty (f : PolicyFile) : (insertInto d f).dirty = false → insertInto d f ∈ loaded.files :=
    fun hclean => by cases hclean
  exact forall_insertAt (hdirty _) (fun f _ => hdirty f) hrepo

theorem clean_createDefinition (path : Path) (d : Definition) (okIfExists : Bool) :
    Keeps (CleanSince loaded) (createDefinition path d okIfExists) := by
  refine keeps_get.bind fun repo => ?_
  split
  · exact keeps_pure _
  · exact clean_create _ _

theorem clean_delete (name : String) : Keeps (CleanSince loaded) (delete name) := by
  intro repo _ repo' hrepo h
  obtain ⟨front, f, back, hfiles, -, rfl⟩ := delete_ok h
  exact hrepo.withDefinitions hfiles _

theorem clean_modifyNamed {α β : Type} (variant : Variant β) (name : String) (edit : Edit β α) :
    Keeps (CleanSince loaded) (modifyNamed variant name edit) := by
  intro repo _ repo' hrepo h
  obtain ⟨front, f, back, ds, hfiles, -, rfl⟩ := editHolder_ok h
  exact hrepo.withDefinitions hfiles ds

/-- A file that holds no matching definition stays as it is, and any other becomes dirty. -/
theorem clean_modifyMatching (p : Definition → Bool) (x : Edit Definition Unit) :
    Keeps (CleanSince loaded) (modifyMatching p x) := by
  intro repo _ repo' hrepo h
  obtain ⟨rfl, -⟩ := modifyMatching_ok h
  intro f' hf' hclean
  obtain ⟨f, hf, rfl⟩ := List.mem_map.1 hf'
  obtain ⟨hdirty, hnone⟩ := Bool.or_eq_false_iff.1 hclean
  rw [PolicyFile.edited_of_any_eq_false hnone]
  exact hrepo f hf hdirty

end Repository

namespace Job

open Edit Repository

variable {repo repo' loaded : Repository}

/-- What a method performs makes the files dirty that it changes, if it succeeds. -/
theorem clean_performs {job : Job} {x : Edit Repository Unit} (h : job.Performs x) :
    Keeps (CleanSince loaded) x := by
  cases h with
  | fail => exact keeps_throw _
  | create => exact clean_createDefinition _ _ _
  | delete => exact (clean_delete _).discard
  | owner | group | service => exact clean_modifyNamed _ _ _
  | hosts => exact keeps_modifyAny (clean_modifyMatching _ _)

theorem clean_apply (job : Job) : Keeps (CleanSince loaded) job.apply :=
  apply_induction (keeps_pure _) (fun hx hy => hx.bind fun _ => hy) fun _ => clean_performs

theorem leads_applyAll (jobs : List Job) : Leads (Steps fun _ => True) (applyAll apply jobs) :=
  applyAll_induction (leads_pure _) (fun hx hy => hx.bind fun _ => hy) fun _ _ =>
    leads_apply fun _ _ _ => trivial

end Job

namespace Repository

open Edit

variable {repo repo' : Repository} {creates : Path → Prop}

/-! ### The paths of files -/

theorem exists_insertAt (path : Path) (d : Definition) {fs : List PolicyFile} {f : PolicyFile}
    (hf : f ∈ fs) : ∃ g ∈ insertAt path d fs, g.path = f.path := by
  induction fs with
  | nil => cases hf
  | cons g fs ih =>
    rw [insertAt]
    rcases List.mem_cons.1 hf with rfl | hf
    · split
      · exact ⟨_, List.mem_cons_self, rfl⟩
      · exact ⟨f, List.mem_cons_self, rfl⟩
    · split
      · exact ⟨f, List.mem_cons_of_mem _ hf, rfl⟩
      · obtain ⟨f', hf', hpath⟩ := ih hf
        exact ⟨f', List.mem_cons_of_mem _ hf', hpath⟩

/-- A step removes no file. -/
theorem Step.exists_file (h : repo.Step creates repo') {f : PolicyFile} (hf : f ∈ repo.files) :
    ∃ f' ∈ repo'.files, f'.path = f.path := by
  cases h with
  | create _ hcreate =>
    obtain ⟨-, -, rfl⟩ := create_eq_ok.1 hcreate
    exact exists_insertAt _ _ hf
  | delete hdelete =>
    obtain ⟨front, g, back, hfiles, -, rfl⟩ := delete_ok hdelete
    rw [hfiles, List.mem_append, List.mem_cons] at hf
    simp only [List.mem_append, List.mem_cons]
    rcases hf with hf | rfl | hf
    · exact ⟨f, .inl hf, rfl⟩
    · exact ⟨_, .inr (.inl rfl), rfl⟩
    · exact ⟨f, .inr (.inr hf), rfl⟩
  | rework hfiles =>
    have hpath := List.mem_map_of_mem (f := PolicyFile.path) hf
    rw [← PolicyFile.paths_of_reworks hfiles] at hpath
    exact List.mem_map.1 hpath

theorem Steps.exists_file (h : Steps creates repo repo') {f : PolicyFile} (hf : f ∈ repo.files) :
    ∃ f' ∈ repo'.files, f'.path = f.path := by
  induction h with
  | refl => exact ⟨f, hf, rfl⟩
  | tail _ hstep ih =>
    obtain ⟨g, hg, hpath⟩ := ih
    obtain ⟨f', hf', hpath'⟩ := hstep.exists_file hg
    exact ⟨f', hf', hpath'.trans hpath⟩

/-! ### What is written -/

/-- After jobs that succeed, every file that is not dirty holds what was read, and its text is its
source.  So every file whose text differs from what was read at its path, or at whose path nothing
was read, is to be written with its text.  No file that was read is gone. -/
theorem renderDirty_of_jobs {root : Path} {files : List (Path × String)} {jobs : List Job}
    (h : ofSources root files = .ok repo)
    (hjobs : Job.applyAll Job.apply jobs repo = .ok () repo') :
    (∀ f ∈ repo'.files, f.dirty = false →
      f ∈ repo.files ∧ (f.path, f.source) ∈ files ∧
        parseFile f.source f.path.text = .ok f.forest ∧ f.render = f.source) ∧
      (∀ f ∈ repo'.files, (repo.file? f.path).map (·.source) ≠ some f.render →
        (f.path, f.render) ∈ repo'.renderDirty) ∧
      ∀ f ∈ repo.files, ∃ f' ∈ repo'.files, f'.path = f.path := by
  have hread : ∀ f ∈ repo.files,
      (f.path, f.source) ∈ files ∧ parseFile f.source f.path.text = .ok f.forest :=
    forall_ofSources (fun _ _ _ hmem hparse => ⟨hmem, hparse⟩) h
  have hclean : repo.CleanSince repo' :=
    Job.keeps_applyAll (fun job _ => Job.clean_apply job) (cleanSince_refl repo) hjobs
  have hsteps := Job.leads_applyAll jobs repo
  rw [final_of_ok hjobs] at hsteps
  refine ⟨fun f hf hdirty => ?_, fun f hf hne => ?_, fun f hf => hsteps.exists_file hf⟩
  · have hmem := hclean f hf hdirty
    obtain ⟨hsource, hparse⟩ := hread f hmem
    exact ⟨hmem, hsource, hparse, render_of_parseFile hparse _⟩
  · cases hdirty : f.dirty with
    | true => exact List.mem_map_of_mem (List.mem_filter.2 ⟨hf, hdirty⟩)
    | false =>
      have hmem := hclean f hf hdirty
      have hfile := file?_of_mem (pathsDiffer_ofSources h) hmem
      have hrender : f.render = f.source := render_of_parseFile (hread f hmem).2 _
      rw [hfile, hrender] at hne
      exact absurd rfl hne

section Samples

/-- Two files with an owner each. -/
def ownerFiles : List (Path × String) :=
  [(⟨"a"⟩, "owner:x = \x7b\n\x7d\n"), (⟨"b"⟩, "owner:y = \x7b\n\x7d\n")]

/-- A job of two parts, which change one owner and create another one. -/
def ownersJob : Job where
  method := "multi_job"
  params := some <| .object [("jobs", .array
    [.object [("method", .string "modify_owner"),
        ("params", .object [("name", .string "x"), ("admins", .array [.string "a"])])],
      .object [("method", .string "create_owner"), ("params", .object [("name", .string "z")])]])]

/-- The changed file and the new one are written, and the other one is not. -/
theorem renderDirty_of_ownersJob :
    ∃ repo repo', ofSources ⟨"policy"⟩ ownerFiles = .ok repo ∧
      Job.applyAll Job.apply [ownersJob] repo = .ok () repo' ∧
      repo'.renderDirty =
        [(⟨"a"⟩, "owner:x = \x7b\n admins = a;\n\x7d\n"),
          (⟨"owner"⟩, "owner:z = \x7b\n admins = ;\n\x7d\n")] ∧
      ∀ f ∈ repo'.files, (repo.file? f.path).map (·.source) ≠ some f.render →
        (f.path, f.render) ∈ repo'.renderDirty := by
  have hwritten :
      ((ofSources ⟨"policy"⟩ ownerFiles).toOption.bind fun repo =>
        (Edit.outcome? (Job.applyAll Job.apply [ownersJob]) repo).map fun edited =>
          edited.2.renderDirty) =
        some [(⟨"a"⟩, "owner:x = \x7b\n admins = a;\n\x7d\n"),
          (⟨"owner"⟩, "owner:z = \x7b\n admins = ;\n\x7d\n")] := by
    decide +kernel
  simp only [Option.bind_eq_some_iff, Option.map_eq_some_iff, toOption_eq_some,
    outcome?_eq_some] at hwritten
  obtain ⟨repo, hload, ⟨_, repo'⟩, hjobs, hwritten⟩ := hwritten
  exact ⟨repo, repo', hload, hjobs, hwritten, (renderDirty_of_jobs hload hjobs).2.1⟩

end Samples

end Repository

end PolicyEditor
