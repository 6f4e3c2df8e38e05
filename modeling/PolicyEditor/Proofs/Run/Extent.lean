import PolicyEditor.Proofs.FileTree.Joining
import PolicyEditor.Proofs.FileTree.Walk
import PolicyEditor.Proofs.Job.Targets
import PolicyEditor.Proofs.Run.Failure

/-!
# The files that a run may write

A run writes the files that it has loaded and those that its jobs create definitions in, which lie
below the root of the policy, as there are no links in the tree.  The rule by which files are found
does not take part in this: a job may create a definition in a file that the rule leaves out.

## Main definitions

* `Directory.WellNamed` : the texts on the ways to files are names of a file system.

## Main results

* `Repository.load_ok` : what is loaded are the texts of the files that are found.
* `extent_of_jobs` : the files that are written, and what becomes of the others.
-/

namespace PolicyEditor

open Directory FileSystem Edit

/-- The texts on the ways to files can stand between slashes. -/
def Directory.WellNamed {α : Type} (d : Directory α) : Prop :=
  ∀ file ∈ d.files, ∀ name ∈ file.1, Path.IsName name

instance {α : Type} (d : Directory α) : Decidable d.WellNamed :=
  inferInstanceAs (Decidable (∀ file ∈ d.files, ∀ name ∈ file.1, Path.IsName name))

/-! ### Loading -/

/-- The paths of files that are found are paths inside the policy. -/
theorem Config.Finds.place_ofPlace {tree policy : Directory Content} {root : Path}
    {base place : List FileName} {config : Config} (htree : tree.WellNamed)
    (hleads : tree.Leads root base) (hbase : tree.node? base = some (.directory policy))
    (h : config.Finds policy place) :
    (Path.ofPlace place).isInside = true ∧ (Path.ofPlace place).place = place := by
  obtain ⟨above, rfl⟩ := hleads.exists_texts
  obtain ⟨names, hne, rfl⟩ := h.exists_texts
  obtain ⟨content, hmem⟩ := h.mem_files hbase
  have hnames : ∀ name ∈ names, Path.IsName name := fun name hname =>
    htree _ hmem name (List.mem_append_right above hname)
  rw [Path.ofPlace_map_ofText]
  exact ⟨Path.isInside_intercalate hne hnames, Path.place_intercalate hne hnames⟩

theorem Directory.locate_ok {α : Type} {d : Directory α} {path : Path} {place : List FileName}
    (h : d.locate path = .ok place) : path.text ≠ "" ∧ d.Leads path place := by
  simp only [locate, bind, Except.bind] at h
  split at h
  · cases h
  · split at h
    · cases h
    · next hcond =>
      refine ⟨fun hempty => hcond ?_, h⟩
      simp [hempty]

theorem Directory.directory?_eq_some {α : Type} {d entries : Directory α} {path : Path}
    (h : d.directory? path = some entries) :
    ∃ place, path.text ≠ "" ∧ d.Leads path place ∧ d.node? place = some (.directory entries) := by
  simp only [directory?, find?, bind, Except.bind] at h
  cases hlocate : d.locate path with
  | error cause => simp [hlocate] at h
  | ok place =>
    obtain ⟨hempty, hleads⟩ := locate_ok hlocate
    refine ⟨place, hempty, hleads, ?_⟩
    simp only [hlocate] at h
    rcases hnode : d.node? place with - | content | inner <;> rw [hnode] at h <;> cases h
    rfl

namespace Repository

/-- Files that are loaded are added with the texts that are read. -/
theorem addFiles_of_loadFiles {paths : List Path} {repo repo' : Repository}
    {tree tree' : Directory Content} (h : loadFiles inMemory paths repo tree = .ok repo' tree') :
    ∃ files : List (Path × String), files.map (·.1) = paths ∧ repo.addFiles files = .ok repo' ∧
      ∀ file ∈ files, inMemory.readText (repo.root.join file.1) tree = .ok file.2 tree := by
  induction paths generalizing repo tree with
  | nil =>
    cases h
    exact ⟨[], rfl, rfl, by simp⟩
  | cons path paths ih =>
    rw [loadFiles] at h
    obtain ⟨text, tree₁, htext, h⟩ := bind_eq_ok.1 h
    obtain ⟨repo₁, tree₂, hread, h⟩ := bind_eq_ok.1 h
    obtain rfl := (readsOnly_readText _).eq_of_ok htext
    obtain rfl := (readsOnly_monadExcept _).eq_of_ok hread
    cases hadd : repo.addFile path text with
    | error e =>
      rw [hadd] at hread
      cases hread
    | ok repo₂ =>
      rw [hadd] at hread
      cases hread
      have hroot : repo₁.root = repo.root := by
        obtain ⟨forest, -, rfl⟩ := addFile_eq_ok.1 hadd
        rfl
      obtain ⟨files, hpaths, hfiles, htexts⟩ := ih h
      rw [hroot] at htexts
      exact ⟨(path, text) :: files, by rw [List.map_cons, hpaths],
        addFiles_cons_eq_ok.2 ⟨_, hadd, hfiles⟩, List.forall_mem_cons.2 ⟨htext, htexts⟩⟩

/-- The repository of a policy is that of the texts of the files that are found below its root. -/
theorem load_ok {root : Path} {tree tree' : Directory Content} {repo : Repository}
    (h : Repository.load inMemory root tree = .ok repo tree') :
    ∃ config base policy files, Config.load inMemory root tree = .ok config tree ∧ root.text ≠ "" ∧
      tree.Leads root base ∧ tree.node? base = some (.directory policy) ∧
      files.map (·.1) = config.policyFiles policy ∧ ofSources root files = .ok repo ∧
      ∀ file ∈ files, inMemory.readText (root.join file.1) tree = .ok file.2 tree := by
  rw [load] at h
  obtain ⟨config, tree₁, hconfig, h⟩ := bind_eq_ok.1 h
  obtain ⟨paths, tree₂, hpaths, h⟩ := bind_eq_ok.1 h
  obtain rfl := (Config.readsOnly_load root).eq_of_ok hconfig
  rw [Config.findFiles] at hpaths
  obtain ⟨policy?, tree₃, hpolicy, hpaths⟩ := bind_eq_ok.1 hpaths
  have hread : EStateM.Result.ok (tree.directory? root) tree = .ok policy? tree₃ := hpolicy
  obtain ⟨hdirectory, rfl⟩ := EStateM.Result.ok.inj hread
  cases policy? with
  | none => cases hpaths
  | some policy =>
    cases hpaths
    obtain ⟨base, hroot, hleads, hbase⟩ := directory?_eq_some hdirectory
    obtain ⟨files, hfound, hfiles, htexts⟩ := addFiles_of_loadFiles h
    exact ⟨config, base, policy, files, hconfig, hroot, hleads, hbase, hfound, hfiles, htexts⟩

theorem within_ofSources {root : Path} {files : List (Path × String)} {repo : Repository}
    (h : ofSources root files = .ok repo) : repo.Within root (· ∈ files.map (·.1)) :=
  ⟨root_of_addFiles h,
    forall_ofSources (fun _ _ _ hmem _ => List.mem_map_of_mem (f := (·.1)) hmem) h⟩

/-- The file of a policy that is written stands at the names of its path below the root, and holds
a text. -/
theorem view_of_save {root : Path} {base : List FileName} {tree tree' : Directory Content}
    {repo : Repository} (hrepo : repo.Within root (·.isInside = true)) (hroot : root.text ≠ "")
    (hbase : tree'.Leads root base) (h : Save repo.pending tree tree') :
    (∀ f ∈ repo.dirtyFiles, ∃ content, tree'.view (base ++ f.path.place) = .file content) ∧
      ∀ place, tree.SameFile tree' place ∨ ∃ f ∈ repo.dirtyFiles, place = base ++ f.path.place := by
  have hpending : ∀ file ∈ repo.pending, ∃ f ∈ repo.dirtyFiles,
      file = (repo.root.join f.path, f.render) := by
    intro file hfile
    simpa [pending, renderDirty, eq_comm] using hfile
  have hplace : ∀ f ∈ repo.dirtyFiles, ∀ place, tree'.Leads (repo.root.join f.path) place →
      place = base ++ f.path.place := by
    intro f hf place hleads
    rw [hrepo.root] at hleads
    exact leads_join hroot hbase (hrepo.files f (List.mem_filter.1 hf).1) hleads
  refine ⟨fun f hf => ?_, fun place => ?_⟩
  · have hmem : (repo.root.join f.path, f.render) ∈ repo.pending := by
      simp only [pending, renderDirty, List.map_map, List.mem_map]
      exact ⟨f, hf, rfl⟩
    obtain ⟨place, hleads, file, -, -, hview⟩ := h.written _ hmem
    exact ⟨_, hplace f hf place hleads ▸ hview⟩
  · rcases h.unchanged place with ⟨file, hfile, hleads, -⟩ | hsame
    · obtain ⟨f, hf, rfl⟩ := hpending file hfile
      exact .inr ⟨f, hf, hplace f hf place hleads⟩
    · exact .inl hsame

end Repository

/-! ### Writing -/

open Repository

/-- The files that are written after some jobs are files that were loaded or those that the jobs
create definitions in, all of them inside the policy.  They will be found again unless their names
forbid it.  A file that is left out by loading is overwritten only by a job that names it. -/
theorem extent_of_jobs {root : Path} {jobs : List Job} {tree tree' : Directory Content}
    {repo repo' : Repository} (htree : tree.WellNamed)
    (hload : Repository.load inMemory root tree = .ok repo tree)
    (hjobs : Job.applyAll Job.apply jobs repo = .ok () repo')
    (hsave : repo'.save inMemory tree = .ok () tree') :
    ∃ (config : Config) (base : List FileName) (policy policy' : Directory Content),
      Config.load inMemory root tree = .ok config tree ∧ tree.Leads root base ∧
      tree.node? base = some (.directory policy) ∧
      tree'.node? base = some (.directory policy') ∧
      (∀ f ∈ repo'.dirtyFiles, f.path.isInside = true ∧
        (config.Finds policy f.path.place ∨ ∃ job ∈ jobs, job.Creates f.path) ∧
        (config.Finds policy' f.path.place ↔ config.Admits f.path.place)) ∧
      (∀ place, tree.SameFile tree' place ∨
        ∃ f ∈ repo'.dirtyFiles, place = base ++ f.path.place) ∧
      ∀ place content, policy.view place = .file content → ¬ config.Finds policy place →
        policy'.view place = .file content ∨
          ∃ job ∈ jobs, ∃ path, job.Creates path ∧ path.isInside = true ∧ path.place = place := by
  obtain ⟨config, base, policy, files, hconfig, hroot, hleads, hbase, hfound, hfiles, -⟩ :=
    load_ok hload
  have hloaded := within_ofSources hfiles
  rw [hfound] at hloaded
  have horigin : repo.Within root fun path => path.isInside = true ∧
      (config.Finds policy path.place ∨ ∃ job ∈ jobs, job.Creates path) := by
    refine ⟨hloaded.root, fun f hf => ?_⟩
    obtain ⟨place, hfinds, hpath⟩ := Config.mem_policyFiles.1 (hloaded.files f hf)
    obtain ⟨hinside, hplace⟩ := hfinds.place_ofPlace htree hleads hbase
    rw [hpath, hplace]
    exact ⟨hinside, .inl hfinds⟩
  have hwithin := Job.keeps_applyAll
    (fun job hjob => Job.keeps_apply fun path hcreates hinside =>
      ⟨hinside, .inr ⟨job, hjob, hcreates⟩⟩) horigin hjobs
  have hsaved : Save repo'.pending tree tree' := save_of_writeFiles hsave
  obtain ⟨policy', hbase'⟩ := view_eq_directory_iff.1
    (hsaved.kept.directory base (view_eq_directory_iff.2 ⟨policy, hbase⟩))
  obtain ⟨hholds, hplaces⟩ := view_of_save
    ⟨hwithin.root, fun f hf => (hwithin.files f hf).1⟩ hroot (hsaved.kept.leads hleads) hsaved
  refine ⟨config, base, policy, policy', hconfig, hleads, hbase, hbase', fun f hf => ?_, hplaces,
    fun place content hview hskipped => ?_⟩
  · obtain ⟨hinside, hfrom⟩ := hwithin.files f (List.mem_filter.1 hf).1
    obtain ⟨content, hview⟩ := hholds f hf
    rw [view_append hbase'] at hview
    exact ⟨hinside, hfrom, fun h => h.admits, Config.finds_of_view hview⟩
  · rcases hplaces (base ++ place) with hsame | ⟨f, hf, hplace⟩
    · rw [← view_append hbase] at hview
      rw [← view_append hbase']
      exact .inl ((hsame content).2 hview)
    · obtain ⟨hinside, hfrom⟩ := hwithin.files f (List.mem_filter.1 hf).1
      rw [← List.append_cancel_left hplace] at hfrom
      rcases hfrom with hfinds | ⟨job, hjob, hcreates⟩
      · exact absurd hfinds hskipped
      · exact .inr ⟨job, hjob, f.path, hcreates, hinside, (List.append_cancel_left hplace).symm⟩

section Samples

/-- A policy with a configuration and a file of owners. -/
def configuredPolicy : Directory Content :=
  [⟨"config", .file (.text "# settings\n")⟩, ⟨"owner", .file (.text "# owners\n")⟩]

/-- The tree of a policy with a configuration. -/
def configuredTree : Directory Content :=
  [⟨"netspoc", .directory configuredPolicy⟩]

/-- A job that creates a definition in the configuration. -/
def configJob : Job where
  method := "create_toplevel"
  params := some (.object
    [("definition", .string "owner:x = \x7b admins = a; \x7d"), ("file", .string "config")])

theorem apply_configJob :
    ∃ repo repo' tree',
      Repository.load inMemory ⟨"netspoc"⟩ configuredTree = .ok repo configuredTree ∧
      Job.applyAll Job.apply [configJob] repo = .ok () repo' ∧
      repo'.save inMemory configuredTree = .ok () tree' ∧
      tree'.view ["netspoc", "config"] =
        .file (.text "owner:x = \x7b\n admins = a;\n\x7d\n") := by
  have hview :
      ((Edit.outcome? (Repository.load inMemory ⟨"netspoc"⟩) configuredTree).bind fun loaded =>
        (Edit.outcome? (Job.applyAll Job.apply [configJob]) loaded.1).bind fun edited =>
          (Edit.outcome? (edited.2.save inMemory) configuredTree).map fun saved =>
            saved.2.view ["netspoc", "config"]) =
        some (.file (.text "owner:x = \x7b\n admins = a;\n\x7d\n")) := by
    decide +kernel
  simp only [Option.bind_eq_some_iff, Option.map_eq_some_iff, outcome?_eq_some] at hview
  obtain ⟨⟨repo, tree⟩, hload, ⟨_, repo'⟩, hjobs, ⟨_, tree'⟩, hsave, hview⟩ := hview
  obtain rfl := (readsOnly_load _).eq_of_ok hload
  exact ⟨repo, repo', tree', hload, hjobs, hsave, hview⟩

/-- What the job writes is inside the policy, and is found again if its names allow it. -/
theorem extent_of_configJob :
    ∃ (repo repo' : Repository) (tree' policy' : Directory Content) (config : Config),
      Repository.load inMemory ⟨"netspoc"⟩ configuredTree = .ok repo configuredTree ∧
      Job.applyAll Job.apply [configJob] repo = .ok () repo' ∧
      repo'.save inMemory configuredTree = .ok () tree' ∧
      ∀ f ∈ repo'.dirtyFiles, f.path.isInside = true ∧
        (config.Finds policy' f.path.place ↔ config.Admits f.path.place) := by
  obtain ⟨repo, repo', tree', hload, hjobs, hsave, -⟩ := apply_configJob
  obtain ⟨config, _, _, policy', _, _, _, _, hfiles, -⟩ :=
    extent_of_jobs (by decide +kernel) hload hjobs hsave
  exact ⟨repo, repo', tree', policy', config, hload, hjobs, hsave,
    fun f hf => ⟨(hfiles f hf).1, (hfiles f hf).2.2⟩⟩

/-- A job may overwrite a file that is left out by loading. -/
theorem not_kept_of_skipped :
    ¬ ∀ (root : Path) (jobs : List Job) (tree tree' policy : Directory Content)
      (repo repo' : Repository) (config : Config) (base place : List FileName) (content : Content),
      tree.WellNamed → Repository.load inMemory root tree = .ok repo tree →
        Job.applyAll Job.apply jobs repo = .ok () repo' →
        repo'.save inMemory tree = .ok () tree' →
        Config.load inMemory root tree = .ok config tree →
        tree.Leads root base → tree.node? base = some (.directory policy) →
        policy.view place = .file content → ¬ config.Finds policy place →
          tree'.view (base ++ place) = .file content := by
  intro h
  obtain ⟨repo, repo', tree', hload, hjobs, hsave, hview⟩ := apply_configJob
  have hkept := h ⟨"netspoc"⟩ [configJob] configuredTree tree' configuredPolicy repo repo'
    Config.default ["netspoc"] ["config"] (.text "# settings\n") (by decide +kernel) hload hjobs
    hsave rfl rfl rfl rfl fun hfinds => hfinds.admits.not_config rfl
  rw [List.singleton_append, hview] at hkept
  exact absurd hkept (by decide)

end Samples

end PolicyEditor
