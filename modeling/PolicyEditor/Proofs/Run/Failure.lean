import PolicyEditor.Proofs.Run.Saving

/-!
# Runs that fail

Loading a policy and applying jobs only read the file tree.  A run that fails there leaves the tree
as it is; one that fails while it writes the edited files leaves those that are written already.

## Main definitions

* `Edit.ReadsOnly` : a change that changes nothing.

## Main results

* `Repository.readsOnly_load`, `Repository.readsOnly_runJobs` : everything before the first file is
  written only reads.
* `run_eq_error` : the two ways in which a run fails.
* `save_of_run_error` : what a run that fails has changed.
-/

namespace PolicyEditor

variable {σ α β : Type}

/-! ### Reading -/

namespace Edit

/-- The change leaves every state as it is, whether it succeeds or fails. -/
def ReadsOnly (x : Edit σ α) : Prop :=
  ∀ s, (∃ a, x s = .ok a s) ∨ ∃ e, x s = .error e s

theorem ReadsOnly.eq_of_ok {x : Edit σ α} (hx : ReadsOnly x) {s s' : σ} {a : α}
    (h : x s = .ok a s') : s = s' := by
  rcases hx s with ⟨a, hx⟩ | ⟨e, hx⟩ <;> rw [hx] at h <;> cases h
  rfl

theorem ReadsOnly.eq_of_error {x : Edit σ α} (hx : ReadsOnly x) {s s' : σ} {e : PolicyError}
    (h : x s = .error e s') : s = s' := by
  rcases hx s with ⟨a, hx⟩ | ⟨e, hx⟩ <;> rw [hx] at h <;> cases h
  rfl

theorem readsOnly_pure (a : α) : ReadsOnly (pure a : Edit σ α) :=
  fun _ => .inl ⟨a, rfl⟩

theorem readsOnly_throw (e : PolicyError) : ReadsOnly (throw e : Edit σ α) :=
  fun _ => .inr ⟨e, rfl⟩

theorem readsOnly_get : ReadsOnly (get : Edit σ σ) :=
  fun s => .inl ⟨s, rfl⟩

theorem readsOnly_ofExcept (r : Except PolicyError α) : ReadsOnly (ofExcept r : Edit σ α) := by
  cases r with
  | ok a => exact readsOnly_pure a
  | error e => exact readsOnly_throw e

theorem readsOnly_monadExcept (r : Except PolicyError α) :
    ReadsOnly (MonadExcept.ofExcept r : Edit σ α) := by
  cases r with
  | ok a => exact readsOnly_pure a
  | error e => exact readsOnly_throw e

theorem ReadsOnly.bind {x : Edit σ α} {f : α → Edit σ β} (hx : ReadsOnly x)
    (hf : ∀ a, ReadsOnly (f a)) : ReadsOnly (x >>= f) := by
  intro s
  simp only [Bind.bind, EStateM.bind]
  rcases hx s with ⟨a, h⟩ | ⟨e, h⟩ <;> rw [h]
  · exact hf a s
  · exact .inr ⟨e, rfl⟩

end Edit

open Edit FileSystem

theorem readsOnly_hasFile (path : Path) : ReadsOnly (inMemory.hasFile path) :=
  readsOnly_get.bind fun _ => readsOnly_pure _

theorem readsOnly_directory? (path : Path) : ReadsOnly (inMemory.directory? path) :=
  readsOnly_get.bind fun _ => readsOnly_pure _

theorem readsOnly_readText (path : Path) : ReadsOnly (inMemory.readText path) :=
  readsOnly_get.bind fun _ => readsOnly_ofExcept _

theorem Config.readsOnly_load (root : Path) : ReadsOnly (Config.load inMemory root) := by
  refine (readsOnly_hasFile _).bind fun found => ?_
  split
  · exact (readsOnly_readText _).bind fun _ => readsOnly_monadExcept _
  · exact readsOnly_pure _

theorem Config.readsOnly_findFiles (config : Config) (root : Path) :
    ReadsOnly (config.findFiles inMemory root) := by
  refine (readsOnly_directory? _).bind fun directory => ?_
  split
  · exact readsOnly_pure _
  · exact readsOnly_throw _

theorem Job.readsOnly_load (path : Path) : ReadsOnly (Job.load inMemory path) := by
  refine (readsOnly_readText _).bind fun text => ?_
  split
  · exact readsOnly_pure _
  · exact readsOnly_throw _

namespace Repository

theorem readsOnly_loadFiles (paths : List Path) (repo : Repository) :
    ReadsOnly (loadFiles inMemory paths repo) := by
  induction paths generalizing repo with
  | nil => exact readsOnly_pure _
  | cons path paths ih =>
    exact (readsOnly_readText _).bind fun _ => (readsOnly_monadExcept _).bind fun repo => ih repo

theorem readsOnly_load (root : Path) : ReadsOnly (Repository.load inMemory root) :=
  (Config.readsOnly_load root).bind fun config =>
    (config.readsOnly_findFiles root).bind fun _ => readsOnly_loadFiles _ _

theorem readsOnly_runJobs (paths : List Path) (repo : Repository) :
    ReadsOnly (runJobs inMemory paths repo) := by
  induction paths generalizing repo with
  | nil => exact readsOnly_pure _
  | cons path paths ih =>
    refine (Job.readsOnly_load _).bind fun job => ?_
    split
    · exact ih _
    · exact readsOnly_throw _

/-- The repository of a policy after the jobs of job files, before anything is written. -/
def prepare (root : Path) (jobs : List Path) : Edit (Directory Content) Repository :=
  load inMemory root >>= runJobs inMemory jobs

theorem readsOnly_prepare (root : Path) (jobs : List Path) : ReadsOnly (prepare root jobs) :=
  (readsOnly_load root).bind (readsOnly_runJobs jobs)

/-- The paths and texts of the files that have to be written. -/
def pending (repo : Repository) : List (Path × String) :=
  repo.renderDirty.map fun file => (repo.root.join file.1, file.2)

end Repository

/-! ### Failures -/

open Repository

/-- A run fails before it writes, and leaves the tree as it is, or because of a file that it
writes. -/
theorem run_eq_error {root : Path} {jobs : List Path} {dryRun : Bool}
    {tree tree' : Directory Content} {e : PolicyError} :
    run inMemory root jobs dryRun tree = .error e tree' ↔
      prepare root jobs tree = .error e tree' ∨
        dryRun = false ∧ ∃ repo, prepare root jobs tree = .ok repo tree ∧
          writeFiles inMemory repo.pending tree = .error e tree' := by
  have hrun : run inMemory root jobs dryRun = prepare root jobs >>= fun repo =>
      if !dryRun then repo.save inMemory >>= fun _ => pure (repo.dirtyPaths.map root.join)
      else pure (repo.dirtyPaths.map root.join) := by
    rw [prepare, bind_assoc]
    rfl
  simp only [hrun, bind, EStateM.bind]
  rcases readsOnly_prepare root jobs tree with ⟨repo, hprepare⟩ | ⟨e', hprepare⟩ <;>
    simp only [hprepare]
  · cases dryRun with
    | true => simp [pure, EStateM.pure]
    | false =>
      simp only [save, pending, Bool.not_false, if_true, pure, EStateM.pure, EStateM.bind]
      split <;> simp_all
  · simp

/-- What a run that fails has changed: the files in front of the first one that could not be
written, and nothing if it failed earlier.  All other files are as before. -/
theorem save_of_run_error {root : Path} {jobs : List Path} {dryRun : Bool}
    {tree tree' : Directory Content} {e : PolicyError}
    (h : run inMemory root jobs dryRun tree = .error e tree') :
    ∃ written, Save written tree tree' ∧
      (written = [] ∨
        dryRun = false ∧ ∃ repo failed rest tree₁, prepare root jobs tree = .ok repo tree ∧
          repo.pending = written ++ failed :: rest ∧
          writeFiles inMemory written tree = .ok () tree₁ ∧
          writeInMemory failed.1 failed.2 tree₁ = .error e tree') := by
  rcases run_eq_error.1 h with hprepare | ⟨hdry, repo, hprepare, hwrite⟩
  · obtain rfl := (readsOnly_prepare root jobs).eq_of_error hprepare
    exact ⟨[], .nil (.refl _), .inl rfl⟩
  · obtain ⟨written, failed, rest, hpending, hsave, tree₁, hwritten, hfailed⟩ :=
      save_of_writeFiles_error hwrite
    exact ⟨written, hsave,
      .inr ⟨hdry, repo, failed, rest, tree₁, hprepare, hpending, hwritten, hfailed⟩⟩

section Samples

/-- A policy in which the owners have a directory, and two jobs that create owners. -/
def crowdedTree : Directory Content :=
  [⟨"netspoc", .directory [⟨"owner", .directory [⟨"all", .file (.text "# owners\n")⟩]⟩]⟩,
    ⟨"token", .file (.text
      "[\"create_owner\", \x7b\"name\": \"DA_TOKEN_a\", \"admins\": [\"b\"]\x7d, null]")⟩,
    ⟨"plain", .file (.text
      "[\"create_owner\", \x7b\"name\": \"a\", \"admins\": [\"b\"]\x7d, null]")⟩]

theorem run_crowdedTree :
    ∃ e tree', run inMemory ⟨"netspoc"⟩ [⟨"token"⟩, ⟨"plain"⟩] false crowdedTree = .error e tree' ∧
      tree'.view ["netspoc", "owner-token"] =
        .file (.text "owner:DA_TOKEN_a = \x7b\n admins = b;\n\x7d\n") := by
  have hview :
      (match run inMemory ⟨"netspoc"⟩ [⟨"token"⟩, ⟨"plain"⟩] false crowdedTree with
        | .error _ tree' => some (tree'.view ["netspoc", "owner-token"])
        | .ok _ _ => none) =
        some (.file (.text "owner:DA_TOKEN_a = \x7b\n admins = b;\n\x7d\n")) := by
    decide +kernel
  cases hrun : run inMemory ⟨"netspoc"⟩ [⟨"token"⟩, ⟨"plain"⟩] false crowdedTree with
  | ok paths tree' =>
    rw [hrun] at hview
    cases hview
  | error e tree' =>
    rw [hrun] at hview
    exact ⟨e, tree', rfl, Option.some.inj hview⟩

/-- The file of the second owner cannot be written, as a directory has its name. -/
theorem save_of_run_crowdedTree :
    ∃ e tree' written,
      run inMemory ⟨"netspoc"⟩ [⟨"token"⟩, ⟨"plain"⟩] false crowdedTree = .error e tree' ∧
        Save written crowdedTree tree' ∧ written ≠ [] := by
  obtain ⟨e, tree', hrun, hview⟩ := run_crowdedTree
  obtain ⟨written, hsave, -⟩ := save_of_run_error hrun
  refine ⟨e, tree', written, hrun, hsave, ?_⟩
  rintro rfl
  rcases hsave.unchanged ["netspoc", "owner-token"] with ⟨_, hmem, -⟩ | hsame
  · cases hmem
  · exact absurd ((hsame _).1 hview) (by decide +kernel)

/-- A run that fails may leave files that it has written below the root of the policy. -/
theorem not_sameFile_of_run_error :
    ¬ ∀ (root : Path) (jobs : List Path) (tree tree' : Directory Content) (e : PolicyError)
      (base : List FileName), tree.Leads root base → tree.view base = .directory →
        run inMemory root jobs false tree = .error e tree' →
          ∀ names, tree.SameFile tree' (base ++ names) := by
  intro h
  obtain ⟨e, tree', hrun, hview⟩ := run_crowdedTree
  have hleads : crowdedTree.Leads ⟨"netspoc"⟩ ["netspoc"] := rfl
  have hsame := (h _ _ _ _ _ _ hleads rfl hrun ["owner-token"] _).1 hview
  revert hsame
  decide +kernel

end Samples

end PolicyEditor
