import Mathlib.Data.List.Basic
import PolicyEditor.Repository

/-!
# The files of an edited repository

The steps of a repository touch at most one file, whose definitions they replace.  What holds of all
files that are read, and is kept by such a step, holds of all files of a repository.

## Main definitions

* `Edit.Keeps` : a property of the state that holds after an edit if it holds before.
* `PolicyFile.withDefinitions` : a file whose definitions were edited.

## Main results

* `Repository.forall_ofSources` : a property of all files that are read.
* `Repository.create_eq_ok`, `Repository.editHolder_ok`, `Repository.delete_ok` : what a successful
  step does to the files.
-/

namespace PolicyEditor

/-! ### Properties that edits keep -/

namespace Edit

variable {σ α β : Type} {P : σ → Prop}

theorem pure_apply (a : α) (s : σ) : (pure a : Edit σ α) s = .ok a s :=
  rfl

theorem throw_apply (e : PolicyError) (s : σ) : (throw e : Edit σ α) s = .error e s :=
  rfl

theorem get_apply (s : σ) : (get : Edit σ σ) s = .ok s s :=
  rfl

theorem set_apply (s s' : σ) : (set s' : Edit σ PUnit) s = .ok () s' :=
  rfl

theorem bind_eq_ok {x : Edit σ α} {f : α → Edit σ β} {s s' : σ} {b : β} :
    (x >>= f) s = .ok b s' ↔ ∃ a s₁, x s = .ok a s₁ ∧ f a s₁ = .ok b s' := by
  simp only [bind, EStateM.bind]
  cases x s with
  | error e s₁ => simp
  | ok a s₁ => simp

/-- After the edit, if it succeeds, a property holds that holds before. -/
def Keeps (P : σ → Prop) (x : Edit σ α) : Prop :=
  ∀ ⦃s a s'⦄, P s → x s = .ok a s' → P s'

theorem keeps_pure (a : α) : Keeps P (pure a : Edit σ α) := by
  intro s _ _ hs h
  cases h
  exact hs

theorem keeps_throw (e : PolicyError) : Keeps P (throw e : Edit σ α) := by
  intro _ _ _ _ h
  cases h

theorem keeps_ofExcept (r : Except PolicyError α) : Keeps P (ofExcept r : Edit σ α) := by
  cases r with
  | ok a => exact keeps_pure a
  | error e => exact keeps_throw e

theorem ofExcept_ok_bind (a : α) (f : α → Edit σ β) : (ofExcept (.ok a) >>= f) = f a :=
  rfl

theorem ofExcept_bind_eq_ok {r : Except PolicyError α} {f : α → Edit σ β} {s s' : σ} {b : β} :
    (ofExcept r >>= f) s = .ok b s' ↔ ∃ a, r = .ok a ∧ f a s = .ok b s' := by
  cases r with
  | error e => simp [ofExcept, bind, EStateM.bind, throw_apply]
  | ok a => simp [ofExcept_ok_bind]

/-- An edit that depends on a result keeps a property if it does so whenever there is a result. -/
theorem keeps_bind_ofExcept {r : Except PolicyError α} {f : α → Edit σ β}
    (hf : ∀ a, r = .ok a → Keeps P (f a)) : Keeps P (ofExcept r >>= f) := by
  intro s b s' hs h
  obtain ⟨a, hr, h⟩ := ofExcept_bind_eq_ok.1 h
  exact hf a hr hs h

theorem keeps_get : Keeps P (get : Edit σ σ) := by
  intro s _ _ hs h
  cases h
  exact hs

theorem Keeps.bind {x : Edit σ α} {f : α → Edit σ β} (hx : Keeps P x) (hf : ∀ a, Keeps P (f a)) :
    Keeps P (x >>= f) := by
  intro s b s' hs h
  obtain ⟨a, s₁, hfirst, h⟩ := bind_eq_ok.1 h
  exact hf a (hx hs hfirst) h

theorem Keeps.discard {x : Edit σ α} (hx : Keeps P x) : Keeps P (discard x) := by
  intro s _ s' hs h
  change EStateM.map _ x s = _ at h
  rw [EStateM.map] at h
  split at h
  · next a s₁ hfirst =>
    cases h
    exact hx hs hfirst
  · cases h

end Edit

/-! ### Files -/

/-- The printer of a file. -/
def PolicyFile.printer (f : PolicyFile) : Printer where
  source := f.source.toList

/-- The file with other definitions, which has to be written. -/
def PolicyFile.withDefinitions (f : PolicyFile) (ds : List Definition) : PolicyFile :=
  { f with forest := { f.forest with definitions := ds }, dirty := true }

namespace Repository

/-! ### Loading -/

theorem forall_putFile {P : PolicyFile → Prop} {file : PolicyFile} {fs : List PolicyFile}
    (hfile : P file) (h : ∀ f ∈ fs, P f) : ∀ f ∈ putFile file fs, P f := by
  induction fs with
  | nil => simpa [putFile] using hfile
  | cons f fs ih =>
    rw [List.forall_mem_cons] at h
    rw [putFile]
    split
    · exact List.forall_mem_cons.2 ⟨hfile, h.2⟩
    · exact List.forall_mem_cons.2 ⟨h.1, ih h.2⟩

theorem addFile_eq_ok {repo repo' : Repository} {path : Path} {source : String} :
    repo.addFile path source = .ok repo' ↔ ∃ forest, parseFile source path.text = .ok forest ∧
      repo' =
        { repo with
          index := extendIndex repo.index path forest.definitions
          files := putFile { path, source, forest } repo.files } := by
  rw [addFile]
  cases parseFile source path.text with
  | error e => simp [bind, Except.bind]
  | ok forest =>
    simp only [bind, Except.bind, pure, Except.pure, Except.ok.injEq]
    constructor
    · intro h
      exact ⟨forest, rfl, h.symm⟩
    · rintro ⟨_, rfl, rfl⟩
      rfl

theorem addFiles_cons_eq_ok {repo repo' : Repository} {path : Path} {source : String}
    {files : List (Path × String)} :
    repo.addFiles ((path, source) :: files) = .ok repo' ↔
      ∃ repo₁, repo.addFile path source = .ok repo₁ ∧ repo₁.addFiles files = .ok repo' := by
  rw [addFiles]
  cases repo.addFile path source <;> simp [bind, Except.bind]

/-- What every file that is read keeps holds of a repository that gets further files. -/
theorem addFiles_induction {P : Repository → Prop} {files : List (Path × String)}
    {repo repo' : Repository}
    (hadd : ∀ path source repo repo', (path, source) ∈ files → P repo →
      repo.addFile path source = .ok repo' → P repo')
    (hrepo : P repo) (h : repo.addFiles files = .ok repo') : P repo' := by
  induction files generalizing repo with
  | nil =>
    cases h
    exact hrepo
  | cons file files ih =>
    obtain ⟨path, source⟩ := file
    obtain ⟨repo₁, hfile, h⟩ := addFiles_cons_eq_ok.1 h
    exact ih (fun _ _ _ _ hmem => hadd _ _ _ _ (List.mem_cons_of_mem _ hmem))
      (hadd _ _ _ _ List.mem_cons_self hrepo hfile) h

theorem root_of_addFiles {files : List (Path × String)} {repo repo' : Repository}
    (h : repo.addFiles files = .ok repo') : repo'.root = repo.root := by
  refine addFiles_induction (P := (·.root = repo.root)) (fun path source r r' _ hroot hadd => ?_)
    rfl h
  obtain ⟨forest, -, rfl⟩ := addFile_eq_ok.1 hadd
  exact hroot

/-- What holds of every file that is read holds of the files of a repository that gets further
files. -/
theorem forall_addFiles {P : PolicyFile → Prop} {files : List (Path × String)}
    {repo repo' : Repository}
    (hread : ∀ path source forest, (path, source) ∈ files →
      parseFile source path.text = .ok forest → P { path, source, forest })
    (hrepo : ∀ f ∈ repo.files, P f) (h : repo.addFiles files = .ok repo') :
    ∀ f ∈ repo'.files, P f := by
  refine addFiles_induction (P := fun r => ∀ f ∈ r.files, P f)
    (fun path source r r' hmem hfiles hadd => ?_) hrepo h
  obtain ⟨forest, hparse, rfl⟩ := addFile_eq_ok.1 hadd
  exact forall_putFile (hread _ _ _ hmem hparse) hfiles

/-- What holds of every file that is read holds of every file of a repository. -/
theorem forall_ofSources {P : PolicyFile → Prop} {root : Path} {files : List (Path × String)}
    {repo : Repository}
    (hread : ∀ path source forest, (path, source) ∈ files →
      parseFile source path.text = .ok forest → P { path, source, forest })
    (h : ofSources root files = .ok repo) : ∀ f ∈ repo.files, P f :=
  forall_addFiles hread (by simp) h

/-! ### Creating -/

/-- A definition is created if its file lies below the root and its name is not known. -/
theorem create_eq_ok {path : Path} {d : Definition} {repo repo' : Repository} :
    create path d repo = .ok () repo' ↔
      path.isInside = true ∧ repo.contains d.name = false ∧
        repo' =
          { repo with
            files := insertAt path d repo.files
            index := repo.index ++ [(d.name, path)] } := by
  simp only [create, bind, EStateM.bind, Edit.get_apply]
  cases path.isInside with
  | false => simp [Edit.throw_apply]
  | true =>
    cases repo.contains d.name with
    | true => simp [Edit.throw_apply]
    | false => simp [Edit.set_apply, eq_comm]

theorem forall_insertAt {P : PolicyFile → Prop} {path : Path} {d : Definition}
    {fs : List PolicyFile} (hnew : P (insertInto d { path }))
    (hstep : ∀ f ∈ fs, P (insertInto d f)) (h : ∀ f ∈ fs, P f) : ∀ f ∈ insertAt path d fs, P f := by
  induction fs with
  | nil => simpa [insertAt] using hnew
  | cons f fs ih =>
    rw [List.forall_mem_cons] at h hstep
    rw [insertAt]
    split
    · exact List.forall_mem_cons.2 ⟨hstep.1, h.2⟩
    · exact List.forall_mem_cons.2 ⟨h.1, ih hstep.2 h.2⟩

/-! ### Editing in place -/

theorem editPath_ok {α : Type} {path : Path} {name : String} {edit : Edit PolicyFile α}
    {fs fs' : List PolicyFile} {a : α} (h : editPath path name edit fs = .ok a fs') :
    ∃ front f f' back, fs = front ++ f :: back ∧ edit f = .ok a f' ∧ fs' = front ++ f' :: back := by
  induction fs generalizing fs' with
  | nil => cases h
  | cons f fs ih =>
    rw [editPath] at h
    split at h
    · split at h
      · next hedit =>
        cases h
        exact ⟨[], f, _, fs, rfl, hedit, rfl⟩
      · cases h
    · split at h
      · next hrest =>
        cases h
        obtain ⟨front, g, g', back, rfl, hedit, rfl⟩ := ih hrest
        exact ⟨f :: front, g, g', back, rfl, hedit, rfl⟩
      · cases h

theorem editDefinitions_ok {α : Type} {edit : Edit (List Definition) α} {f f' : PolicyFile} {a : α}
    (h : editDefinitions edit f = .ok a f') :
    ∃ ds, edit f.forest.definitions = .ok a ds ∧ f' = f.withDefinitions ds := by
  rw [editDefinitions] at h
  split at h
  · next ds hedit =>
    cases h
    exact ⟨ds, hedit, rfl⟩
  · cases h

/-- The definitions of a name are edited in the file that the index tells. -/
theorem editHolder_eq_ok {α : Type} {name : String} {edit : Edit (List Definition) α}
    {repo repo' : Repository} {a : α} :
    editHolder name edit repo = .ok a repo' ↔ ∃ path fs, repo.location? name = some path ∧
      editPath path name (editDefinitions edit) repo.files = .ok a fs ∧
        repo' = { repo with files := fs } := by
  simp only [editHolder, bind, EStateM.bind, Edit.get_apply]
  cases repo.location? name with
  | none => simp [Edit.throw_apply]
  | some path =>
    simp only [Edit.focus, Option.some.injEq, exists_and_left, exists_eq_left']
    cases editPath path name (editDefinitions edit) repo.files with
    | error e fs => simp
    | ok b fs => simp [and_assoc, eq_comm]

/-- An edit of the definitions of the file that holds a name replaces the definitions of one
file. -/
theorem editHolder_ok {α : Type} {name : String} {edit : Edit (List Definition) α}
    {repo repo' : Repository} {a : α} (h : editHolder name edit repo = .ok a repo') :
    ∃ front f back ds, repo.files = front ++ f :: back ∧ edit f.forest.definitions = .ok a ds ∧
      repo' = { repo with files := front ++ f.withDefinitions ds :: back } := by
  obtain ⟨path, fs, -, hfiles, rfl⟩ := editHolder_eq_ok.1 h
  obtain ⟨front, f, f', back, hmem, hedit, rfl⟩ := editPath_ok hfiles
  obtain ⟨ds, hds, rfl⟩ := editDefinitions_ok hedit
  exact ⟨front, f, back, ds, hmem, hds, rfl⟩

theorem removeNamed_eq_ok {name : String} {ds ds' : List Definition} {d : Definition} :
    removeNamed name ds = .ok d ds' ↔
      ds.find? (·.name == name) = some d ∧ ds' = ds.eraseP (·.name == name) := by
  rw [removeNamed]
  cases ds.find? (·.name == name) with
  | none => simp
  | some d' => simp [eq_comm]

/-- A definition is removed from its file, and its name from the index. -/
theorem delete_eq_ok {name : String} {repo repo' : Repository} {d : Definition} :
    delete name repo = .ok d repo' ↔
      ∃ repo₁, editHolder name (removeNamed name) repo = .ok d repo₁ ∧
        repo' = { repo₁ with index := repo₁.index.filter (·.1 != name) } := by
  rw [delete, Edit.bind_eq_ok]
  constructor
  · rintro ⟨d', repo₁, hedit, ⟨⟩⟩
    exact ⟨repo₁, hedit, rfl⟩
  · rintro ⟨repo₁, hedit, rfl⟩
    exact ⟨d, repo₁, hedit, rfl⟩

/-- A definition is removed from one file, and its name from the index. -/
theorem delete_ok {name : String} {repo repo' : Repository} {d : Definition}
    (h : delete name repo = .ok d repo') :
    ∃ front f back, repo.files = front ++ f :: back ∧
      f.forest.definitions.find? (·.name == name) = some d ∧
      repo' =
        { repo with
          files := front ++ f.withDefinitions (f.forest.definitions.eraseP (·.name == name)) :: back
          index := repo.index.filter (·.1 != name) } := by
  obtain ⟨repo₁, hedit, rfl⟩ := delete_eq_ok.1 h
  obtain ⟨front, f, back, ds, hmem, hremove, rfl⟩ := editHolder_ok hedit
  obtain ⟨hfind, rfl⟩ := removeNamed_eq_ok.1 hremove
  exact ⟨front, f, back, hmem, hfind, rfl⟩

end Repository

end PolicyEditor
