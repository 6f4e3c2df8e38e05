import PolicyEditor.Proofs.Layout.Sourceless
import PolicyEditor.Proofs.Repository.Creation
import PolicyEditor.Proofs.Repository.Faithful
import PolicyEditor.Proofs.Repository.Index

/-!
# Moving definitions

A definition is moved by deleting it and creating it again.  It takes its layouts along, which are
positions in the file it was read from.  So a definition can be created again in that file, at
whatever place, and a definition without layouts can be created anywhere.  But in another file the
positions of a definition that was read are those of other texts, and in a new file there is
nothing at them, so that the definition is lost.

## Main definitions

* `Repository.IsHome` : the file that holds a definition according to the index.
* `Repository.Evolves` : a definition is created, deleted, put back or edited.

## Main results

* `Repository.anchored_of_evolves` : the files stay anchored.
* `reparse_iff_of_move` : a definition that is put back, or has no layouts, is read again from its
  file unless something in the file is lost.
* `definitions_eq_nil_of_create` : a definition that was read is lost in a new file.
-/

namespace PolicyEditor

open Text

/-! ### Anchored files -/

namespace PolicyFile

variable {f : PolicyFile}

/-- A file stays anchored if a list in one of its definitions changes. -/
theorem Anchored.changes {forest : Forest} {dirty : Bool} (h : f.Anchored)
    (hchanges : f.forest.Changes (.keeping f.printer) forest) :
    Anchored { f with forest, dirty } := by
  have hsound := hchanges.sound (ListEdit.keeping_keeps f.printer) h.sound
  have hlayouts := hchanges.layouts_eq
  have hframe : forest.frame = f.forest.frame := by
    obtain ⟨-, -⟩ := hchanges
    rfl
  refine ⟨hsound, fun frame hmem => h.front frame (hframe ▸ hmem), fun hopen => ?_⟩
  obtain ⟨hsome, hnew⟩ := h.opened hopen
  refine ⟨hframe.symm ▸ hsome, fun d hd => ?_⟩
  have hlayout : d.layout ∈ f.forest.definitions.map (·.layout) :=
    hlayouts ▸ List.mem_map_of_mem hd
  obtain ⟨e, he, heq⟩ := List.mem_map.1 hlayout
  rw [← heq, hnew e he]

/-- An anchored file is intact if all its definitions are and none stands behind an open comment. -/
theorem Anchored.intact_iff (h : f.Anchored) :
    f.forest.intact f.printer = true ↔
      (IsOpenComment f.source.toList → f.forest.definitions = []) ∧
        ∀ d ∈ f.forest.definitions, d.intact f.printer = true := by
  by_cases hintact : ∀ d ∈ f.forest.definitions, d.intact f.printer = true
  · have hsettled : f.Settled := ⟨h.sound, hintact, h.front, h.opened⟩
    rw [hsettled.intact_iff]
    exact (and_iff_left hintact).symm
  · refine iff_of_false (fun hforest => hintact ?_) fun hboth => hintact hboth.2
    rw [Forest.intact, Bool.and_eq_true, List.all_eq_true] at hforest
    exact hforest.1

/-- An anchored file is read again if all its definitions are intact and none stands behind an open
comment. -/
theorem Anchored.reparse_iff (h : f.Anchored) (file : String) :
    (∃ g, parseFile f.render file = .ok g ∧
      g.content = f.forest.definitions.map Definition.printed) ↔
      (IsOpenComment f.source.toList → f.forest.definitions = []) ∧
        ∀ d ∈ f.forest.definitions, d.intact f.printer = true := by
  rw [← h.intact_iff]
  exact h.sound.parseFile_iff

end PolicyFile

namespace Repository

variable {repo repo₁ repo₂ : Repository} {name : String} {path : Path} {d : Definition}

/-! ### Files of deleted and created definitions -/

/-- The file `path` holds the definition `name`, according to the index. -/
def IsHome (repo : Repository) (name : String) (path : Path) : Prop :=
  ∃ home, repo.location? name = some home ∧ home.same path = true

theorem file?_congr {path path' : Path} (h : path.same path' = true) :
    repo.file? path = repo.file? path' := by
  simp only [file?, Path.same, Path.same_iff.1 h]

/-- An edit that keeps the path of a file is done on the file that is found at the path. -/
theorem file_of_editPath {α : Type} {edit : Edit PolicyFile α} {fs fs' : List PolicyFile} {a : α}
    (hedit : ∀ f f', edit f = .ok a f' → f'.path = f.path)
    (h : editPath path name edit fs = .ok a fs') :
    ∃ f f', fs.find? (·.path.same path) = some f ∧ edit f = .ok a f' ∧
      fs'.find? (·.path.same path) = some f' := by
  induction fs generalizing fs' with
  | nil => cases h
  | cons f fs ih =>
    rw [editPath] at h
    split at h
    · next hsame =>
      split at h
      · next f' hf' =>
        cases h
        have hsame' : f'.path.same path = true := hedit f f' hf' ▸ hsame
        exact ⟨f, f', find?_cons_of_same hsame fs, hf', find?_cons_of_same hsame' fs⟩
      · cases h
    · next hsame =>
      split at h
      · next hrest =>
        cases h
        rw [find?_cons_of_not_same hsame, find?_cons_of_not_same hsame]
        exact ih hrest
      · cases h

/-- A definition is deleted from the file that holds it according to the index. -/
theorem file_of_delete (h : repo.delete name = .ok d repo₁) :
    ∃ home f, repo.location? name = some home ∧ repo.file? home = some f ∧
      f.forest.definitions.find? (·.name == name) = some d ∧
      repo₁.file? home =
        some (f.withDefinitions (f.forest.definitions.eraseP (·.name == name))) := by
  obtain ⟨repo', hedit, rfl⟩ := delete_eq_ok.1 h
  obtain ⟨home, fs, hlocation, hfiles, rfl⟩ := editHolder_eq_ok.1 hedit
  have hpath (f f' : PolicyFile) (hf : editDefinitions (removeNamed name) f = .ok d f') :
      f'.path = f.path := by
    obtain ⟨ds, -, rfl⟩ := editDefinitions_ok hf
    rfl
  obtain ⟨f, f', hf, hremove, hf'⟩ := file_of_editPath hpath hfiles
  obtain ⟨ds, hds, rfl⟩ := editDefinitions_ok hremove
  obtain ⟨hfind, rfl⟩ := removeNamed_eq_ok.1 hds
  exact ⟨home, f, hlocation, hf, hfind, hf'⟩

/-- A definition that is created comes to the file that is found at the path. -/
theorem file_of_create (h : repo.create path d = .ok () repo₁) :
    repo₁.file? path = some (insertInto d ((repo.file? path).getD { path })) := by
  obtain ⟨-, -, rfl⟩ := create_eq_ok.1 h
  exact find?_insertAt path d repo.files

/-- The other files stay when a definition is created. -/
theorem mem_insertAt {f : PolicyFile} {fs : List PolicyFile} (h : f ∈ insertAt path d fs) :
    f ∈ fs ∨ (insertAt path d fs).find? (·.path.same path) = some f := by
  induction fs with
  | nil =>
    obtain rfl := List.mem_singleton.1 h
    exact .inr (find?_insertAt path d [])
  | cons g fs ih =>
    rw [insertAt] at h ⊢
    split at h
    · next hsame =>
      rw [if_pos hsame]
      rcases List.mem_cons.1 h with rfl | hmem
      · exact .inr (find?_cons_of_same (f := insertInto d g) hsame fs)
      · exact .inl (List.mem_cons_of_mem g hmem)
    · next hsame =>
      rw [if_neg hsame, find?_cons_of_not_same hsame]
      rcases List.mem_cons.1 h with rfl | hmem
      · exact .inl List.mem_cons_self
      · exact (ih hmem).imp_left (List.mem_cons_of_mem g)

theorem mem_insertDefinition {e : Definition} {ds : List Definition} :
    e ∈ insertDefinition d ds ↔ e = d ∨ e ∈ ds :=
  (List.perm_insertIdx d _ (insertionIndex_le d ds)).mem_iff.trans List.mem_cons

/-- A definition that is put back comes to the file that held it. -/
theorem file_of_move_home (hdelete : repo.delete name = .ok d repo₁)
    (hcreate : repo₁.create path d = .ok () repo₂) (hhome : repo.IsHome name path) :
    ∃ f ∈ repo.files, d ∈ f.forest.definitions ∧ repo₂.file? path =
      some (f.withDefinitions
        (insertDefinition d (f.forest.definitions.eraseP (·.name == name)))) := by
  obtain ⟨home, hlocation, hsame⟩ := hhome
  obtain ⟨home', f, hlocation', hf, hfind, hf'⟩ := file_of_delete hdelete
  obtain rfl : home = home' := Option.some.inj (hlocation.symm.trans hlocation')
  rw [file?_congr hsame] at hf'
  refine ⟨f, (file?_eq_some hf).1, List.mem_of_find?_eq_some hfind, ?_⟩
  rw [file_of_create hcreate, hf']
  rfl

/-! ### What happens to a repository -/

/-- A definition of a text is created, a definition is deleted, a definition is created again in
the file that held it, or anywhere if it has no layouts, or a list in a definition changes. -/
inductive Evolves (repo : Repository) : Repository → Prop
  | catalogue {repo' : Repository} (h : repo.Catalogues repo') : Evolves repo repo'
  | move {name : String} {path : Path} {d : Definition} {repo₁ repo₂ : Repository}
    (hdelete : repo.delete name = .ok d repo₁) (hcreate : repo₁.create path d = .ok () repo₂)
    (hplace : d.detach = d ∨ repo.IsHome name path) : Evolves repo repo₂
  | change {front back : List PolicyFile} {f : PolicyFile} {forest : Forest} {dirty : Bool}
    (hfiles : repo.files = front ++ f :: back)
    (hchanges : f.forest.Changes (.keeping f.printer) forest) :
    Evolves repo { repo with files := front ++ { f with forest, dirty } :: back }

theorem Catalogues.anchored (h : repo.Catalogues repo₁) (hrepo : ∀ f ∈ repo.files, f.Anchored) :
    ∀ f ∈ repo₁.files, f.Anchored :=
  h.forall_files (fun path => (PolicyFile.settled_new path).anchored)
    (fun f _ hf hds => hf.withDefinitions fun d hd =>
      (hds d hd).imp_right fun hnew => ⟨hnew.1, (hnew.2 f.printer).1⟩) hrepo

/-- What holds of new files, and goes on holding when definitions with the property `Q` come to a
file and others go, holds of the file of a definition that is put back.  It holds of the file of a
definition without layouts if such definitions have the property everywhere. -/
theorem exists_file_of_move {P : PolicyFile → Prop} {Q : Printer → Definition → Prop}
    (hnew : ∀ path, P { path })
    (hstep : ∀ f ds, P f → (∀ e ∈ ds, e ∈ f.forest.definitions ∨
      e.layout = {} ∧ Q f.printer e) → P (f.withDefinitions ds))
    (hdetach : ∀ f, P f → ∀ e ∈ f.forest.definitions, ∀ p, Q p e.detach)
    (hrepo : ∀ f ∈ repo.files, P f) (hdelete : repo.delete name = .ok d repo₁)
    (hcreate : repo₁.create path d = .ok () repo₂)
    (hplace : d.detach = d ∨ repo.IsHome name path) :
    ∃ f, repo₂.file? path = some f ∧ d ∈ f.forest.definitions ∧ P f := by
  rcases hplace with hdetached | hhome
  · obtain ⟨home, h, -, hfile, hfind, -⟩ := file_of_delete hdelete
    have hd (p : Printer) : Q p d := hdetached ▸
      hdetach h (hrepo h (file?_eq_some hfile).1) d (List.mem_of_find?_eq_some hfind) p
    have hlayout : d.layout = {} := by
      rw [← hdetached]
      rfl
    have htarget : P ((repo₁.file? path).getD { path }) := by
      cases hcase : repo₁.file? path with
      | none => exact hnew path
      | some f =>
        have herase (g : PolicyFile) (ds : List Definition) (hg : P g)
            (hds : ∀ e ∈ ds, e ∈ g.forest.definitions) : P (g.withDefinitions ds) :=
          hstep g ds hg fun e he => .inl (hds e he)
        exact forall_delete hdelete herase hrepo f (file?_eq_some hcase).1
    refine ⟨_, file_of_create hcreate, mem_insertDefinition.2 (.inl rfl),
      hstep _ _ htarget fun e he => ?_⟩
    rcases mem_insertDefinition.1 he with rfl | he
    · exact .inr ⟨hlayout, hd _⟩
    · exact .inl he
  · obtain ⟨f, hf, hd, hfile⟩ := file_of_move_home hdelete hcreate hhome
    refine ⟨_, hfile, mem_insertDefinition.2 (.inl rfl),
      hstep f _ (hrepo f hf) fun e he => .inl ?_⟩
    rcases mem_insertDefinition.1 he with rfl | he
    · exact hd
    · exact List.mem_of_mem_eraseP he

/-- A definition that is put back, or has no layouts, keeps its file anchored. -/
theorem anchored_of_move (hrepo : ∀ f ∈ repo.files, f.Anchored)
    (hdelete : repo.delete name = .ok d repo₁) (hcreate : repo₁.create path d = .ok () repo₂)
    (hplace : d.detach = d ∨ repo.IsHome name path) :
    ∃ f, repo₂.file? path = some f ∧ d ∈ f.forest.definitions ∧ f.Anchored :=
  exists_file_of_move (Q := fun p e => e.Sound p)
    (fun path => (PolicyFile.settled_new path).anchored) (fun _ _ hf => hf.withDefinitions)
    (fun _ hf e he _ => (hf.sound.definitions e he).2.detach) hrepo hdelete hcreate hplace

/-- A definition that is put back, or has no layouts, keeps its file settled. -/
theorem settled_of_move (hrepo : ∀ f ∈ repo.files, f.Settled)
    (hdelete : repo.delete name = .ok d repo₁) (hcreate : repo₁.create path d = .ok () repo₂)
    (hplace : d.detach = d ∨ repo.IsHome name path) :
    ∃ f, repo₂.file? path = some f ∧ d ∈ f.forest.definitions ∧ f.Settled :=
  exists_file_of_move (Q := fun p e => e.Sound p ∧ e.intact p = true) PolicyFile.settled_new
    (fun _ _ hf => hf.withDefinitions)
    (fun _ hf e he _ =>
      ⟨(hf.sound.definitions e he).2.detach, Definition.intact_detach (hf.intact e he)⟩)
    hrepo hdelete hcreate hplace

/-- One step keeps all files anchored. -/
theorem Evolves.anchored (h : repo.Evolves repo₁) (hrepo : ∀ f ∈ repo.files, f.Anchored) :
    ∀ f ∈ repo₁.files, f.Anchored := by
  cases h with
  | catalogue h => exact h.anchored hrepo
  | @move name path d repo₁ repo₂ hdelete hcreate hplace =>
    obtain ⟨g, hg, -, hanchored⟩ := anchored_of_move hrepo hdelete hcreate hplace
    intro f hf
    obtain ⟨-, -, rfl⟩ := create_eq_ok.1 hcreate
    rcases mem_insertAt hf with hmem | hfound
    · exact Catalogues.anchored (.delete hdelete) hrepo f hmem
    · obtain rfl : f = g := Option.some.inj (hfound.symm.trans hg)
      exact hanchored
  | change hfiles hchanges =>
    rw [hfiles, List.forall_mem_append, List.forall_mem_cons] at hrepo
    rw [List.forall_mem_append, List.forall_mem_cons]
    exact ⟨hrepo.1, hrepo.2.1.changes hchanges, hrepo.2.2⟩

/-- Files that were read stay anchored. -/
theorem anchored_of_evolves {root : Path} {files : List (Path × String)}
    (h : ofSources root files = .ok repo) (hsteps : Relation.ReflTransGen Evolves repo repo₁) :
    ∀ f ∈ repo₁.files, f.Anchored := by
  induction hsteps with
  | refl =>
    exact forall_ofSources (fun _ _ _ _ h => (PolicyFile.settled_of_parseFile h).anchored) h
  | tail _ hstep ih => exact hstep.anchored ih

end Repository

/-! ### Definitions that are moved -/

section Moves

variable {root : Path} {files : List (Path × String)} {loaded repo repo₁ repo₂ : Repository}
  {name : String} {path : Path} {d : Definition}

/-- A definition that is put back into its file, or that has no layouts, is read again, with all
definitions of the file in their order, if and only if the definitions are intact and the source
of the file is no open comment. -/
theorem reparse_iff_of_move (h : Repository.ofSources root files = .ok loaded)
    (hsteps : Relation.ReflTransGen Repository.Evolves loaded repo)
    (hdelete : repo.delete name = .ok d repo₁) (hcreate : repo₁.create path d = .ok () repo₂)
    (hplace : d.detach = d ∨ repo.IsHome name path)
    (hdescribed : d.layout.span = none →
      ∀ text ∈ d.body.description, rereadDescription text = text) (file : String) :
    ∃ f, repo₂.file? path = some f ∧ d ∈ f.forest.definitions ∧
      ((∃ g, parseFile f.render file = .ok g ∧ d.detach ∈ g.content ∧
        g.content = f.forest.definitions.map Definition.printed) ↔
        ¬ IsOpenComment f.source.toList ∧
          ∀ e ∈ f.forest.definitions, e.intact f.printer = true) := by
  obtain ⟨f, hf, hd, hanchored⟩ := Repository.anchored_of_move
    (Repository.anchored_of_evolves h hsteps) hdelete hcreate hplace
  refine ⟨f, hf, hd, ?_⟩
  have hprinted : d.printed = d.detach := Definition.printed_eq_detach hdescribed
  have hne : f.forest.definitions ≠ [] := List.ne_nil_of_mem hd
  have hreparse := hanchored.reparse_iff file
  simp only [hne, imp_false] at hreparse
  rw [← hreparse]
  constructor
  · rintro ⟨g, hparse, -, hcontent⟩
    exact ⟨g, hparse, hcontent⟩
  · rintro ⟨g, hparse, hcontent⟩
    exact ⟨g, hparse, hcontent ▸ hprinted ▸ List.mem_map_of_mem hd, hcontent⟩

end Moves

/-! ### An owner that is moved -/

/-- Two owners in one file. -/
def ownersFile : List (Path × String) :=
  [(⟨"a"⟩, "owner:x = \x7b\n admins = b;\n\x7d\n\nowner:y = \x7b\n\x7d\n")]

/-- After the other owner is deleted, an owner that is put back is read again. -/
theorem reparse_put_back :
    ∃ loaded repo repo₁ repo₂ d e f, Repository.ofSources ⟨"policy"⟩ ownersFile = .ok loaded ∧
      loaded.delete "owner:y" = .ok e repo ∧ repo.delete "owner:x" = .ok d repo₁ ∧
      repo₁.create ⟨"a"⟩ d = .ok () repo₂ ∧ repo₂.file? ⟨"a"⟩ = some f ∧
      ∃ g, parseFile f.render "a" = .ok g ∧ d.detach ∈ g.content := by
  obtain ⟨loaded, repo, repo₁, repo₂, d, e, f, hload, hother, hdelete, hcreate, hhome, hspan, hfile,
      hsource⟩ : ∃ loaded repo repo₁ repo₂ d e f,
      Repository.ofSources ⟨"policy"⟩ ownersFile = .ok loaded ∧
      loaded.delete "owner:y" = .ok e repo ∧ repo.delete "owner:x" = .ok d repo₁ ∧
      repo₁.create ⟨"a"⟩ d = .ok () repo₂ ∧ repo.location? "owner:x" = some ⟨"a"⟩ ∧
      d.layout.span.isSome = true ∧ repo₂.file? ⟨"a"⟩ = some f ∧
      isQuiet false f.source.toList = false :=
    ⟨_, _, _, _, _, _, _, rfl, rfl, rfl, rfl, rfl, rfl, rfl, rfl⟩
  refine ⟨loaded, repo, repo₁, repo₂, d, e, f, hload, hother, hdelete, hcreate, hfile, ?_⟩
  have hplace : d.detach = d ∨ repo.IsHome "owner:x" ⟨"a"⟩ := .inr ⟨_, hhome, Path.same_refl _⟩
  obtain ⟨f', hfile', -, hiff⟩ := reparse_iff_of_move hload
    (.single (.catalogue (.delete hother))) hdelete hcreate hplace
    (fun hnone => by rw [hnone] at hspan; cases hspan) "a"
  obtain rfl : f = f' := Option.some.inj (hfile.symm.trans hfile')
  obtain ⟨f', hfile', -, hsettled⟩ := Repository.settled_of_move
    (Repository.settled_of_catalogues hload (.single (.delete hother))) hdelete hcreate hplace
  obtain rfl : f = f' := Option.some.inj (hfile.symm.trans hfile')
  have hclosed : ¬ IsOpenComment f.source.toList := fun hopen => by
    rw [hopen.1] at hsource
    cases hsource
  obtain ⟨g, hparse, hmem, -⟩ := hiff.2 ⟨hclosed, hsettled.intact⟩
  exact ⟨g, hparse, hmem⟩

/-! ### New files -/

section New

variable {repo repo' : Repository} {path : Path} {d : Definition}

/-- A definition that was read is lost in a new file: its text has no definitions. -/
theorem definitions_eq_nil_of_create {source file : String} {forest : Forest}
    (hread : parseFile source file = .ok forest) (hd : d ∈ forest.definitions)
    (hnew : repo.file? path = none) (hcreate : repo.create path d = .ok () repo') :
    ∃ f, repo'.file? path = some f ∧ d ∈ f.forest.definitions ∧
      ∀ file' g, parseFile f.render file' = .ok g → g.definitions = [] := by
  have hfile := Repository.file_of_create hcreate
  rw [hnew, Option.getD_none] at hfile
  refine ⟨_, hfile, Repository.mem_insertDefinition.2 (.inl rfl), fun file' g hparse => ?_⟩
  have hparse := parse_of_parseFile hparse
  let q : Printer := { source := "".toList }
  have hrender :
      (Repository.insertInto d { path }).render.toList = q.definitionText d ++ ['\n'] := by
    have hforest : (Repository.insertInto d { path }).forest = { definitions := [d] } := rfl
    rw [PolicyFile.render, hforest, Forest.render, String.toList_ofList]
    show "\n\n".toList.intercalate [q.definitionText d] ++ ['\n'] = _
    rw [List.intercalate_singleton]
  rw [hrender] at hparse
  obtain ⟨frame, hplaced⟩ :=
    (Forest.parse_stands (p := { source := source.toList }) (parse_of_parseFile hread)).placed
  have hless := Definition.isWordless_of_placed (q := q) rfl d (hplaced.definitions d hd)
  exact Forest.definitions_eq_nil hparse (hless.append (.singleton (by decide)))

end New

/-- An owner that is moved to a new file is not read again from there. -/
theorem not_reparse_of_move :
    ∃ repo repo₁ repo₂ d f, Repository.ofSources ⟨"policy"⟩ ownersFile = .ok repo ∧
      repo.delete "owner:x" = .ok d repo₁ ∧ repo₁.create ⟨"c"⟩ d = .ok () repo₂ ∧
      repo₂.file? ⟨"c"⟩ = some f ∧
      ¬ ∃ g, parseFile f.render "c" = .ok g ∧ d.detach ∈ g.content := by
  obtain ⟨repo, repo₁, repo₂, d, forest, hload, hdelete, hcreate, hread, hd, hpaths⟩ :
      ∃ repo repo₁ repo₂ d forest, Repository.ofSources ⟨"policy"⟩ ownersFile = .ok repo ∧
      repo.delete "owner:x" = .ok d repo₁ ∧ repo₁.create ⟨"c"⟩ d = .ok () repo₂ ∧
      parseFile "owner:x = \x7b\n admins = b;\n\x7d\n\nowner:y = \x7b\n\x7d\n" "a" = .ok forest ∧
      d ∈ forest.definitions ∧ repo₁.files.map (·.path) = [⟨"a"⟩] :=
    ⟨_, _, _, _, _, rfl, rfl, rfl, rfl, .head _, rfl⟩
  have hnew : repo₁.file? ⟨"c"⟩ = none := by
    refine List.find?_eq_none.2 fun f hf => ?_
    have hpath : f.path ∈ repo₁.files.map (·.path) := List.mem_map_of_mem hf
    rw [hpaths, List.mem_singleton] at hpath
    rw [hpath]
    decide +kernel
  obtain ⟨f, hfile, -, hlost⟩ := definitions_eq_nil_of_create hread hd hnew hcreate
  refine ⟨repo, repo₁, repo₂, d, f, hload, hdelete, hcreate, hfile, ?_⟩
  rintro ⟨g, hparse, hmem⟩
  rw [Forest.content, hlost "c" g hparse] at hmem
  cases hmem

end PolicyEditor
