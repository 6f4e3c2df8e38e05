import Mathlib.Data.List.InsertIdx
import Mathlib.Data.List.Nodup
import Mathlib.Data.List.Pairwise
import Mathlib.Data.List.Lattice
import PolicyEditor.Proofs.Repository.Steps

/-!
# The index of names

The index of a repository tells the file of a name.  It is a second account of what the files hold,
and every step that adds or removes a definition updates both.  A creation needs a name that the
index does not know, and a deletion takes one definition from the files and the name from the index.

If the files define a name more than once, the two accounts part: the index knows the name at most
once, so that a deletion removes the name although other definitions of it stay.

## Main definitions

* `PolicyFile.names`, `Repository.names` : the names of all definitions.
* `Repository.Known` : the index knows all names of definitions.
* `Repository.Held` : the index names the files that hold the definitions.
* `Repository.Indexed` : both accounts agree.

## Main results

* `Repository.Step.names` : what a step does to the names and to the index.
* `Repository.Indexed.step` : the accounts agree after every step.
* `Repository.indexed_ofSources` : they agree if different files define different names.
-/

namespace PolicyEditor

namespace Path

theorem same_iff {p q : Path} : p.same q = true ↔ p.components = q.components :=
  beq_iff_eq

theorem same_refl (p : Path) : p.same p = true :=
  same_iff.2 rfl

end Path

/-- The names of the definitions of a file. -/
def PolicyFile.names (f : PolicyFile) : List String :=
  f.forest.definitions.map (·.name)

namespace Repository

/-- The names of all definitions in the order of files. -/
def names (repo : Repository) : List String :=
  repo.files.flatMap PolicyFile.names

theorem map_name_definitions (repo : Repository) :
    repo.definitions.map (·.name) = repo.names := by
  rw [definitions, List.map_flatMap]
  rfl

/-- The index knows the names of all definitions. -/
def Known (repo : Repository) : Prop :=
  ∀ f ∈ repo.files, ∀ name ∈ f.names, repo.contains name = true

/-- The file that the index tells of a name holds a definition of it. -/
def Held (repo : Repository) : Prop :=
  ∀ name path, repo.location? name = some path → ∃ f, repo.file? path = some f ∧ name ∈ f.names

/-- The index and the files tell the same, and no name has two definitions. -/
structure Indexed (repo : Repository) : Prop where
  nodup : repo.names.Nodup
  known : repo.Known
  held : repo.Held

variable {repo repo' : Repository} {creates : Path → Prop}

theorem known_iff : repo.Known ↔ ∀ name ∈ repo.names, repo.contains name = true :=
  List.forall_mem_flatMap.symm

theorem file?_eq_some {path : Path} {f : PolicyFile} (h : repo.file? path = some f) :
    f ∈ repo.files ∧ f.path.same path = true := by
  have hsame := List.find?_some h
  exact ⟨List.mem_of_find?_eq_some h, hsame⟩

theorem contains_eq_any (repo : Repository) (name : String) :
    repo.contains name = repo.index.any (·.1 == name) := by
  rw [Repository.contains, location?, Option.isSome_map, List.isSome_find?]

/-! ### Names of edited files -/

section Names

variable {d : Definition}

theorem insertionIndex_le (d : Definition) (ds : List Definition) :
    d.insertionIndex ds ≤ ds.length := by
  rw [Definition.insertionIndex]
  cases hindex : ds.findIdx? _ with
  | none => exact Nat.le_refl _
  | some i => exact Nat.le_of_lt (List.findIdx?_eq_some_iff_findIdx_eq.1 hindex).1

theorem names_insertInto (d : Definition) (f : PolicyFile) :
    (insertInto d f).names.Perm (d.name :: f.names) :=
  (List.perm_insertIdx d _ (insertionIndex_le d _)).map Definition.name

theorem names_insertAt (path : Path) (d : Definition) (fs : List PolicyFile) :
    ((insertAt path d fs).flatMap PolicyFile.names).Perm
      (d.name :: fs.flatMap PolicyFile.names) := by
  induction fs with
  | nil => exact .refl _
  | cons f fs ih =>
    rw [insertAt]
    split
    · exact (names_insertInto d f).append_right _
    · exact (ih.append_left f.names).trans List.perm_middle

theorem names_eraseP {name : String} {ds : List Definition}
    (h : ds.find? (·.name == name) = some d) :
    (ds.map (·.name)).Perm (name :: (ds.eraseP (·.name == name)).map (·.name)) := by
  obtain ⟨e, front, back, -, he, rfl, herase⟩ :=
    List.exists_of_eraseP (List.mem_of_find?_eq_some h) (List.find?_some h)
  obtain rfl : e.name = name := by simpa using he
  rw [herase]
  exact List.perm_middle.map Definition.name

theorem names_of_namesakes {ds ds' : List Definition}
    (h : List.Forall₂ Definition.Namesakes ds ds') : ds'.map (·.name) = ds.map (·.name) := by
  induction h with
  | nil => rfl
  | cons hd _ ih => rw [List.map_cons, List.map_cons, hd, ih]

end Names

/-! ### Names and steps -/

theorem names_create {path : Path} {d : Definition} (h : create path d repo = .ok () repo') :
    repo'.names.Perm (d.name :: repo.names) := by
  obtain ⟨-, -, rfl⟩ := create_eq_ok.1 h
  exact names_insertAt path d repo.files

theorem contains_create {path : Path} {d : Definition} (h : create path d repo = .ok () repo')
    (name : String) : repo'.contains name = (repo.contains name || d.name == name) := by
  obtain ⟨-, -, rfl⟩ := create_eq_ok.1 h
  simp only [contains_eq_any, List.any_append, List.any_cons, List.any_nil, Bool.or_false]

theorem names_delete {name : String} {d : Definition} (h : delete name repo = .ok d repo') :
    repo.names.Perm (name :: repo'.names) := by
  obtain ⟨front, f, back, hfiles, hfind, rfl⟩ := delete_ok h
  have hnames := (names_eraseP hfind).append_right (back.flatMap PolicyFile.names)
  simp only [names, hfiles, List.flatMap_append, List.flatMap_cons]
  exact (hnames.append_left _).trans List.perm_middle

theorem contains_delete {name : String} {d : Definition} (h : delete name repo = .ok d repo')
    (m : String) : repo'.contains m = (repo.contains m && m != name) := by
  obtain ⟨front, f, back, -, -, rfl⟩ := delete_ok h
  simp only [contains_eq_any, List.any_filter]
  rw [Bool.eq_iff_iff, Bool.and_eq_true, List.any_eq_true, List.any_eq_true]
  constructor
  · rintro ⟨e, he, hcond⟩
    rw [Bool.and_eq_true] at hcond
    obtain rfl : e.1 = m := by simpa using hcond.2
    exact ⟨⟨e, he, hcond.2⟩, hcond.1⟩
  · rintro ⟨⟨e, he, hname⟩, hne⟩
    obtain rfl : e.1 = m := by simpa using hname
    exact ⟨e, he, by rw [hne, hname, Bool.and_self]⟩

/-- Only a definition that the index knows is deleted. -/
theorem contains_of_delete {name : String} {d : Definition} (h : delete name repo = .ok d repo') :
    repo.contains name = true := by
  by_contra hnot
  have hnone : repo.location? name = none := by simpa [Repository.contains] using hnot
  simp only [delete, editHolder, bind, EStateM.bind, Edit.get_apply, hnone, Edit.throw_apply] at h
  cases h

theorem names_rework {files : List PolicyFile}
    (h : List.Forall₂ PolicyFile.Reworks repo.files files) :
    names { repo with files } = repo.names := by
  have hfiles {fs fs' : List PolicyFile} (h : List.Forall₂ PolicyFile.Reworks fs fs') :
      fs'.flatMap PolicyFile.names = fs.flatMap PolicyFile.names := by
    induction h with
    | nil => rfl
    | cons hf _ ih =>
      rw [List.flatMap_cons, List.flatMap_cons, ih, PolicyFile.names, PolicyFile.names,
        names_of_namesakes hf.definitions]
  exact hfiles h

/-- A step adds a definition and its name, or removes a definition and its name, or leaves all
names as they are. -/
theorem Step.names (h : repo.Step creates repo') :
    (∃ name, repo.contains name = false ∧ repo'.names.Perm (name :: repo.names) ∧
        ∀ m, repo'.contains m = (repo.contains m || name == m)) ∨
      (∃ name, repo.contains name = true ∧ repo.names.Perm (name :: repo'.names) ∧
        ∀ m, repo'.contains m = (repo.contains m && m != name)) ∨
      (repo'.names = repo.names ∧ ∀ m, repo'.contains m = repo.contains m) := by
  cases h with
  | create _ h => exact .inl ⟨_, (create_eq_ok.1 h).2.1, names_create h, contains_create h⟩
  | delete h => exact .inr (.inl ⟨_, contains_of_delete h, names_delete h, contains_delete h⟩)
  | rework h => exact .inr (.inr ⟨names_rework h, fun _ => rfl⟩)

/-! ### The files of names -/

section Held

variable {name : String}

/-- The file at the same path, which still has a definition of a name if it had one. -/
def KeepsName (name : String) (f f' : PolicyFile) : Prop :=
  f'.path = f.path ∧ (name ∈ f.names → name ∈ f'.names)

theorem keepsName_refl (f : PolicyFile) : KeepsName name f f :=
  ⟨rfl, id⟩

theorem forall₂_keepsName (fs : List PolicyFile) : List.Forall₂ (KeepsName name) fs fs :=
  List.forall₂_same.2 fun f _ => keepsName_refl f

/-- A file that holds a name is found where it was, if all files keep the name. -/
theorem find?_of_keepsName {fs fs' : List PolicyFile} {path : Path} {f : PolicyFile}
    (h : List.Forall₂ (KeepsName name) fs fs') (hf : fs.find? (·.path.same path) = some f)
    (hname : name ∈ f.names) :
    ∃ f', fs'.find? (·.path.same path) = some f' ∧ name ∈ f'.names := by
  induction h with
  | nil => cases hf
  | @cons g g' fs fs' hg _ ih =>
    rw [List.find?_cons] at hf
    rw [List.find?_cons, hg.1]
    cases hsame : g.path.same path with
    | true =>
      rw [hsame] at hf
      obtain rfl := Option.some.inj hf
      exact ⟨g', rfl, hg.2 hname⟩
    | false =>
      rw [hsame] at hf
      exact ih hf

theorem keepsName_insertInto (d : Definition) (f : PolicyFile) :
    KeepsName name f (insertInto d f) :=
  ⟨rfl, fun h => (names_insertInto d f).mem_iff.2 (List.mem_cons_of_mem _ h)⟩

theorem insertAt_eq_append (name : String) (path : Path) (d : Definition) (fs : List PolicyFile) :
    ∃ fs' more, insertAt path d fs = fs' ++ more ∧ List.Forall₂ (KeepsName name) fs fs' := by
  induction fs with
  | nil => exact ⟨[], _, rfl, .nil⟩
  | cons f fs ih =>
    rw [insertAt]
    split
    · exact ⟨insertInto d f :: fs, [], by simp,
        .cons (keepsName_insertInto d f) (forall₂_keepsName fs)⟩
    · obtain ⟨fs', more, heq, hall⟩ := ih
      exact ⟨f :: fs', more, by rw [heq, List.cons_append], .cons (keepsName_refl f) hall⟩

/-- Further files behind the others do not matter. -/
theorem find?_append_of_some {fs : List PolicyFile} {path : Path} (more : List PolicyFile)
    (h : ∃ f, fs.find? (·.path.same path) = some f ∧ name ∈ f.names) :
    ∃ f, (fs ++ more).find? (·.path.same path) = some f ∧ name ∈ f.names := by
  obtain ⟨f, hf, hname⟩ := h
  exact ⟨f, by rw [List.find?_append, hf, Option.some_or], hname⟩

theorem find?_cons_of_same {f : PolicyFile} {path : Path} (h : f.path.same path = true)
    (fs : List PolicyFile) : (f :: fs).find? (·.path.same path) = some f :=
  List.find?_cons_of_pos h

theorem find?_cons_of_not_same {f : PolicyFile} {path : Path} (h : ¬ f.path.same path = true)
    (fs : List PolicyFile) :
    (f :: fs).find? (·.path.same path) = fs.find? (·.path.same path) :=
  List.find?_cons_of_neg h

/-- The file that a definition is inserted into is found at its path. -/
theorem find?_insertAt (path : Path) (d : Definition) (fs : List PolicyFile) :
    (insertAt path d fs).find? (·.path.same path) =
      some (insertInto d ((fs.find? (·.path.same path)).getD { path })) := by
  induction fs with
  | nil => exact find?_cons_of_same (f := insertInto d { path }) path.same_refl []
  | cons f fs ih =>
    rw [insertAt]
    split
    · next hsame =>
      rw [find?_cons_of_same hsame]
      exact find?_cons_of_same (f := insertInto d f) hsame fs
    · next hsame => rw [find?_cons_of_not_same hsame, find?_cons_of_not_same hsame, ih]

/-- A name that the index knows keeps its file when a definition of another name is created. -/
theorem held_create {path : Path} {d : Definition} (h : create path d repo = .ok () repo')
    (hrepo : repo.Held) : repo'.Held := by
  obtain ⟨-, hnot, rfl⟩ := create_eq_ok.1 h
  intro name path' hlocation
  rw [location?, List.find?_append] at hlocation
  cases hknown : repo.index.find? (·.1 == name) with
  | some e =>
    rw [hknown, Option.some_or] at hlocation
    obtain ⟨f, hf, hname⟩ := hrepo name path' (by rw [location?, hknown, hlocation])
    obtain ⟨fs', more, hfiles, hall⟩ := insertAt_eq_append name path d repo.files
    rw [file?, hfiles]
    exact find?_append_of_some more (find?_of_keepsName hall hf hname)
  | none =>
    rw [hknown, Option.none_or, List.find?_singleton] at hlocation
    split at hlocation
    · next hname =>
      obtain rfl : d.name = name := by simpa using hname
      obtain rfl : path = path' := by simpa using hlocation
      exact ⟨_, find?_insertAt path d repo.files,
        (names_insertInto d _).mem_iff.2 List.mem_cons_self⟩
    · cases hlocation

/-- A name keeps its file when the definition of another name is deleted. -/
theorem held_delete {name : String} {d : Definition} (h : delete name repo = .ok d repo')
    (hrepo : repo.Held) : repo'.Held := by
  intro m path hlocation
  -- The deleted name has left the index, so that its file does not matter.
  have hne : m ≠ name := by
    rintro rfl
    have hcontains := contains_delete h m
    rw [Repository.contains, hlocation] at hcontains
    simp at hcontains
  obtain ⟨front, f, back, hfiles, -, rfl⟩ := delete_ok h
  have hbefore : repo.location? m = some path := by
    rw [location?, List.find?_filter] at hlocation
    rw [location?, ← hlocation]
    congr 2
    funext e
    by_cases he : e.1 = m <;> simp [he, hne]
  obtain ⟨g, hg, hname⟩ := hrepo m path hbefore
  have hkeeps : KeepsName m f
      (f.withDefinitions (f.forest.definitions.eraseP (·.name == name))) := by
    refine ⟨rfl, fun hmem => ?_⟩
    obtain ⟨e, he, rfl⟩ := List.mem_map.1 hmem
    exact List.mem_map_of_mem ((List.mem_eraseP_of_neg (by simpa using hne)).2 he)
  rw [file?, hfiles] at hg
  exact find?_of_keepsName
    (List.rel_append (forall₂_keepsName front) (.cons hkeeps (forall₂_keepsName back))) hg hname

theorem held_rework {files : List PolicyFile}
    (h : List.Forall₂ PolicyFile.Reworks repo.files files) (hrepo : repo.Held) :
    Held { repo with files } := by
  intro name path hlocation
  obtain ⟨f, hf, hname⟩ := hrepo name path hlocation
  have hall : List.Forall₂ (KeepsName name) repo.files files :=
    h.imp fun f f' hworks => ⟨hworks.path, fun hmem => by
      rwa [PolicyFile.names, names_of_namesakes hworks.definitions]⟩
  exact find?_of_keepsName hall hf hname

end Held

theorem Step.held (h : repo.Step creates repo') (hrepo : repo.Held) : repo'.Held := by
  cases h with
  | create _ h => exact held_create h hrepo
  | delete h => exact held_delete h hrepo
  | rework h => exact held_rework h hrepo

/-! ### The invariant -/

/-- A step keeps the index and the files in agreement. -/
theorem Indexed.step (hrepo : repo.Indexed) (h : repo.Step creates repo') : repo'.Indexed := by
  have hknown := known_iff.1 hrepo.known
  have hheld := h.held hrepo.held
  rcases h.names with ⟨name, hnot, hnames, hcontains⟩ | ⟨name, -, hnames, hcontains⟩ |
    ⟨hnames, hcontains⟩
  · have hfresh : name ∉ repo.names := fun hmem => by
      rw [hknown name hmem] at hnot
      cases hnot
    refine ⟨hnames.nodup_iff.2 (List.nodup_cons.2 ⟨hfresh, hrepo.nodup⟩),
      known_iff.2 fun m hm => ?_, hheld⟩
    rw [hcontains m, Bool.or_eq_true, beq_iff_eq]
    rcases List.mem_cons.1 (hnames.mem_iff.1 hm) with rfl | hm
    · exact .inr rfl
    · exact .inl (hknown m hm)
  · obtain ⟨hgone, hnodup⟩ := List.nodup_cons.1 (hnames.nodup_iff.1 hrepo.nodup)
    refine ⟨hnodup, known_iff.2 fun m hm => ?_, hheld⟩
    rw [hcontains m, Bool.and_eq_true, bne_iff_ne]
    refine ⟨hknown m (hnames.mem_iff.2 (List.mem_cons_of_mem _ hm)), ?_⟩
    rintro rfl
    exact hgone hm
  · refine ⟨hnames ▸ hrepo.nodup, known_iff.2 fun m hm => ?_, hheld⟩
    rw [hcontains m]
    exact hknown m (hnames ▸ hm)

theorem Indexed.steps (hrepo : repo.Indexed) (h : Steps creates repo repo') : repo'.Indexed := by
  induction h with
  | refl => exact hrepo
  | tail _ hstep ih => exact ih.step hstep

/-- The index knows exactly the names of the definitions. -/
theorem Indexed.contains_iff (h : repo.Indexed) {name : String} :
    repo.contains name = true ↔ name ∈ repo.names := by
  constructor
  · intro hcontains
    obtain ⟨path, hlocation⟩ := Option.isSome_iff_exists.1 hcontains
    obtain ⟨f, hf, hname⟩ := h.held name path hlocation
    exact List.mem_flatMap.2 ⟨f, (file?_eq_some hf).1, hname⟩
  · exact known_iff.1 h.known name

/-- Two files do not hold definitions of the same name. -/
theorem Indexed.eq_of_mem (h : repo.Indexed) {f g : PolicyFile} (hf : f ∈ repo.files)
    (hg : g ∈ repo.files) {name : String} (hname : name ∈ f.names) (hname' : name ∈ g.names) :
    f = g := by
  by_contra hne
  have hdisjoint := (List.nodup_flatMap.1 h.nodup).2
  have : Std.Symm (Function.onFun List.Disjoint PolicyFile.names) :=
    ⟨fun _ _ h => List.Disjoint.symm h⟩
  exact hdisjoint.forall hf hg hne hname hname'

/-- Every definition is the only one of its name, the index tells the path of its file, and it is
what is looked up. -/
theorem Indexed.lookup (h : repo.Indexed) {f : PolicyFile} (hf : f ∈ repo.files) {d : Definition}
    (hd : d ∈ f.forest.definitions) :
    repo.definitions.filter (·.name == d.name) = [d] ∧
      (∃ path, repo.location? d.name = some path ∧ f.path.same path = true) ∧
      repo.lookup d.name = .ok d := by
  have hname : d.name ∈ f.names := List.mem_map_of_mem hd
  have hnodup : (repo.definitions.map (·.name)).Nodup := repo.map_name_definitions ▸ h.nodup
  have hmem : d ∈ repo.definitions := List.mem_flatMap.2 ⟨f, hf, hd⟩
  obtain ⟨path, hlocation⟩ := Option.isSome_iff_exists.1
    (h.contains_iff.2 (List.mem_flatMap.2 ⟨f, hf, hname⟩))
  obtain ⟨g, hg, hname'⟩ := h.held d.name path hlocation
  obtain ⟨hmem', hsame⟩ := file?_eq_some hg
  obtain rfl := h.eq_of_mem hf hmem' hname hname'
  refine ⟨?_, ⟨path, hlocation, hsame⟩, ?_⟩
  · obtain ⟨front, back, hsplit⟩ := List.append_of_mem hmem
    rw [hsplit, List.map_append, List.map_cons, List.nodup_middle, List.nodup_cons,
      List.mem_append, not_or, List.mem_map, List.mem_map] at hnodup
    rw [hsplit, List.filter_append, List.filter_cons_of_pos (by simp)]
    have hfront : front.filter (·.name == d.name) = [] := by
      rw [List.filter_eq_nil_iff]
      exact fun e he hsame => hnodup.1.1 ⟨e, he, by simpa using hsame⟩
    have hback : back.filter (·.name == d.name) = [] := by
      rw [List.filter_eq_nil_iff]
      exact fun e he hsame => hnodup.1.2 ⟨e, he, by simpa using hsame⟩
    rw [hfront, hback, List.nil_append]
  · have hfind : f.forest.find? d.name = some d := by
      cases hcase : f.forest.find? d.name with
      | none => exact absurd (List.find?_eq_none.1 hcase d hd) (by simp)
      | some e =>
        have he : e ∈ repo.definitions :=
          List.mem_flatMap.2 ⟨f, hf, List.mem_of_find?_eq_some hcase⟩
        have hsame : e.name = d.name := by simpa using List.find?_some hcase
        rw [List.inj_on_of_nodup_map hnodup he hmem hsame]
    rw [Repository.lookup, hlocation, Option.bind_some, hg, Option.bind_some, hfind]

/-! ### Loading -/

/-- The index gets the names that it does not know yet. -/
theorem find?_extendIndex (index : List (String × Path)) (path : Path) (ds : List Definition)
    (name : String) : (extendIndex index path ds).find? (·.1 == name) =
      (index.find? (·.1 == name)).or
        (if name ∈ ds.map (·.name) then some (name, path) else none) := by
  induction ds generalizing index with
  | nil => simp [extendIndex]
  | cons d ds ih =>
    rw [extendIndex, List.map_cons]
    split
    · next hknown =>
      rw [ih]
      by_cases hname : name = d.name
      · subst hname
        obtain ⟨e, he⟩ := Option.isSome_iff_exists.1 (List.isSome_find?.trans hknown)
        rw [he, Option.some_or, Option.some_or]
      · simp only [List.mem_cons, hname, false_or]
    · next hknown =>
      rw [ih, List.find?_append, List.find?_singleton]
      by_cases hname : name = d.name
      · subst hname
        have hnone : index.find? (·.1 == d.name) = none := by
          rw [← Option.not_isSome_iff_eq_none, List.isSome_find?]
          exact hknown
        rw [hnone, Option.none_or, if_pos (beq_self_eq_true _), Option.some_or, Option.none_or,
          if_pos List.mem_cons_self]
      · have hne : ¬ (d.name == name) = true := fun h => hname (beq_iff_eq.1 h).symm
        rw [if_neg hne, Option.or_none]
        simp only [List.mem_cons, hname, false_or]

/-- The repository with the definitions of one more file in its index. -/
theorem contains_extendIndex (repo : Repository) (path : Path) (ds : List Definition)
    (files : List PolicyFile) (name : String) :
    contains { repo with index := extendIndex repo.index path ds, files } name =
      (repo.contains name || decide (name ∈ ds.map (·.name))) := by
  rw [Repository.contains, location?, Option.isSome_map, find?_extendIndex, Repository.contains,
    location?, Option.isSome_map, Option.isSome_or]
  split <;> simp_all

/-- The index knows all names of a repository that gets further files. -/
theorem known_addFiles {files : List (Path × String)} (hrepo : repo.Known)
    (h : repo.addFiles files = .ok repo') : repo'.Known := by
  refine addFiles_induction (P := Known) (fun path source r r' _ hknown hadd => ?_) hrepo h
  obtain ⟨forest, -, rfl⟩ := addFile_eq_ok.1 hadd
  unfold Known
  refine forall_putFile (fun name hname => ?_) fun f hf name hname => ?_
  · rw [contains_extendIndex, Bool.or_eq_true, decide_eq_true_eq]
    exact .inr hname
  · rw [contains_extendIndex, hknown f hf name hname, Bool.true_or]

/-- The index knows all names of the files that are read. -/
theorem known_ofSources {root : Path} {files : List (Path × String)}
    (h : ofSources root files = .ok repo) : repo.Known :=
  known_addFiles (by simp [Known]) h

theorem putFile_eq_append {file : PolicyFile} {fs : List PolicyFile}
    (h : ∀ f ∈ fs, f.path.same file.path = false) : putFile file fs = fs ++ [file] := by
  induction fs with
  | nil => rfl
  | cons f fs ih =>
    rw [List.forall_mem_cons] at h
    rw [putFile, h.1, if_neg Bool.false_ne_true, ih h.2, List.cons_append]

/-- With a file at a new path, the index still tells the files of all names. -/
theorem held_addFile {path : Path} {source : String}
    (hfresh : ∀ f ∈ repo.files, f.path.same path = false)
    (h : repo.addFile path source = .ok repo') (hrepo : repo.Held) : repo'.Held := by
  obtain ⟨forest, -, rfl⟩ := addFile_eq_ok.1 h
  intro name path' hlocation
  rw [location?, find?_extendIndex] at hlocation
  let file : PolicyFile := { path, source, forest }
  have hput : putFile file repo.files = repo.files ++ [file] := putFile_eq_append hfresh
  rw [file?]
  dsimp only
  rw [hput]
  cases hknown : repo.index.find? (·.1 == name) with
  | some e =>
    rw [hknown, Option.some_or] at hlocation
    obtain ⟨f, hf, hname⟩ := hrepo name path' (by rw [location?, hknown, hlocation])
    exact find?_append_of_some _ ⟨f, hf, hname⟩
  | none =>
    rw [hknown, Option.none_or] at hlocation
    split at hlocation
    · next hname =>
      obtain rfl : path = path' := by simpa using hlocation
      refine ⟨file, ?_, hname⟩
      rw [List.find?_append, List.find?_eq_none.2 (by simpa using hfresh), Option.none_or]
      exact List.find?_cons_of_pos path.same_refl
    · cases hlocation

theorem held_addFiles {files : List (Path × String)}
    (hpaths : files.Pairwise fun a b => a.1.same b.1 = false)
    (hfresh : ∀ f ∈ repo.files, ∀ file ∈ files, f.path.same file.1 = false) (hrepo : repo.Held)
    (h : repo.addFiles files = .ok repo') : repo'.Held := by
  induction files generalizing repo with
  | nil =>
    cases h
    exact hrepo
  | cons file files ih =>
    obtain ⟨path, source⟩ := file
    obtain ⟨repo₁, hadd, h⟩ := addFiles_cons_eq_ok.1 h
    rw [List.pairwise_cons] at hpaths
    have hpath : ∀ f ∈ repo.files, f.path.same path = false :=
      fun f hf => hfresh f hf (path, source) List.mem_cons_self
    refine ih hpaths.2 ?_ (held_addFile hpath hadd hrepo) h
    obtain ⟨forest, -, rfl⟩ := addFile_eq_ok.1 hadd
    have hbehind : ∀ f ∈ repo.files, ∀ file ∈ files, f.path.same file.1 = false :=
      fun f hf file hfile => hfresh f hf file (List.mem_cons_of_mem _ hfile)
    refine forall_putFile ?_ hbehind
    exact hpaths.1

/-- If the files have different paths and define different names, the index and the files agree. -/
theorem indexed_ofSources {root : Path} {files : List (Path × String)}
    (h : ofSources root files = .ok repo)
    (hpaths : files.Pairwise fun a b => a.1.same b.1 = false)
    (hnames : (repo.definitions.map (·.name)).Nodup) : repo.Indexed where
  nodup := repo.map_name_definitions ▸ hnames
  known := known_ofSources h
  held := held_addFiles hpaths (by simp) (fun _ _ hlocation => by cases hlocation) h

end Repository

end PolicyEditor
