import Mathlib.Data.Set.List
import PolicyEditor.Discovery
import PolicyEditor.Proofs.FileTree.Views

/-!
# The files that a walk finds

A walk through a file tree finds the files that are reached along entries that are kept.  For the
files of a policy this is a condition on the names on the way.

## Main definitions

* `Node.Reaches` : a file below a node that a walk enters.
* `Config.Finds` : a file of a directory that belongs to the policy.
* `Config.Admits` : the names on the way to a file do not take it out of the policy.

## Main results

* `Node.mem_walk_iff` : a walk finds what it reaches.
* `Config.Finds.admits`, `Config.finds_of_view` : a file belongs to the policy if the names on its
  way allow it.
-/

namespace PolicyEditor

variable {α : Type} {keep : List FileName → Node α → Bool}

/-! ### Walks -/

/-- A node at `place` leads to a file with a content, through entries for which `keep` holds. -/
inductive Node.Reaches (keep : List FileName → Node α → Bool) :
    List FileName → Node α → List FileName → α → Prop
  | file {place : List FileName} (content : α) : Reaches keep place (.file content) [] content
  | entry {place names : List FileName} {name : FileName} {node : Node α} {content : α}
      {entries : List (Entry α)} (hmem : ⟨name, node⟩ ∈ entries)
      (hkeep : keep (place ++ [name]) node = true)
      (hbelow : Reaches keep (place ++ [name]) node names content) :
      Reaches keep place (.directory entries) (name :: names) content

mutual

/-- A walk finds the files that it reaches. -/
theorem Node.mem_walk_iff (place : List FileName) : (node : Node α) → (file : List FileName × α) →
    (file ∈ node.walk keep place ↔
      ∃ names, file.1 = place ++ names ∧ node.Reaches keep place names file.2)
  | .file content, file => by
    rw [Node.walk, List.mem_singleton]
    constructor
    · rintro rfl
      exact ⟨[], by simp, .file content⟩
    · rintro ⟨names, hplace, hreaches⟩
      cases hreaches
      exact Prod.ext (by simpa using hplace) rfl
  | .directory entries, file => by
    rw [Node.walk, List.mem_flatMap]
    simp only [(stableSort_perm _ _).mem_iff]
    rw [mem_walkEntries_iff place entries file]
    constructor
    · rintro ⟨name, node, names, hmem, hkeep, hplace, hbelow⟩
      exact ⟨name :: names, hplace, .entry hmem hkeep hbelow⟩
    · rintro ⟨names, hplace, hreaches⟩
      cases hreaches with
      | entry hmem hkeep hbelow => exact ⟨_, _, _, hmem, hkeep, hplace, hbelow⟩

theorem mem_walkEntries_iff (place : List FileName) : (entries : List (Entry α)) →
    (file : List FileName × α) →
    ((∃ p ∈ walkEntries keep place entries, file ∈ p.2) ↔
      ∃ name node names, (⟨name, node⟩ : Entry α) ∈ entries ∧
        keep (place ++ [name]) node = true ∧ file.1 = place ++ name :: names ∧
          node.Reaches keep (place ++ [name]) names file.2)
  | [], file => by simp [walkEntries]
  | ⟨name, node⟩ :: entries, file => by
    have hhead : (∃ p ∈ walkEntries keep place (⟨name, node⟩ :: entries), file ∈ p.2) ↔
        (keep (place ++ [name]) node = true ∧ file ∈ node.walk keep (place ++ [name])) ∨
          ∃ p ∈ walkEntries keep place entries, file ∈ p.2 := by
      rw [walkEntries]
      by_cases hkeep : keep (place ++ [name]) node = true <;> simp [hkeep]
    rw [hhead, node.mem_walk_iff (place ++ [name]) file, mem_walkEntries_iff place entries file]
    constructor
    · rintro (⟨hkeep, names, hplace, hbelow⟩ | ⟨name', node', names, hmem, hrest⟩)
      · exact ⟨name, node, names, List.mem_cons_self, hkeep, by simpa using hplace, hbelow⟩
      · exact ⟨name', node', names, List.mem_cons_of_mem _ hmem, hrest⟩
    · rintro ⟨name', node', names, hmem, hkeep, hplace, hbelow⟩
      rcases List.mem_cons.1 hmem with heq | hmem
      · cases heq
        exact .inl ⟨hkeep, names, by simpa using hplace, hbelow⟩
      · exact .inr ⟨name', node', names, hmem, hkeep, hplace, hbelow⟩

end

theorem Directory.mem_walk_iff {d : Directory α} {names : List FileName} {content : α} :
    (names, content) ∈ d.walk keep ↔ (Node.directory d).Reaches keep [] names content := by
  rw [Directory.walk, Node.mem_walk_iff]
  simp

theorem Directory.mem_of_child? {d : Directory α} {name : FileName} {node : Node α}
    (h : d.child? name = some node) : ⟨name, node⟩ ∈ d := by
  rw [Directory.child?, Option.map_eq_some_iff] at h
  obtain ⟨⟨name', node'⟩, hfind, rfl⟩ := h
  obtain rfl : name' = name := by simpa using List.find?_some hfind
  exact List.mem_of_find?_eq_some hfind

/-- What is reached along kept entries is reached along all entries, from wherever the node
stands. -/
theorem Node.Reaches.everywhere {place names : List FileName} {node : Node α} {content : α}
    (h : node.Reaches keep place names content) (place' : List FileName) :
    node.Reaches (fun _ _ => true) place' names content := by
  induction h generalizing place' with
  | file content => exact .file content
  | entry hmem _ _ ih => exact .entry hmem rfl (ih _)

/-- What is reached along names that are texts is reached along entries whose places are texts. -/
theorem Node.Reaches.of_texts {place names : List FileName} {node : Node α} {content : α}
    (h : node.Reaches keep place names content) {place' : List FileName}
    (htexts : ∀ name ∈ place' ++ names, name.text?.isSome = true) :
    node.Reaches (fun place _ => place.all (·.text?.isSome)) place' names content := by
  induction h generalizing place' with
  | file content => exact .file content
  | @entry place names name node content entries hmem _ _ ih =>
    have hnext : ∀ other ∈ (place' ++ [name]) ++ names, other.text?.isSome = true := by
      rwa [List.append_assoc]
    refine .entry hmem (List.all_eq_true.2 fun other hother => ?_) (ih hnext)
    exact hnext other (List.mem_append_left names hother)

/-- What is reached from a node below another one is reached from there. -/
theorem Node.Reaches.of_below? {base names : List FileName} {node inner : Node α} {content : α}
    (hbase : node.below? base = some inner)
    (h : ∀ place, inner.Reaches (fun _ _ => true) place names content) (place : List FileName) :
    node.Reaches (fun _ _ => true) place (base ++ names) content := by
  induction base generalizing node place with
  | nil =>
    cases hbase
    exact h place
  | cons name base ih =>
    cases node with
    | file => cases hbase
    | directory entries =>
      rw [Node.below?, Option.bind_eq_some_iff] at hbase
      obtain ⟨child, hchild, hbase⟩ := hbase
      exact .entry (Directory.mem_of_child? hchild) rfl (ih hbase _)

/-- A file that is reached along texts is a file of the tree. -/
theorem Directory.mem_files {d : Directory α} {names : List String} {content : α}
    (h : (Node.directory d).Reaches keep [] (names.map .ofText) content) :
    (names, content) ∈ d.files := by
  have htexts : ∀ name ∈ [] ++ names.map FileName.ofText, name.text?.isSome = true := by
    simp
  refine List.mem_map.2 ⟨_, Directory.mem_walk_iff.2 (h.of_texts htexts), ?_⟩
  rw [FileName.filterMap_text?_map]

/-- Names that are texts are spelled by a list of texts. -/
theorem FileName.exists_texts {place : List FileName}
    (h : ∀ name ∈ place, ∃ text, name = .ofText text) :
    ∃ names : List String, place = names.map .ofText := by
  have hrange : place ∈ Set.range (List.map FileName.ofText) := by
    rw [Set.range_list_map]
    intro name hname
    obtain ⟨text, rfl⟩ := h name hname
    exact ⟨text, rfl⟩
  obtain ⟨names, rfl⟩ := hrange
  exact ⟨names, rfl⟩

namespace Config

/-! ### The files of a policy -/

variable {config : Config} {d : Directory α} {names : List FileName}

/-- A file of a directory that belongs to the policy. -/
def Finds (config : Config) (d : Directory α) (names : List FileName) : Prop :=
  ∃ content, (names, content) ∈ d.walk config.isPart

theorem mem_policyFiles {path : Path} :
    path ∈ config.policyFiles d ↔
      ∃ names, config.Finds d names ∧ path = .ofPlace names := by
  simp only [policyFiles, List.mem_map, Finds]
  constructor
  · rintro ⟨⟨names, content⟩, hmem, rfl⟩
    exact ⟨names, ⟨content, hmem⟩, rfl⟩
  · rintro ⟨names, ⟨content, hmem⟩, rfl⟩
    exact ⟨_, hmem, rfl⟩

/-- The names on the way to a file do not take it out of the policy: each of them is a text that is
neither hidden nor ignored, and the file is neither the configuration nor below the directory `raw`
of the root. -/
structure Admits (config : Config) (names : List FileName) : Prop where
  visible : ∀ name ∈ names, config.skips name = false
  not_config : names ≠ [.ofText fileName]
  not_raw : ∀ name rest, names ≠ .ofText rawName :: name :: rest

theorem skips_eq_false {name : FileName} :
    config.skips name = false ↔ ∃ text, name = .ofText text ∧
      text.toList.head? ≠ some '.' ∧ config.ignores text = false := by
  rw [skips]
  split
  · next hnone =>
    simp only [false_iff, reduceCtorEq, not_exists]
    rintro text ⟨rfl, -⟩
    simp at hnone
  · next text hsome =>
    obtain rfl := FileName.text?_eq_some.1 hsome
    simp [FileName.ofText_inj]

theorem isPart_singleton {name : FileName} {node : Node α} :
    config.isPart [name] node = true ↔
      config.skips name = false ∧
        name ≠ .ofText (if node.isFile then fileName else rawName) := by
  simp [isPart]

theorem isPart_append {place : List FileName} {name : FileName} {node : Node α}
    (hplace : place ≠ []) :
    config.isPart (place ++ [name]) node = true ↔ config.skips name = false := by
  have hlong : place ++ [name] ≠ [.ofText (if node.isFile then fileName else rawName)] := by
    intro h
    have hlength := congrArg List.length h
    simp [hplace] at hlength
  simp [isPart, bne_iff_ne.2 hlong]

theorem visible_of_reaches {place : List FileName} {node : Node α} {content : α}
    (hplace : place ≠ []) (h : node.Reaches config.isPart place names content) :
    ∀ name ∈ names, config.skips name = false := by
  induction h with
  | file => simp
  | entry hmem hkeep _ ih =>
    rw [List.forall_mem_cons]
    exact ⟨(isPart_append hplace).1 hkeep, ih (by simp)⟩

/-- What is found below a directory of a tree are files of the tree. -/
theorem Finds.mem_files {tree : Directory α} {base names : List String}
    (hbase : tree.node? (base.map .ofText) = some (.directory d))
    (h : config.Finds d (names.map .ofText)) :
    ∃ content, (base ++ names, content) ∈ tree.files := by
  obtain ⟨content, hmem⟩ := h
  have hreaches : (Node.directory tree).Reaches (fun _ _ => true) []
      ((base ++ names).map .ofText) content := by
    rw [List.map_append]
    exact .of_below? hbase (Directory.mem_walk_iff.1 hmem).everywhere []
  exact ⟨content, Directory.mem_files hreaches⟩

/-- A file that is found has a name. -/
theorem Finds.ne_nil (h : config.Finds d names) : names ≠ [] := by
  obtain ⟨content, hmem⟩ := h
  cases Directory.mem_walk_iff.1 hmem
  simp

theorem Finds.admits (h : config.Finds d names) : config.Admits names := by
  obtain ⟨content, hmem⟩ := h
  cases Directory.mem_walk_iff.1 hmem with
  | entry hmem hkeep hbelow =>
    obtain ⟨hvisible, hname⟩ := isPart_singleton.1 hkeep
    refine ⟨List.forall_mem_cons.2 ⟨hvisible, visible_of_reaches (by simp) hbelow⟩, ?_, ?_⟩
    · rintro heq
      cases heq
      cases hbelow
      exact hname rfl
    · rintro name rest heq
      cases heq
      cases hbelow
      exact hname rfl

/-- The names on the way to a file that is found are texts. -/
theorem Finds.exists_texts (h : config.Finds d names) :
    ∃ texts : List String, texts ≠ [] ∧ names = texts.map .ofText := by
  have htexts : ∀ name ∈ names, ∃ text, name = .ofText text := by
    intro name hname
    obtain ⟨text, rfl, -⟩ := skips_eq_false.1 (h.admits.visible name hname)
    exact ⟨text, rfl⟩
  obtain ⟨texts, rfl⟩ := FileName.exists_texts htexts
  exact ⟨texts, by simpa using h.ne_nil, rfl⟩

theorem reaches_of_below? {place : List FileName} {node : Node α} {content : α}
    (hplace : place ≠ []) (hvisible : ∀ name ∈ names, config.skips name = false)
    (h : node.below? names = some (.file content)) :
    node.Reaches config.isPart place names content := by
  induction names generalizing place node with
  | nil =>
    cases h
    exact .file content
  | cons name names ih =>
    rw [List.forall_mem_cons] at hvisible
    cases node with
    | file => cases h
    | directory entries =>
      rw [Node.below?, Option.bind_eq_some_iff] at h
      obtain ⟨child, hchild, h⟩ := h
      exact .entry (Directory.mem_of_child? hchild) ((isPart_append hplace).2 hvisible.1)
        (ih (by simp) hvisible.2 h)

/-- A file belongs to the policy if the names on its way allow it. -/
theorem finds_of_view {content : α} (h : d.view names = .file content)
    (hadmits : config.Admits names) : config.Finds d names := by
  refine ⟨content, Directory.mem_walk_iff.2 ?_⟩
  have hnode := Directory.view_eq_file_iff.1 h
  rcases names with - | ⟨name, names⟩
  · cases hnode
  rw [Directory.node?, Node.below?, Option.bind_eq_some_iff] at hnode
  obtain ⟨child, hchild, hbelow⟩ := hnode
  have hvisible := List.forall_mem_cons.1 hadmits.visible
  refine .entry (Directory.mem_of_child? hchild) (isPart_singleton.2 ⟨hvisible.1, ?_⟩)
    (reaches_of_below? (by simp) hvisible.2 hbelow)
  rintro rfl
  rcases names with - | ⟨next, names⟩
  · cases hbelow
    exact hadmits.not_config rfl
  · rcases child with other | entries
    · cases hbelow
    · exact hadmits.not_raw next names rfl

end Config

end PolicyEditor
