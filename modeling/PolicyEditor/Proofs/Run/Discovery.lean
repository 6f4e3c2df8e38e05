import Mathlib.Data.String.Basic
import PolicyEditor.Proofs.FileTree.Joining
import PolicyEditor.Proofs.FileTree.Walk
import PolicyEditor.Proofs.Sorting
import PolicyEditor.Run

/-!
# The list of policy files

In a file system the entries of each directory have different names, which can stand between
slashes.  Then a walk lists every file that it reaches once.  It goes depth first: where the ways to
two files part, the file whose way takes the smaller name is listed first.

Which files are listed is a condition on the places of the files alone, although the walk looks at
one entry after the other and does not enter those that it skips.  A name that is no text in UTF-8
is skipped like one that is hidden, so the file of such a name is not listed.

## Main definitions

* `Node.WellFormed` : a file tree as it may stand in a file system.
* `Precedes` : the order of places in which a walk lists them.
* `Config.Collects` : the places of the files that belong to a policy.

## Main results

* `Node.pairwise_walk` : a walk lists files in the order of their places.
* `Config.finds_iff_collects` : the files that a walk for the policy finds.
* `Config.findFiles_eq_ok` : the list of policy files below a root.
-/

namespace PolicyEditor

variable {α : Type} {keep : List FileName → Node α → Bool}

/-! ### Trees of a file system -/

/-- The entries of all directories have different names, and texts among these can stand between
slashes. -/
inductive Node.WellFormed : Node α → Prop
  | file (content : α) : WellFormed (.file content)
  | directory {entries : List (Entry α)} (hdistinct : (entries.map (·.name)).Nodup)
      (hnames : ∀ e ∈ entries, ∀ text ∈ e.name.text?, Path.IsName text)
      (hbelow : ∀ e ∈ entries, e.node.WellFormed) :
      WellFormed (.directory entries)

/-- An entry is found by its name if no other entry has this name. -/
theorem Directory.child?_of_mem {d : Directory α} (hdistinct : (d.map (·.name)).Nodup)
    {e : Entry α} (he : e ∈ d) : d.child? e.name = some e.node := by
  induction d with
  | nil => cases he
  | cons e' d ih =>
    rw [List.map_cons, List.nodup_cons] at hdistinct
    rw [child?_cons]
    rcases List.mem_cons.1 he with rfl | he
    · rw [if_pos rfl]
    · have hne : e'.name ≠ e.name := fun heq =>
        hdistinct.1 (heq ▸ List.mem_map_of_mem (f := (·.name)) he)
      rw [if_neg hne, ih hdistinct.2 he]

namespace Node

variable {node : Node α} {place names : List FileName} {content : α}

/-- What is reached from a node is the file at the place below it. -/
theorem Reaches.below?_eq (hnode : node.WellFormed) (h : node.Reaches keep place names content) :
    node.below? names = some (.file content) := by
  induction h with
  | file => rfl
  | entry hmem _ _ ih =>
    cases hnode with
    | directory hdistinct _ hbelow =>
      rw [Node.below?, Directory.child?_of_mem hdistinct hmem]
      exact ih (hbelow _ hmem)

/-- The texts on the way to a file can stand between slashes. -/
theorem Reaches.isName (hnode : node.WellFormed) (h : node.Reaches keep place names content) :
    ∀ name ∈ names, ∀ text ∈ name.text?, Path.IsName text := by
  induction h with
  | file => simp
  | entry hmem _ _ ih =>
    cases hnode with
    | directory _ hnames hbelow =>
      exact List.forall_mem_cons.2 ⟨hnames _ hmem, ih (hbelow _ hmem)⟩

end Node

/-! ### The order of a walk -/

/-- Where the ways to two places part, the first one takes the smaller name. -/
def Precedes (place place' : List FileName) : Prop :=
  ∃ front name name' back back',
    place = front ++ name :: back ∧ place' = front ++ name' :: back' ∧ name.bytes < name'.bytes

theorem Precedes.ne {place place' : List FileName} (h : Precedes place place') :
    place ≠ place' := by
  obtain ⟨front, name, name', back, back', rfl, rfl, hlt⟩ := h
  intro heq
  obtain ⟨rfl, -⟩ := List.cons.inj (List.append_cancel_left heq)
  exact List.lt_irrefl _ hlt

theorem walkEntries_eq_map (place : List FileName) (entries : List (Entry α)) :
    walkEntries keep place entries =
      (entries.filter fun e => keep (place ++ [e.name]) e.node).map fun e =>
        (e.name, e.node.walk keep (place ++ [e.name])) := by
  induction entries with
  | nil => rfl
  | cons e entries ih =>
    obtain ⟨name, node⟩ := e
    rw [walkEntries, ih, List.filter_cons]
    by_cases hkeep : keep (place ++ [name]) node = true
    · rw [if_pos hkeep, if_pos hkeep, List.map_cons]
    · rw [if_neg hkeep, if_neg hkeep]

/-- Sorted by their names, entries with different names strictly ascend. -/
theorem pairwise_lt_stableSort {β : Type} {entries : List (FileName × β)}
    (h : (entries.map (·.1)).Nodup) :
    (stableSort (fun a b => a.1.bytes ≤ b.1.bytes) entries).Pairwise fun a b =>
      a.1.bytes < b.1.bytes := by
  have htotal : Std.Total fun a b : FileName × β => decide (a.1.bytes ≤ b.1.bytes) = true :=
    ⟨fun a b => by simpa using List.le_total a.1.bytes b.1.bytes⟩
  have htrans : IsTrans (FileName × β) fun a b => decide (a.1.bytes ≤ b.1.bytes) = true :=
    ⟨fun a b c hab hbc => by simpa using List.le_trans (by simpa using hab) (by simpa using hbc)⟩
  have hdistinct : (stableSort (fun a b => decide (a.1.bytes ≤ b.1.bytes)) entries).Pairwise
      fun a b => a.1 ≠ b.1 :=
    List.pairwise_map.1 (((stableSort_perm _ entries).map Prod.fst).nodup_iff.2 h)
  refine ((pairwise_stableSort entries).and hdistinct).imp fun {a b} hab => ?_
  refine Std.lt_of_le_of_ne (of_decide_eq_true hab.1) fun heq => hab.2 ?_
  exact congrArg FileName.mk heq

/-- A walk lists files in the order of their places. -/
theorem Node.pairwise_walk {node : Node α} (hnode : node.WellFormed) (place : List FileName) :
    (node.walk keep place).Pairwise fun file file' => Precedes file.1 file'.1 := by
  induction hnode generalizing place with
  | file content => exact List.pairwise_singleton _ _
  | @directory entries hdistinct _ _ ih =>
    rw [Node.walk, walkEntries_eq_map, List.pairwise_flatMap]
    constructor
    · intro listed hlisted
      rw [(stableSort_perm _ _).mem_iff] at hlisted
      obtain ⟨e, he, rfl⟩ := List.mem_map.1 hlisted
      exact ih e (List.mem_of_mem_filter he) (place ++ [e.name])
    · -- The files of two entries have the names of the entries behind the place of the directory.
      have hnames : (((entries.filter fun e => keep (place ++ [e.name]) e.node).map fun e =>
          (e.name, e.node.walk keep (place ++ [e.name]))).map (·.1)).Nodup := by
        rw [List.map_map]
        exact hdistinct.sublist (List.filter_sublist.map _)
      refine (pairwise_lt_stableSort hnames).imp_of_mem fun hlisted hlisted' hlt => ?_
      rw [(stableSort_perm _ _).mem_iff] at hlisted hlisted'
      obtain ⟨e, -, rfl⟩ := List.mem_map.1 hlisted
      obtain ⟨e', -, rfl⟩ := List.mem_map.1 hlisted'
      intro file hfile file' hfile'
      obtain ⟨back, hplace, -⟩ := (e.node.mem_walk_iff _ file).1 hfile
      obtain ⟨back', hplace', -⟩ := (e'.node.mem_walk_iff _ file').1 hfile'
      exact ⟨place, e.name, e'.name, back, back', by simp [hplace], by simp [hplace'], hlt⟩

namespace Config

variable {config : Config} {d : Directory α} {names : List FileName}

/-! ### The files of a policy -/

/-- There is a file at the place that belongs to the policy.  Each name on its way is a text that
neither starts with a dot nor is ignored, and the file is neither the file `config` of the root nor
in a directory `raw` of the root. -/
structure Collects (config : Config) (d : Directory α) (names : List FileName) : Prop where
  file : ∃ content, d.node? names = some (.file content)
  visible : ∀ name ∈ names, ∃ text, name = .ofText text ∧
    text.toList.head? ≠ some '.' ∧ config.ignores text = false
  not_config : names ≠ [.ofText "config"]
  not_raw : ∀ entries, d.node? ["raw"] = some (.directory entries) →
    names.head? ≠ some (.ofText "raw")

/-- A walk for the policy finds the files at the places that belong to it. -/
theorem finds_iff_collects (hd : (Node.directory d).WellFormed) :
    config.Finds d names ↔ config.Collects d names := by
  constructor
  · intro h
    obtain ⟨hvisible, hconfig, hraw⟩ := h.admits
    obtain ⟨content, hmem⟩ := h
    have hfile := (Directory.mem_walk_iff.1 hmem).below?_eq hd
    refine ⟨⟨content, hfile⟩, fun name hname => skips_eq_false.1 (hvisible name hname), hconfig, ?_⟩
    intro entries hentries hhead
    rcases names with - | ⟨name, - | ⟨next, back⟩⟩
    · cases hhead
    · cases hhead
      exact absurd (hentries.symm.trans hfile) (by simp)
    · cases hhead
      exact hraw next back rfl
  · rintro ⟨⟨content, hfile⟩, hvisible, hconfig, hraw⟩
    refine finds_of_view (Directory.view_eq_file_iff.2 hfile)
      ⟨fun name hname => skips_eq_false.2 (hvisible name hname), hconfig, ?_⟩
    rintro next back rfl
    have hview : d.view ([.ofText rawName] ++ next :: back) ≠ .nothing := by
      rw [List.singleton_append, Directory.view_eq_file_iff.2 hfile]
      simp
    obtain ⟨entries, hentries⟩ := Directory.view_eq_directory_iff.1
      (Directory.view_eq_directory_of_append (by simp) hview)
    exact hraw entries hentries rfl

/-- The path of a file that is found tells its place. -/
theorem Finds.place_ofPlace_of_wellFormed (hd : (Node.directory d).WellFormed)
    (h : config.Finds d names) : (Path.ofPlace names).place = names := by
  obtain ⟨texts, hne, rfl⟩ := h.exists_texts
  obtain ⟨content, hmem⟩ := h
  have hnames : ∀ text ∈ texts, Path.IsName text := fun text htext =>
    (Directory.mem_walk_iff.1 hmem).isName hd _ (List.mem_map_of_mem htext) text (by simp)
  rw [Path.ofPlace_map_ofText, Path.place_intercalate hne hnames]

section Samples

/-- A policy with the file of the configuration, a directory `raw`, and a file of each name in a
directory below the root. -/
def rawPolicy : Directory Content :=
  [⟨"sub", .directory [⟨"raw", .directory [⟨"x", .file (.text "")⟩]⟩, ⟨"config", .file (.text "")⟩,
      ⟨"B~", .file (.text "")⟩]⟩,
    ⟨"config", .file (.text "")⟩, ⟨"owner", .file (.text "")⟩,
    ⟨"raw", .directory [⟨"r1", .file (.text "")⟩]⟩]

theorem wellFormed_rawPolicy : (Node.directory rawPolicy).WellFormed := by
  have hfile (name : FileName) : ∀ e ∈ ([⟨name, .file (.text "")⟩] : Directory Content),
      e.node.WellFormed :=
    List.forall_mem_singleton.2 (.file _)
  refine .directory (by decide) (by decide +kernel) ?_
  refine List.forall_mem_cons.2 ⟨.directory (by decide) (by decide +kernel) ?_,
    List.forall_mem_cons.2 ⟨.file _, List.forall_mem_cons.2 ⟨.file _, ?_⟩⟩⟩
  · exact List.forall_mem_cons.2 ⟨.directory (by decide) (by decide +kernel) (hfile "x"),
      List.forall_mem_cons.2 ⟨.file _, hfile "B~"⟩⟩
  · exact List.forall_mem_singleton.2 (.directory (by decide) (by decide +kernel) (hfile "r1"))

/-- The tree of this policy. -/
def rawTree : Directory Content :=
  [⟨"policy", .directory rawPolicy⟩]

example : default.policyFiles rawPolicy = [⟨"owner"⟩, ⟨"sub/config"⟩, ⟨"sub/raw/x"⟩] := by
  decide +kernel

/-- A policy with a file whose name is no text. -/
def unspelledPolicy : Directory Content :=
  [⟨⟨[0x61, 0xff]⟩, .file (.text "")⟩]

/-- The tree of this policy. -/
def unspelledTree : Directory Content :=
  [⟨"policy", .directory unspelledPolicy⟩]

theorem wellFormed_unspelledPolicy : (Node.directory unspelledPolicy).WellFormed :=
  .directory (by decide) (by decide +kernel) (List.forall_mem_singleton.2 (.file _))

end Samples

end Config

end PolicyEditor
