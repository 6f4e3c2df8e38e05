import PolicyEditor.Proofs.Job.Calls
import PolicyEditor.Proofs.Repository.Order

/-!
# Files in the order of names

A new definition goes in front of the first definition of its type that has a greater name, letter
case aside, or to the end of its file.  Definitions of other types may stand anywhere between.  If
the names of each type ascend in a file, all definitions of the new one's type in front of this
place have lesser names, and all of them behind it have greater ones.  So the names ascend again,
and deletions and edits in place do not disturb them.

Whether the names ascend or not, the definitions that were there stay in their order.

## Main definitions

* `Definition.Precedes` : a definition that may stand in front of another one.
* `PolicyFile.Ascending`, `Repository.Ascending` : the names of each type ascend in each file.
* `PolicyFile.Gains` : a file in which at most one definition is new.

## Main results

* `Repository.exists_append_insertDefinition` : where a file is cut to insert a definition.
* `Repository.Step.ascending` : a step keeps the order of names.
* `Repository.exists_gains_create` : what a creation does to the files, also if it fails.
* `Repository.ascending_of_calls` : files in the order of names stay in this order.
-/

namespace PolicyEditor

/-- If both definitions are of one type, the lower-case name of the first is not greater. -/
def Definition.Precedes (d e : Definition) : Prop :=
  d.type = e.type → Text.lowercase d.name ≤ Text.lowercase e.name

instance (d e : Definition) : Decidable (d.Precedes e) :=
  inferInstanceAs (Decidable (_ → _))

namespace PolicyFile

/-- The names of the definitions of each type ascend. -/
def Ascending (f : PolicyFile) : Prop :=
  f.forest.definitions.Pairwise Definition.Precedes

instance (f : PolicyFile) : Decidable f.Ascending :=
  inferInstanceAs (Decidable (List.Pairwise _ _))

/-- The file at the same path with the same definitions in the same order, and with the definition
`d` at some place among them or without it. -/
structure Gains (d : Definition) (f f' : PolicyFile) : Prop where
  path : f'.path = f.path
  definitions : f'.forest.definitions = f.forest.definitions ∨
    ∃ front back, f.forest.definitions = front ++ back ∧
      f'.forest.definitions = front ++ d :: back

theorem gains_refl (d : Definition) (f : PolicyFile) : f.Gains d f :=
  ⟨rfl, .inl rfl⟩

end PolicyFile

namespace Repository

open Edit

/-- The names of the definitions of each type ascend in each file. -/
def Ascending (repo : Repository) : Prop :=
  ∀ f ∈ repo.files, f.Ascending

instance (repo : Repository) : Decidable repo.Ascending :=
  inferInstanceAs (Decidable (∀ f ∈ repo.files, f.Ascending))

variable {repo repo' : Repository} {creates : Path → Prop} {d : Definition}

/-! ### The place of a new definition -/

/-- A list is cut in front of the first item for which `p` holds. -/
theorem exists_append_findIdx? {α : Type} (p : α → Bool) (as : List α) :
    ∃ front back, as = front ++ back ∧ front.length = (as.findIdx? p).getD as.length ∧
      (∀ a ∈ front, p a = false) ∧ ∀ a ∈ back.head?, p a = true := by
  induction as with
  | nil => exact ⟨[], [], rfl, rfl, by simp, by simp⟩
  | cons a as ih =>
    by_cases ha : p a = true
    · exact ⟨[], a :: as, rfl, by rw [List.findIdx?_cons, if_pos ha]; rfl, by simp, by simpa⟩
    · obtain ⟨front, back, hcut, hlength, hfront, hback⟩ := ih
      refine ⟨a :: front, back, by rw [hcut, List.cons_append], ?_,
        List.forall_mem_cons.2 ⟨Bool.eq_false_iff.2 ha, hfront⟩, hback⟩
      rw [List.findIdx?_cons, if_neg ha, List.length_cons, hlength]
      rcases as.findIdx? p with - | i <;> rfl

/-- Where a file is cut to insert a definition: those in front of it do not exceed it, and the first
one behind it is of its type and exceeds it. -/
theorem exists_append_insertDefinition (d : Definition) (ds : List Definition) :
    ∃ front back, ds = front ++ back ∧ insertDefinition d ds = front ++ d :: back ∧
      (∀ e ∈ front, e.Precedes d) ∧
      ∀ e ∈ back.head?, e.type = d.type ∧ Text.lowercase d.name < Text.lowercase e.name := by
  obtain ⟨front, back, rfl, hlength, hfront, hback⟩ := exists_append_findIdx?
    (fun e => e.type == d.type && decide (Text.lowercase d.name < Text.lowercase e.name)) ds
  refine ⟨front, back, rfl, ?_, fun e he htype => ?_, fun e he => by simpa using hback e he⟩
  · rw [insertDefinition, Definition.insertionIndex, ← hlength]
    exact List.modifyTailIdx_add (List.cons d) 0 front back
  · have hnot := hfront e he
    rw [htype, BEq.rfl, Bool.true_and, decide_eq_false_iff_not] at hnot
    exact not_lt.1 hnot

theorem pairwise_insertDefinition {ds : List Definition} (d : Definition)
    (h : ds.Pairwise Definition.Precedes) :
    (insertDefinition d ds).Pairwise Definition.Precedes := by
  obtain ⟨front, back, rfl, hinsert, hfront, hback⟩ := exists_append_insertDefinition d ds
  obtain ⟨hfirst, hlast, hcross⟩ := List.pairwise_append.1 h
  rw [hinsert]
  refine List.pairwise_append.2 ⟨hfirst, List.pairwise_cons.2 ⟨?_, hlast⟩, ?_⟩
  · -- The first definition behind the new one exceeds it, and the further ones of the type do not
    -- fall below this one.
    cases back with
    | nil => simp
    | cons b back =>
      obtain ⟨htype, hlt⟩ := hback b rfl
      intro e he hde
      rcases List.mem_cons.1 he with rfl | he
      · exact hlt.le
      · exact hlt.le.trans ((List.pairwise_cons.1 hlast).1 e he (htype.trans hde))
  · intro e he
    exact List.forall_mem_cons.2 ⟨hfront e he, hcross e he⟩

/-! ### Steps -/

/-- Only the names of definitions matter for their order. -/
theorem pairwise_precedes_of_names {ds ds' : List Definition}
    (hnames : ds'.map (·.name) = ds.map (·.name)) (h : ds.Pairwise Definition.Precedes) :
    ds'.Pairwise Definition.Precedes := by
  have hiff (es : List Definition) : es.Pairwise Definition.Precedes ↔
      (es.map (·.name)).Pairwise fun m n =>
        typeOf m = typeOf n → Text.lowercase m ≤ Text.lowercase n := by
    rw [List.pairwise_map]
    rfl
  rw [hiff, hnames, ← hiff]
  exact h

/-- A step keeps the order of names. -/
theorem Step.ascending (h : repo.Step creates repo') (hrepo : repo.Ascending) :
    repo'.Ascending := by
  cases h with
  | create _ h =>
    obtain ⟨-, -, rfl⟩ := create_eq_ok.1 h
    exact forall_insertAt (pairwise_insertDefinition _ .nil)
      (fun f hf => pairwise_insertDefinition _ (hrepo f hf)) hrepo
  | delete h =>
    obtain ⟨front, f, back, hfiles, -, rfl⟩ := delete_ok h
    rw [Ascending, hfiles, List.forall_mem_append, List.forall_mem_cons] at hrepo
    rw [Ascending, List.forall_mem_append, List.forall_mem_cons]
    exact ⟨hrepo.1, hrepo.2.1.sublist List.eraseP_sublist, hrepo.2.2⟩
  | @rework files h =>
    have hfiles : List.Forall₂ (Carries PolicyFile.Ascending) repo.files files :=
      h.imp fun _ _ hf => pairwise_precedes_of_names (names_of_namesakes hf.definitions)
    exact forall_of_forall₂ hfiles hrepo

theorem Steps.ascending (h : Steps creates repo repo') (hrepo : repo.Ascending) :
    repo'.Ascending := by
  induction h with
  | refl => exact hrepo
  | tail _ hstep ih => exact hstep.ascending ih

/-! ### Creations -/

theorem gains_insertInto (d : Definition) (f : PolicyFile) : f.Gains d (insertInto d f) := by
  obtain ⟨front, back, hcut, hinsert, -⟩ :=
    exists_append_insertDefinition d f.forest.definitions
  exact ⟨rfl, .inr ⟨front, back, hcut, hinsert⟩⟩

theorem exists_gains_insertAt (path : Path) (d : Definition) (fs : List PolicyFile) :
    ∃ fs' more, insertAt path d fs = fs' ++ more ∧ List.Forall₂ (PolicyFile.Gains d) fs fs' ∧
      ∀ f ∈ more, f.forest.definitions = [d] := by
  have hrefl (fs : List PolicyFile) : List.Forall₂ (PolicyFile.Gains d) fs fs :=
    List.forall₂_same.2 fun f _ => f.gains_refl d
  induction fs with
  | nil =>
    exact ⟨[], _, rfl, .nil,
      by simp [insertInto, insertDefinition, Definition.insertionIndex]⟩
  | cons f fs ih =>
    rw [insertAt]
    split
    · exact ⟨insertInto d f :: fs, [], (List.append_nil _).symm,
        .cons (gains_insertInto d f) (hrefl fs), by simp⟩
    · obtain ⟨fs', more, hfiles, hgains, hmore⟩ := ih
      exact ⟨f :: fs', more, by rw [hfiles, List.cons_append], .cons (f.gains_refl d) hgains, hmore⟩

/-- A creation leaves the definitions that were there in their order, also if it fails. -/
theorem exists_gains_create (repo : Repository) (path : Path) (d : Definition) :
    ∃ fs more, ((create path d).final repo).files = fs ++ more ∧
      List.Forall₂ (PolicyFile.Gains d) repo.files fs ∧ ∀ f ∈ more, f.forest.definitions = [d] := by
  cases h : create path d repo with
  | ok a repo' =>
    obtain ⟨-, -, rfl⟩ := create_eq_ok.1 h
    rw [final_of_ok h]
    exact exists_gains_insertAt path d repo.files
  | error e repo' =>
    rw [final_of_error h, restores_create path d h]
    exact ⟨repo.files, [], (List.append_nil _).symm,
      List.forall₂_same.2 fun f _ => f.gains_refl d, by simp⟩

/-- Files in which the names of each type ascend stay so whatever is created and deleted and
whatever jobs are applied.  Each creation leaves the definitions that were there in their order. -/
theorem ascending_of_calls (repo : Repository) :
    (repo.Ascending → ∀ repo', Relation.ReflTransGen Calls repo repo' → repo'.Ascending) ∧
    ∀ path d, ∃ fs more, ((create path d).final repo).files = fs ++ more ∧
      List.Forall₂ (PolicyFile.Gains d) repo.files fs ∧ ∀ f ∈ more, f.forest.definitions = [d] :=
  ⟨fun hrepo _ hcalls => (steps_of_calls hcalls).ascending hrepo, exists_gains_create repo⟩

section Samples

/-- A file in which the owners ascend, with an area between them. -/
def mixedOwners : List (Path × String) :=
  [(⟨"owner"⟩, "owner:b = \x7b\n\x7d\narea:a = \x7b\n\x7d\nowner:d = \x7b\n\x7d\n")]

/-- A job that creates an owner with a capital letter. -/
def capitalOwnerJob : Job where
  method := "create_owner"
  params := some (.object [("admins", .array [.string "x"]), ("name", .string "C")])

/-- The new owner comes to stand behind the area, and the first owner is deleted. -/
theorem ascending_of_capitalOwnerJob :
    ∃ repo, ofSources ⟨"policy"⟩ mixedOwners = .ok repo ∧ repo.Ascending ∧
      names ((delete "owner:b").final (capitalOwnerJob.apply.final repo)) =
        ["area:a", "owner:C", "owner:d"] ∧
      Ascending ((delete "owner:b").final (capitalOwnerJob.apply.final repo)) := by
  have hloaded : ((ofSources ⟨"policy"⟩ mixedOwners).toOption.map fun repo =>
      (decide repo.Ascending,
        names ((delete "owner:b").final (capitalOwnerJob.apply.final repo)))) =
      some (true, ["area:a", "owner:C", "owner:d"]) := by
    decide +kernel
  simp only [Option.map_eq_some_iff, toOption_eq_some, Prod.mk.injEq, decide_eq_true_eq] at hloaded
  obtain ⟨repo, hload, hascending, hnames⟩ := hloaded
  have hcalls : Relation.ReflTransGen Calls repo
      ((delete "owner:b").final (capitalOwnerJob.apply.final repo)) :=
    .tail (.single (.job capitalOwnerJob)) (.delete "owner:b")
  exact ⟨repo, hload, hascending, hnames, (ascending_of_calls repo).1 hascending _ hcalls⟩

end Samples

end Repository

end PolicyEditor
