import PolicyEditor.Proofs.Repository.Steps

/-!
# Edits of all matching definitions

An edit of all definitions for which a condition holds goes through the definitions in their order,
file by file.  If all of its parts succeed, each matching definition is edited, and the files that
hold one are dirty.  If one part fails, the edit ends there: the definitions in front are edited,
and the definitions behind are as they were.  The file of this definition does not become dirty.

## Main definitions

* `Definition.edited` : a definition, edited if it matches.
* `PolicyFile.edited` : a file with its matching definitions edited.
* `PolicyFile.Revises` : a file whose chosen definitions are related to the former ones.
* `Repository.StopsAt` : a repository whose edit has ended at a definition.
* `Repository.Settles` : an edit of matching definitions that has no more to do afterwards.

## Main results

* `Repository.modifyMatching_ok` : what a successful edit does.
* `Repository.modifyMatching_error` : what a failed edit leaves.
* `Repository.modifyMatching_eq_ok_iff` : when an edit succeeds.
* `Repository.revises_modifyMatching` : a successful edit revises the files.
* `Repository.modifyMatching_again` : an edit that is done again.
-/

namespace PolicyEditor

variable {p : Definition → Bool} {x : Edit Definition Unit}

/-- The definition behind an edit if it matches. -/
def Definition.edited (p : Definition → Bool) (x : Edit Definition Unit) (d : Definition) :
    Definition :=
  if p d then x.final d else d

/-- The file with all matching definitions edited.  It is dirty if there are any. -/
def PolicyFile.edited (p : Definition → Bool) (x : Edit Definition Unit) (f : PolicyFile) :
    PolicyFile :=
  { f with
    forest := { f.forest with definitions := f.forest.definitions.map (.edited p x) }
    dirty := f.dirty || f.forest.definitions.any p }

theorem Definition.map_edited_of_any_eq_false {ds : List Definition} (h : ds.any p = false) :
    ds.map (.edited p x) = ds := by
  rw [List.any_eq_false] at h
  exact (List.map_congr_left fun d hd => if_neg (h d hd)).trans (List.map_id ds)

/-- A file without a matching definition stays as it is. -/
theorem PolicyFile.edited_of_any_eq_false {f : PolicyFile}
    (h : f.forest.definitions.any p = false) : f.edited p x = f := by
  rw [PolicyFile.edited, Definition.map_edited_of_any_eq_false h, h, Bool.or_false]

/-- The file whose chosen definitions are revised as `r` tells.  All other definitions stay, and the
file is dirty if any definition is chosen. -/
inductive PolicyFile.Revises (chosen : Definition → Prop) (r : Definition → Definition → Prop)
    (f : PolicyFile) : PolicyFile → Prop
  | intro {definitions : List Definition} {dirty : Bool}
      (hdefinitions : List.Forall₂ (fun d d' => chosen d ∧ r d d' ∨ ¬chosen d ∧ d' = d)
        f.forest.definitions definitions)
      (hdirty : dirty = true ↔ f.dirty = true ∨ ∃ d ∈ f.forest.definitions, chosen d) :
      Revises chosen r f { f with forest := { f.forest with definitions }, dirty }

namespace Repository

open Edit

/-- The edits of all matching definitions succeed. -/
def AllSucceed (p : Definition → Bool) (x : Edit Definition Unit) (ds : List Definition) : Prop :=
  ∀ d ∈ ds, p d = true → ∃ d', x d = .ok () d'

/-- The edit of the matching definitions ends at the definition `d`, whose edit fails with `e` and
changes nothing.  Those in front of it are edited, in its file and in the files in front of it. -/
inductive StopsAt (p : Definition → Bool) (x : Edit Definition Unit) (d : Definition)
    (e : PolicyError) (repo : Repository) : Repository → Prop
  | intro {front back : List PolicyFile} {f : PolicyFile} {left right : List Definition}
      (hfiles : repo.files = front ++ f :: back)
      (hdefinitions : f.forest.definitions = left ++ d :: right)
      (hmatch : p d = true) (herror : x d = .error e d)
      (hsuccess : AllSucceed p x (front.flatMap (·.forest.definitions) ++ left)) :
      StopsAt p x d e repo
        { repo with
          files := front.map (.edited p x) ++
            { f with
              forest :=
                { f.forest with definitions := left.map (.edited p x) ++ d :: right } } :: back }

theorem StopsAt.error {d : Definition} {e : PolicyError} {repo repo' : Repository}
    (h : repo.StopsAt p x d e repo') : x d = .error e d := by
  obtain ⟨-, -, -, herror, -⟩ := h
  exact herror

/-! ### Definitions of a file -/

theorem editMatching_ok {ds ds' : List Definition} {hit : Bool}
    (h : editMatching p x ds = .ok hit ds') :
    AllSucceed p x ds ∧ ds' = ds.map (.edited p x) ∧ hit = ds.any p := by
  induction ds generalizing ds' hit with
  | nil =>
    cases h
    exact ⟨fun _ hmem => (by cases hmem), rfl, rfl⟩
  | cons d ds ih =>
    rw [editMatching] at h
    split at h
    · next hp =>
      split at h
      · cases h
      · next hd =>
        split at h
        · cases h
        · next hrest =>
          cases h
          obtain ⟨hall, rfl, -⟩ := ih hrest
          refine ⟨List.forall_mem_cons.2 ⟨fun _ => ⟨_, hd⟩, hall⟩, ?_, ?_⟩
          · rw [List.map_cons, Definition.edited, if_pos hp, final_of_ok hd]
          · rw [List.any_cons, hp, Bool.true_or]
    · next hp =>
      split at h
      · cases h
      · next hrest =>
        cases h
        obtain ⟨hall, rfl, rfl⟩ := ih hrest
        refine ⟨List.forall_mem_cons.2 ⟨fun hp' => absurd hp' hp, hall⟩, ?_, ?_⟩
        · rw [List.map_cons, Definition.edited, if_neg hp]
        · rw [List.any_cons, Bool.eq_false_iff.2 hp, Bool.false_or]

theorem editMatching_of_allSucceed {ds : List Definition} (h : AllSucceed p x ds) :
    editMatching p x ds = .ok (ds.any p) (ds.map (.edited p x)) := by
  induction ds with
  | nil => rfl
  | cons d ds ih =>
    obtain ⟨hd, hds⟩ := List.forall_mem_cons.1 h
    rw [editMatching, ih hds]
    by_cases hp : p d = true
    · obtain ⟨d', hedit⟩ := hd hp
      rw [if_pos hp, hedit, List.map_cons, Definition.edited, if_pos hp, final_of_ok hedit,
        List.any_cons, hp, Bool.true_or]
    · rw [if_neg hp, List.map_cons, Definition.edited, if_neg hp, List.any_cons,
        Bool.eq_false_iff.2 hp, Bool.false_or]

theorem editMatching_error {ds ds' : List Definition} {e : PolicyError}
    (h : editMatching p x ds = .error e ds') :
    ∃ left d d' right, ds = left ++ d :: right ∧ p d = true ∧ x d = .error e d' ∧
      AllSucceed p x left ∧ ds' = left.map (.edited p x) ++ d' :: right := by
  induction ds generalizing ds' with
  | nil => cases h
  | cons d ds ih =>
    rw [editMatching] at h
    split at h
    · next hp =>
      split at h
      · next d' hd =>
        cases h
        exact ⟨[], d, d', ds, rfl, hp, hd, fun _ hmem => (by cases hmem), rfl⟩
      · next hd =>
        split at h
        · next hrest =>
          cases h
          obtain ⟨left, c, c', right, rfl, hc, hfail, hall, rfl⟩ := ih hrest
          refine ⟨d :: left, c, c', right, rfl, hc, hfail,
            List.forall_mem_cons.2 ⟨fun _ => ⟨_, hd⟩, hall⟩, ?_⟩
          rw [List.map_cons, List.cons_append, Definition.edited, if_pos hp, final_of_ok hd]
        · cases h
    · next hp =>
      split at h
      · next hrest =>
        cases h
        obtain ⟨left, c, c', right, rfl, hc, hfail, hall, rfl⟩ := ih hrest
        refine ⟨d :: left, c, c', right, rfl, hc, hfail,
          List.forall_mem_cons.2 ⟨fun hp' => absurd hp' hp, hall⟩, ?_⟩
        rw [List.map_cons, List.cons_append, Definition.edited, if_neg hp]
      · cases h

/-! ### Files -/

theorem editFile_ok {f f' : PolicyFile} {hit : Bool} (h : editFile p x f = .ok hit f') :
    AllSucceed p x f.forest.definitions ∧ f' = f.edited p x ∧
      hit = f.forest.definitions.any p := by
  rw [editFile] at h
  split at h
  · cases h
  · next hds =>
    cases h
    obtain ⟨hall, rfl, rfl⟩ := editMatching_ok hds
    exact ⟨hall, rfl, rfl⟩

theorem editFiles_ok {fs fs' : List PolicyFile} {n : Nat} (h : editFiles p x fs = .ok n fs') :
    fs' = fs.map (.edited p x) ∧ n = fs.countP (·.forest.definitions.any p) := by
  induction fs generalizing fs' n with
  | nil =>
    cases h
    exact ⟨rfl, rfl⟩
  | cons f fs ih =>
    rw [editFiles] at h
    split at h
    · cases h
    · next hf =>
      split at h
      · cases h
      · next hrest =>
        cases h
        obtain ⟨-, rfl, rfl⟩ := editFile_ok hf
        obtain ⟨rfl, rfl⟩ := ih hrest
        exact ⟨rfl, by rw [List.countP_cons]; split <;> rfl⟩

theorem editFiles_of_allSucceed {fs : List PolicyFile}
    (h : AllSucceed p x (fs.flatMap (·.forest.definitions))) :
    editFiles p x fs =
      .ok (fs.countP (·.forest.definitions.any p)) (fs.map (.edited p x)) := by
  induction fs with
  | nil => rfl
  | cons f fs ih =>
    rw [List.flatMap_cons] at h
    obtain ⟨hf, hfs⟩ := List.forall_mem_append.1 h
    rw [editFiles, editFile, editMatching_of_allSucceed hf, ih hfs, List.countP_cons]
    dsimp only
    split <;> rfl

theorem allSucceed_of_editFiles {fs fs' : List PolicyFile} {n : Nat}
    (h : editFiles p x fs = .ok n fs') : AllSucceed p x (fs.flatMap (·.forest.definitions)) := by
  induction fs generalizing fs' n with
  | nil => exact fun _ hmem => by cases hmem
  | cons f fs ih =>
    rw [editFiles] at h
    split at h
    · cases h
    · next hf =>
      split at h
      · cases h
      · next hrest => exact List.forall_mem_append.2 ⟨(editFile_ok hf).1, ih hrest⟩

theorem editFiles_error {fs fs' : List PolicyFile} {e : PolicyError}
    (h : editFiles p x fs = .error e fs') :
    ∃ front f f' back, fs = front ++ f :: back ∧ editFile p x f = .error e f' ∧
      AllSucceed p x (front.flatMap (·.forest.definitions)) ∧
      fs' = front.map (.edited p x) ++ f' :: back := by
  induction fs generalizing fs' with
  | nil => cases h
  | cons f fs ih =>
    rw [editFiles] at h
    split at h
    · next f' hf =>
      cases h
      exact ⟨[], f, f', fs, rfl, hf, fun _ hmem => (by cases hmem), rfl⟩
    · next hf =>
      split at h
      · next hrest =>
        cases h
        obtain ⟨hall, rfl, -⟩ := editFile_ok hf
        obtain ⟨front, g, g', back, rfl, hg, hfront, rfl⟩ := ih hrest
        exact ⟨f :: front, g, g', back, rfl, hg, List.forall_mem_append.2 ⟨hall, hfront⟩, rfl⟩
      · cases h

/-! ### Repositories -/

variable {repo repo' : Repository} {n : Nat}

/-- A successful edit edits every matching definition, and counts the files that hold any. -/
theorem modifyMatching_ok (h : modifyMatching p x repo = .ok n repo') :
    repo' = { repo with files := repo.files.map (.edited p x) } ∧
      n = repo.files.countP (·.forest.definitions.any p) := by
  simp only [modifyMatching, Edit.focus] at h
  split at h
  · next hfiles =>
    cases h
    obtain ⟨rfl, rfl⟩ := editFiles_ok hfiles
    exact ⟨rfl, rfl⟩
  · cases h

/-- An edit of all matching definitions succeeds if the edit of each of them does. -/
theorem modifyMatching_eq_ok_iff :
    modifyMatching p x repo = .ok n repo' ↔
      AllSucceed p x repo.definitions ∧
        repo' = { repo with files := repo.files.map (.edited p x) } ∧
        n = repo.files.countP (·.forest.definitions.any p) := by
  constructor
  · intro h
    refine ⟨?_, modifyMatching_ok h⟩
    simp only [modifyMatching, Edit.focus] at h
    split at h
    · next hfiles => exact allSucceed_of_editFiles hfiles
    · cases h
  · rintro ⟨hall, rfl, rfl⟩
    simp only [modifyMatching, Edit.focus, editFiles_of_allSucceed hall]

section Revises

variable {chosen : Definition → Prop} {r : Definition → Definition → Prop}

/-- A file whose matching definitions are edited is revised as the edit does it. -/
theorem revises_edited (hchosen : ∀ d, chosen d ↔ p d = true)
    (hr : ∀ d d', chosen d → x d = .ok () d' → r d d') {f : PolicyFile}
    (h : AllSucceed p x f.forest.definitions) : f.Revises chosen r (f.edited p x) := by
  refine .intro ?_ ?_
  · refine List.forall₂_map_right_iff.2 (List.forall₂_same.2 fun d hd => ?_)
    rw [hchosen]
    by_cases hp : p d = true
    · obtain ⟨d', hedit⟩ := h d hd hp
      rw [Definition.edited, if_pos hp, final_of_ok hedit]
      exact .inl ⟨hp, hr d d' ((hchosen d).2 hp) hedit⟩
    · exact .inr ⟨hp, if_neg hp⟩
  · simp only [Bool.or_eq_true, List.any_eq_true, hchosen]

/-- A successful edit of matching definitions revises the files one by one, and a definition is
chosen if the edit has touched a file. -/
theorem revises_modifyMatching (h : modifyMatching p x repo = .ok n repo')
    (hchosen : ∀ d, chosen d ↔ p d = true) (hr : ∀ d d', chosen d → x d = .ok () d' → r d d') :
    (n ≠ 0 → ∃ d ∈ repo.definitions, chosen d) ∧
      ∃ files, List.Forall₂ (PolicyFile.Revises chosen r) repo.files files ∧
        repo' = { repo with files } := by
  obtain ⟨hall, rfl, rfl⟩ := modifyMatching_eq_ok_iff.1 h
  refine ⟨fun htouched => ?_, _, ?_, rfl⟩
  · obtain ⟨f, hf, hany⟩ := List.countP_pos_iff.1 (Nat.pos_of_ne_zero htouched)
    obtain ⟨d, hd, hp⟩ := List.any_eq_true.1 hany
    exact ⟨d, List.mem_flatMap.2 ⟨f, hf, hd⟩, (hchosen d).2 hp⟩
  · refine List.forall₂_map_right_iff.2 (List.forall₂_same.2 fun f hf => ?_)
    exact revises_edited hchosen hr fun d hd => hall d (List.mem_flatMap.2 ⟨f, hf, hd⟩)

end Revises

/-- If no file holds a matching definition, nothing is edited. -/
theorem modifyMatching_ok_zero (h : modifyMatching p x repo = .ok 0 repo') : repo' = repo := by
  obtain ⟨rfl, hcount⟩ := modifyMatching_ok h
  have hnone := List.countP_eq_zero.1 hcount.symm
  have hfiles : repo.files.map (.edited p x) = repo.files.map id :=
    List.map_congr_left fun f hf =>
      PolicyFile.edited_of_any_eq_false (Bool.eq_false_iff.2 (hnone f hf))
  rw [hfiles, List.map_id]

/-- A failed edit ends at a matching definition. -/
theorem modifyMatching_error {e : PolicyError} (hx : Restores x)
    (h : modifyMatching p x repo = .error e repo') : ∃ d, repo.StopsAt p x d e repo' := by
  simp only [modifyMatching, Edit.focus] at h
  split at h
  · cases h
  · next hfiles =>
    cases h
    obtain ⟨front, f, f', back, hsplit, hf, hfront, rfl⟩ := editFiles_error hfiles
    rw [editFile] at hf
    split at hf
    · next hds =>
      cases hf
      obtain ⟨left, d, d', right, hdefinitions, hp, hd, hleft, rfl⟩ := editMatching_error hds
      obtain rfl := hx hd
      exact ⟨_, .intro hsplit hdefinitions hp hd (List.forall_mem_append.2 ⟨hfront, hleft⟩)⟩
    · cases hf

/-! ### Edits that are done again -/

/-- A definition that was edited still matches, and to edit it again does not change it. -/
def Settles (p : Definition → Bool) (x : Edit Definition Unit) : Prop :=
  ∀ ⦃d d'⦄, p d = true → x d = .ok () d' → p d' = true ∧ x d' = .ok () d'

theorem Settles.edited (hx : Settles p x) {ds : List Definition} (h : AllSucceed p x ds)
    {d : Definition} (hd : d ∈ ds) :
    p (d.edited p x) = p d ∧ (p d = true → x (d.edited p x) = .ok () (d.edited p x)) ∧
      (d.edited p x).edited p x = d.edited p x := by
  by_cases hp : p d = true
  · obtain ⟨d', hedit⟩ := h d hd hp
    obtain ⟨hmatch, hagain⟩ := hx hp hedit
    have hedited : d.edited p x = d' := by rw [Definition.edited, if_pos hp, final_of_ok hedit]
    rw [hedited, Definition.edited, if_pos hmatch, final_of_ok hagain, hmatch, hp]
    exact ⟨rfl, fun _ => hagain, rfl⟩
  · have hedited : d.edited p x = d := if_neg hp
    rw [hedited]
    exact ⟨rfl, fun hp' => absurd hp' hp, hedited⟩

theorem Settles.edited_file (hx : Settles p x) {f : PolicyFile}
    (h : AllSucceed p x f.forest.definitions) :
    (f.edited p x).forest.definitions.any p = f.forest.definitions.any p ∧
      (f.edited p x).edited p x = f.edited p x := by
  have hany : (f.edited p x).forest.definitions.any p = f.forest.definitions.any p := by
    refine List.any_map.trans (Bool.eq_iff_iff.2 ?_)
    simp only [List.any_eq_true, Function.comp_apply]
    exact exists_congr fun d => and_congr_right fun hd => by rw [(hx.edited h hd).1]
  have hmap : (f.edited p x).forest.definitions.map (.edited p x) =
      (f.edited p x).forest.definitions :=
    List.map_map.trans (List.map_congr_left fun d hd => (hx.edited h hd).2.2)
  refine ⟨hany, ?_⟩
  rw [PolicyFile.edited, hmap, hany]
  simp only [PolicyFile.edited, Bool.or_assoc, Bool.or_self]

/-- What all matching definitions were edited to is kept by the same edit. -/
theorem modifyMatching_again (hx : Settles p x) (h : modifyMatching p x repo = .ok n repo') :
    modifyMatching p x repo' = .ok n repo' := by
  obtain ⟨hall, rfl, rfl⟩ := modifyMatching_eq_ok_iff.1 h
  have hfile : ∀ f ∈ repo.files, AllSucceed p x f.forest.definitions := fun f hf d hd =>
    hall d (List.mem_flatMap.2 ⟨f, hf, hd⟩)
  refine modifyMatching_eq_ok_iff.2 ⟨?_, ?_, ?_⟩
  · intro d' hd' hp
    obtain ⟨f', hf', hd'⟩ := List.mem_flatMap.1 hd'
    obtain ⟨f, hf, rfl⟩ := List.mem_map.1 hf'
    obtain ⟨d, hd, rfl⟩ := List.mem_map.1 hd'
    obtain ⟨hmatch, hagain, -⟩ := hx.edited (hfile f hf) hd
    exact ⟨_, hagain (hmatch.symm.trans hp)⟩
  · have hfiles : (repo.files.map (.edited p x)).map (PolicyFile.edited p x) =
        repo.files.map (.edited p x) :=
      List.map_map.trans (List.map_congr_left fun f hf => (hx.edited_file (hfile f hf)).2)
    rw [hfiles]
  · rw [List.countP_map]
    exact List.countP_congr fun f hf => by
      rw [Function.comp_apply, (hx.edited_file (hfile f hf)).1]

end Repository

end PolicyEditor
