import PolicyEditor.Proofs.FileTree.Access
import PolicyEditor.Proofs.Repository.Files
import PolicyEditor.Run

/-!
# Writing files one after the other

A file is written as a whole: it changes one place, or no file at all.  Files that are written one
after the other change no place but those that their paths lead to, and a failure leaves the files
written before it.

## Main results

* `FileSystem.writeInMemory_ok`, `FileSystem.writeInMemory_error` : one file that is written.
* `Repository.writeFiles_ok` : what files that were written have changed.
* `Repository.writeFiles_error` : a failure is that of one file, behind files that were written.
-/

namespace PolicyEditor

open Directory

namespace FileSystem

theorem writeInMemory_apply (path : Path) (text : String) (d : Directory Content) :
    writeInMemory path text d =
      match d.makeDirectories (path.parent?.getD ⟨"."⟩) with
      | .error cause => .error (.io (path.parent?.getD ⟨"."⟩) cause) d
      | .ok d₁ =>
        match d₁.replaceFile path (.text text) with
        | .error cause => .error (.io path cause) d₁
        | .ok d₂ => .ok () d₂ := by
  simp only [writeInMemory, bind, EStateM.bind, Edit.get_apply, failure]
  cases d.makeDirectories (path.parent?.getD ⟨"."⟩) with
  | error cause => rfl
  | ok d₁ =>
    simp only [Except.mapError, Edit.ofExcept, Edit.pure_apply, Edit.set_apply]
    cases d₁.replaceFile path (.text text) <;> rfl

/-- A file that is written is the one that its path leads to, in a tree with further
directories. -/
theorem writeInMemory_ok {path : Path} {text : String} {d d' : Directory Content}
    (h : writeInMemory path text d = .ok () d') :
    ∃ d₁ place, d.Grows d₁ ∧ Replaces place (.text text) d₁ d' ∧ d'.Leads path place := by
  rw [writeInMemory_apply] at h
  split at h
  · cases h
  · next d₁ hmake =>
    split at h
    · cases h
    · next hreplace =>
      cases h
      obtain ⟨place, hplace, hleads⟩ := replaceFile_ok hreplace
      exact ⟨d₁, place, grows_of_makeDirectories hmake, hplace, hleads⟩

/-- A file that cannot be written leaves nothing behind but directories. -/
theorem writeInMemory_error {path : Path} {text : String} {d d' : Directory Content}
    {e : PolicyError} (h : writeInMemory path text d = .error e d') : d.Grows d' := by
  rw [writeInMemory_apply] at h
  split at h
  · cases h
    exact .refl _
  · next hmake =>
    split at h
    · cases h
      exact grows_of_makeDirectories hmake
    · cases h

end FileSystem

namespace Repository

open FileSystem

/-- The content of a place is that of one of some files, and this file's path leads there. -/
def Written (files : List (Path × String)) (d : Directory Content) (place : List FileName) : Prop :=
  ∃ file ∈ files, d.Leads file.1 place ∧ d.view place = .file (.text file.2)

theorem writeFiles_cons (file : Path × String) (files : List (Path × String))
    (d : Directory Content) :
    writeFiles inMemory (file :: files) d =
      match writeInMemory file.1 file.2 d with
      | .ok () d => writeFiles inMemory files d
      | .error e d => .error e d := by
  simp only [writeFiles, bind, EStateM.bind, inMemory]
  cases writeInMemory file.1 file.2 d <;> rfl

/-- Files that were written have changed the places that their paths lead to, and no others. -/
structure Save (files : List (Path × String)) (d d' : Directory Content) : Prop where
  kept : d.Extends d'
  unchanged : ∀ place, Written files d' place ∨ d.SameFile d' place
  written : ∀ file ∈ files, ∃ place, d'.Leads file.1 place ∧ Written files d' place

theorem Save.nil {d d' : Directory Content} (h : d.Grows d') : Save [] d d' :=
  ⟨h.extends, fun place => .inr (h.sameFile place), by simp⟩

theorem Written.of_subset {files files' : List (Path × String)} {d : Directory Content}
    {place : List FileName} (h : Written files d place) (hsub : files ⊆ files') :
    Written files' d place :=
  let ⟨file, hfile, hholds⟩ := h
  ⟨file, hsub hfile, hholds⟩

theorem Save.cons {file : Path × String} {files : List (Path × String)}
    {d₁ d₂ d₃ : Directory Content} (hwrite : writeInMemory file.1 file.2 d₁ = .ok () d₂)
    (h : Save files d₂ d₃) : Save (file :: files) d₁ d₃ := by
  obtain ⟨d, target, hgrows, hreplaces, hleads⟩ := writeInMemory_ok hwrite
  have htarget : Written (file :: files) d₃ target := by
    rcases h.unchanged target with hwritten | hsame
    · exact hwritten.of_subset (List.subset_cons_self _ _)
    · have hview : d₂.view target = .file (.text file.2) := by rw [hreplaces.view, if_pos rfl]
      exact ⟨file, List.mem_cons_self, h.kept.leads hleads, (hsame _).2 hview⟩
  refine ⟨hgrows.extends.trans (hreplaces.extends.trans h.kept), fun place => ?_, ?_⟩
  · rcases h.unchanged place with hwritten | hsame
    · exact .inl (hwritten.of_subset (List.subset_cons_self _ _))
    · by_cases hplace : place = target
      · exact .inl (hplace ▸ htarget)
      · exact .inr (((hgrows.sameFile place).trans (hreplaces.sameFile hplace)).trans hsame)
  · rw [List.forall_mem_cons]
    refine ⟨⟨target, h.kept.leads hleads, htarget⟩, fun other hother => ?_⟩
    obtain ⟨place, hplace, hwritten⟩ := h.written other hother
    exact ⟨place, hplace, hwritten.of_subset (List.subset_cons_self _ _)⟩

theorem save_of_writeFiles {files : List (Path × String)} {d d' : Directory Content}
    (h : writeFiles inMemory files d = .ok () d') : Save files d d' := by
  induction files generalizing d with
  | nil =>
    cases h
    exact .nil (.refl _)
  | cons file files ih =>
    rw [writeFiles_cons] at h
    split at h
    · next hwrite => exact .cons hwrite (ih h)
    · cases h

/-- Files that cannot all be written are written up to the first failure. -/
theorem save_of_writeFiles_error {files : List (Path × String)} {d d' : Directory Content}
    {e : PolicyError} (h : writeFiles inMemory files d = .error e d') :
    ∃ written failed rest, files = written ++ failed :: rest ∧ Save written d d' ∧
      ∃ d₁, writeFiles inMemory written d = .ok () d₁ ∧
        writeInMemory failed.1 failed.2 d₁ = .error e d' := by
  induction files generalizing d with
  | nil => cases h
  | cons file files ih =>
    rw [writeFiles_cons] at h
    split at h
    · next d₁ hwrite =>
      obtain ⟨written, failed, rest, rfl, hsave, d₂, hwritten, hfailed⟩ := ih h
      refine ⟨file :: written, failed, rest, rfl, .cons hwrite hsave, d₂, ?_, hfailed⟩
      rw [writeFiles_cons, hwrite]
      exact hwritten
    · next hwrite =>
      cases h
      exact ⟨[], file, files, rfl, .nil (writeInMemory_error hwrite), d, rfl, hwrite⟩

end Repository

end PolicyEditor
