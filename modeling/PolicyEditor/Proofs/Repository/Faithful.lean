import Mathlib.Data.List.InsertIdx
import PolicyEditor.Job.Definitions
import PolicyEditor.Proofs.Editing.Changes
import PolicyEditor.Proofs.Repository.Files
import PolicyEditor.Proofs.Weight.Reparsing

/-!
# Files that are written as they are in memory

The definitions of a file that was read are sound, and their descriptions are those of the text.
This holds on when lists change as they may, and when new definitions come to the file.  The text of
such a file is read as the definitions in memory if and only if the file is intact.

## Main definitions

* `ListEdit.keeping` : whatever keeps lists sound.
* `Definition.Faithful`, `PolicyFile.Faithful` : what is in memory can be written.

## Main results

* `PolicyFile.Faithful.reparse_iff` : a file is read again if and only if it is intact.
* `Repository.faithful_modifyNamed`, `Repository.faithful_modifyMatching`,
  `Repository.faithful_create` : edits keep all files faithful.
-/

namespace PolicyEditor

/-- Whatever keeps lists sound may happen to them. -/
def ListEdit.keeping (p : Printer) : ListEdit where
  members es es' := ∀ e ∈ es', e ∈ es ∨ Member.Sound p e ∧ e.layout.lead = none
  values vs vs' := vs' ⊆ vs
  attributes := AttributesKept p
  rules rs rs' := ∀ r ∈ rs', r ∈ rs ∨ (r.layout.Fits p false ∧ r.Sound p) ∧ r.layout.lead = none

theorem ListEdit.keeping_keeps (p : Printer) : (keeping p).Keeps p where
  members h := h
  values h := h
  attributes h := h
  rules h := h

/-! ### Definitions -/

/-- A text on one line that is read again as it is printed: without white space around it and
without a semicolon at its end. -/
structure IsDescription (text : String) : Prop where
  line : '\n' ∉ text.toList
  reread : rereadDescription text = text

namespace Definition

variable {p : Printer} {d : Definition}

/-- The definition is sound, and its description is one. -/
structure Faithful (p : Printer) (d : Definition) : Prop where
  lead : IsTrivia (p.textOf d.layout.lead)
  sound : d.Sound p
  described : d.layout.span = none → ∀ text ∈ d.body.description, rereadDescription text = text

theorem reread_detach_of_description
    (h : ∀ text ∈ d.body.description, rereadDescription text = text) :
    d.detach.reread = d.detach := by
  refine reread_eq_iff.2 ?_
  rw [detach, Body.description_detach]
  exact h

/-- What is printed of a definition is the definition if its description is read again. -/
theorem printed_eq_detach
    (h : d.layout.span = none → ∀ text ∈ d.body.description, rereadDescription text = text) :
    d.printed = d.detach := by
  rw [printed]
  split
  · rfl
  · next hspan => exact reread_detach_of_description (h (by simpa using hspan))

theorem Faithful.printed_eq (h : d.Faithful p) : d.printed = d.detach :=
  printed_eq_detach h.described

/-- A definition stays faithful if one of its lists changes. -/
theorem Faithful.withBody {b : Body} (h : d.Faithful p)
    (hbody : d.body.Changes (.keeping p) b) : Faithful p { d with body := b } where
  lead := h.lead
  sound := h.sound.withBody (ListEdit.keeping_keeps p) hbody
  described hspan := by
    dsimp only
    rw [hbody.description_eq]
    exact h.described hspan

end Definition

/-! ### Files -/

namespace PolicyFile

variable {f : PolicyFile}

/-- The definitions of the file are faithful, and there are only blanks and comments around them. -/
structure Faithful (f : PolicyFile) : Prop where
  definitions : ∀ d ∈ f.forest.definitions, d.Faithful f.printer
  gap : ∀ frame ∈ f.forest.frame, Text.isQuiet false (f.printer.text frame.gap) = true
  footer : ∀ frame ∈ f.forest.frame,
    Text.isQuiet false (Text.suffix frame.closeStart f.printer.source) = true

theorem faithful_of_parseFile {path : Path} {source : String} {forest : Forest}
    (h : parseFile source path.text = .ok forest) : Faithful { path, source, forest } := by
  have hstands := stands_of_parseFile h {}
  refine ⟨fun d hd => ?_, hstands.sound.gap, hstands.sound.footer⟩
  obtain ⟨hlead, hsound⟩ := hstands.sound.definitions d hd
  refine ⟨hlead, hsound, fun hspan => ?_⟩
  have hsome := hstands.spans d hd
  rw [hspan] at hsome
  cases hsome

theorem faithful_new (path : Path) : Faithful { path } :=
  ⟨by simp, by simp, by simp⟩

/-- A file stays faithful with other faithful definitions. -/
theorem Faithful.withDefinitions {ds : List Definition} (h : f.Faithful)
    (hds : ∀ d ∈ ds, d.Faithful f.printer) (dirty : Bool) :
    Faithful { f with forest := { f.forest with definitions := ds }, dirty } :=
  ⟨hds, h.gap, h.footer⟩

/-- The text of a faithful file is read as the definitions in memory if and only if it is intact. -/
theorem Faithful.reparse_iff (h : f.Faithful) (file : String) :
    (∃ g, parseFile f.render file = .ok g ∧ g.content = f.forest.content) ↔
      f.forest.intact f.printer = true := by
  have hprinted : f.forest.definitions.map Definition.printed = f.forest.content :=
    List.map_congr_left fun d hd => (h.definitions d hd).printed_eq
  have hsound : f.forest.Sound f.printer :=
    ⟨fun d hd => ⟨(h.definitions d hd).lead, (h.definitions d hd).sound⟩, h.gap, h.footer⟩
  rw [← hprinted]
  exact hsound.parseFile_iff

end PolicyFile

/-! ### Repositories -/

namespace Repository

open Edit

/-- All files are faithful. -/
def Faithful (repo : Repository) : Prop :=
  ∀ f ∈ repo.files, f.Faithful

theorem faithful_ofSources {root : Path} {files : List (Path × String)} {repo : Repository}
    (h : ofSources root files = .ok repo) : repo.Faithful :=
  forall_ofSources (fun _ _ _ _ h => PolicyFile.faithful_of_parseFile h) h

theorem editNamed_ok {α : Type} {name : String} {edit : Edit Definition α}
    {ds ds' : List Definition} {a : α} (h : editNamed name edit ds = .ok a ds') :
    ∃ front d d' back, ds = front ++ d :: back ∧ edit d = .ok a d' ∧ ds' = front ++ d' :: back := by
  induction ds generalizing ds' with
  | nil => cases h
  | cons d ds ih =>
    rw [editNamed] at h
    split at h
    · split at h
      · next hedit =>
        cases h
        exact ⟨[], d, _, ds, rfl, hedit, rfl⟩
      · cases h
    · split at h
      · next hrest =>
        cases h
        obtain ⟨front, e, e', back, rfl, hedit, rfl⟩ := ih hrest
        exact ⟨d :: front, e, e', back, rfl, hedit, rfl⟩
      · cases h

theorem editBody_ok {α β : Type} {variant : Variant β} {edit : Edit β α} {d d' : Definition} {a : α}
    (h : editBody variant edit d = .ok a d') :
    ∃ body body', variant.get? d.body = some body ∧ edit body = .ok a body' ∧
      d' = { d with body := variant.set body' } := by
  rw [editBody] at h
  split at h
  · cases h
  · next body hbody =>
    split at h
    · next hedit =>
      cases h
      exact ⟨body, _, hbody, hedit, rfl⟩
    · cases h

/-- An edit of a definition that changes its lists as they may keeps all files faithful. -/
theorem faithful_modifyNamed {α β : Type} {variant : Variant β} {name : String} {edit : Edit β α}
    (hedit : ∀ p b body body' a, variant.get? b = some body → edit body = .ok a body' →
      b.Changes (.keeping p) (variant.set body')) :
    Keeps Faithful (modifyNamed variant name edit) := by
  intro repo a repo' hrepo h
  obtain ⟨front, f, back, ds, hfiles, hds, rfl⟩ := editHolder_ok h
  rw [Faithful, hfiles, List.forall_mem_append, List.forall_mem_cons] at hrepo
  obtain ⟨hfront, hf, hback⟩ := hrepo
  obtain ⟨left, d, d', right, hmem, hd, rfl⟩ := editNamed_ok hds
  obtain ⟨body, body', hbody, hbody', rfl⟩ := editBody_ok hd
  rw [Faithful, List.forall_mem_append, List.forall_mem_cons]
  refine ⟨hfront, hf.withDefinitions ?_ true, hback⟩
  have hall := hf.definitions
  rw [hmem, List.forall_mem_append, List.forall_mem_cons] at hall
  rw [List.forall_mem_append, List.forall_mem_cons]
  exact ⟨hall.1, hall.2.1.withBody (hedit _ _ _ _ _ hbody hbody'), hall.2.2⟩

theorem forall_editMatching {P : Definition → Prop} {p : Definition → Bool}
    {edit : Edit Definition Unit} (hedit : Keeps P edit) {ds ds' : List Definition} {hit : Bool}
    (hds : ∀ d ∈ ds, P d) (h : editMatching p edit ds = .ok hit ds') : ∀ d ∈ ds', P d := by
  induction ds generalizing ds' hit with
  | nil =>
    cases h
    exact hds
  | cons d ds ih =>
    rw [List.forall_mem_cons] at hds
    rw [editMatching] at h
    split at h
    · split at h
      · cases h
      · next hd =>
        split at h
        · cases h
        · next hrest =>
          cases h
          exact List.forall_mem_cons.2 ⟨hedit hds.1 hd, ih hds.2 hrest⟩
    · split at h
      · cases h
      · next hrest =>
        cases h
        exact List.forall_mem_cons.2 ⟨hds.1, ih hds.2 hrest⟩

theorem faithful_editFile {p : Definition → Bool} {edit : Edit Definition Unit}
    (hedit : ∀ q, Keeps (Definition.Faithful q) edit) {f f' : PolicyFile} {hit : Bool}
    (hf : f.Faithful) (h : editFile p edit f = .ok hit f') : f'.Faithful := by
  rw [editFile] at h
  split at h
  · cases h
  · next hds =>
    cases h
    exact hf.withDefinitions (forall_editMatching (hedit _) hf.definitions hds) _

theorem forall_editFiles {p : Definition → Bool} {edit : Edit Definition Unit}
    (hedit : ∀ q, Keeps (Definition.Faithful q) edit) {fs fs' : List PolicyFile} {n : Nat}
    (hfs : ∀ f ∈ fs, f.Faithful) (h : editFiles p edit fs = .ok n fs') : ∀ f ∈ fs', f.Faithful := by
  induction fs generalizing fs' n with
  | nil =>
    cases h
    exact hfs
  | cons f fs ih =>
    rw [List.forall_mem_cons] at hfs
    rw [editFiles] at h
    split at h
    · cases h
    · next hfile =>
      split at h
      · cases h
      · next hrest =>
        cases h
        exact List.forall_mem_cons.2 ⟨faithful_editFile hedit hfs.1 hfile, ih hfs.2 hrest⟩

/-- An edit that keeps definitions faithful keeps all files faithful. -/
theorem faithful_modifyMatching {p : Definition → Bool} {edit : Edit Definition Unit}
    (hedit : ∀ q, Keeps (Definition.Faithful q) edit) :
    Keeps Faithful (modifyMatching p edit) := by
  intro repo n repo' hrepo h
  simp only [modifyMatching, Edit.focus] at h
  split at h
  · next hfiles =>
    cases h
    exact forall_editFiles hedit hrepo hfiles
  · cases h

/-- A new definition that is faithful everywhere keeps all files faithful. -/
theorem faithful_create {path : Path} {d : Definition} (hd : ∀ p, d.Faithful p) :
    Keeps Faithful (create path d) := by
  intro repo _ repo' hrepo h
  obtain ⟨-, -, rfl⟩ := create_eq_ok.1 h
  have hinsert (f : PolicyFile) (hf : f.Faithful) : (insertInto d f).Faithful := by
    refine hf.withDefinitions (fun d' hd' => ?_) true
    rcases List.eq_or_mem_of_mem_insertIdx hd' with rfl | hd'
    · exact hd _
    · exact hf.definitions d' hd'
  exact forall_insertAt (hinsert _ (PolicyFile.faithful_new path))
    (fun f hf => hinsert f (hrepo f hf)) hrepo

theorem faithful_createDefinition {path : Path} {d : Definition} {okIfExists : Bool}
    (hd : ∀ p, d.normalize.Faithful p) : Keeps Faithful (createDefinition path d okIfExists) := by
  refine keeps_get.bind fun repo => ?_
  split
  · exact keeps_pure _
  · exact faithful_create hd

end Repository

end PolicyEditor
