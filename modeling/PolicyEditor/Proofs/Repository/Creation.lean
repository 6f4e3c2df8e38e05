import Mathlib.Data.List.InsertIdx
import Mathlib.Logic.Relation
import PolicyEditor.Proofs.Layout.Detaching
import PolicyEditor.Proofs.Repository.Files
import PolicyEditor.Proofs.Weight.Reparsing

/-!
# Creating and deleting definitions

Definitions that are given as texts are created in the files of a repository, and definitions are
deleted.  Every file then is read again as the definitions in memory, in their order, with one
exception: if the source of a file is nothing but a comment without a line feed at its end, the
first definition that is created in the file comes to stand behind this comment and is lost.

## Main definitions

* `Text.IsOpenComment` : a text of blanks and comments, of which the last one is not closed.
* `Repository.Catalogues` : one definition is created or deleted.
* `PolicyFile.Anchored` : the layouts of a file are those of its source.
* `PolicyFile.Settled` : its definitions are intact, too.

## Main results

* `Repository.settled_of_catalogues` : the files stay settled.
* `reparse_iff_of_catalogues` : a file is read again unless its source is an open comment.
-/

namespace PolicyEditor

open Text

/-- The text consists of blanks and comments, and the last comment is not closed by a line feed. -/
def Text.IsOpenComment (text : List Char) : Prop :=
  isQuiet false text = true ∧ commentAfter false text = true

/-- One definition of a text is created, or one definition is deleted. -/
inductive Repository.Catalogues (repo : Repository) : Repository → Prop
  | create {path : Path} {text : String} {d : Definition} {repo' : Repository} :
    parseDefinition text = .ok d → repo.create path d = .ok () repo' → Catalogues repo repo'
  | delete {name : String} {d : Definition} {repo' : Repository} :
    repo.delete name = .ok d repo' → Catalogues repo repo'

/-! ### Definitions of texts -/

/-- The definition of a text is sound and intact in every file, and has no layout. -/
theorem stands_of_parseDefinition {text : String} {d : Definition}
    (h : parseDefinition text = .ok d) :
    d.layout = {} ∧ ∀ p : Printer, d.Sound p ∧ d.intact p = true := by
  obtain ⟨f, hparse, hcontent⟩ := parseDefinition_eq_ok.1 h
  have hstands := stands_of_parseFile hparse {}
  have hintact := hstands.intact
  rw [Forest.intact, Bool.and_eq_true, List.all_eq_true] at hintact
  obtain ⟨d', hd', rfl⟩ := List.mem_map.1 (hcontent ▸ List.mem_singleton_self d)
  exact ⟨rfl, fun p => ⟨(hstands.sound.definitions d' hd').2.detach,
    Definition.intact_detach (hintact.1 d' hd')⟩⟩

namespace PolicyFile

/-! ### Anchored and settled files -/

/-- The layouts of the definitions are those of the source, and it is known whether a comment at its
start is open.  Then all definitions are new. -/
structure Anchored (f : PolicyFile) : Prop where
  sound : f.forest.Sound f.printer
  front : ∀ frame ∈ f.forest.frame,
    commentAfter false (f.printer.text frame.gap) = true ↔ IsOpenComment f.source.toList
  opened : IsOpenComment f.source.toList →
    f.forest.frame.isSome ∧ ∀ d ∈ f.forest.definitions, d.layout = {}

/-- The definitions of a file are sound and intact, and it is known whether a comment at its start
is open.  Then all definitions are new. -/
structure Settled (f : PolicyFile) : Prop where
  sound : f.forest.Sound f.printer
  intact : ∀ d ∈ f.forest.definitions, d.intact f.printer = true
  front : ∀ frame ∈ f.forest.frame,
    commentAfter false (f.printer.text frame.gap) = true ↔ IsOpenComment f.source.toList
  opened : IsOpenComment f.source.toList →
    f.forest.frame.isSome ∧ ∀ d ∈ f.forest.definitions, d.layout = {}

theorem settled_of_parseFile {path : Path} {source : String} {forest : Forest}
    (h : parseFile source path.text = .ok forest) : Settled { path, source, forest } := by
  have hstands := stands_of_parseFile h {}
  obtain ⟨frame, hframe, hgap⟩ := hstands.front
  have hintact := hstands.intact
  rw [Forest.intact, Bool.and_eq_true, List.all_eq_true] at hintact
  by_cases hnil : forest.definitions = []
  · rw [if_pos hnil] at hgap
    have hquiet := hstands.sound.gap frame hframe
    refine ⟨hstands.sound, hintact.1, ?_, fun _ => ⟨hframe ▸ rfl, by simp [hnil]⟩⟩
    intro frame' hframe'
    obtain rfl : frame = frame' := by simpa [hframe] using hframe'
    rw [hgap] at hquiet
    show commentAfter false (Printer.text { source := source.toList } frame.gap) = true ↔ _
    rw [hgap]
    exact ⟨fun hopen => ⟨hquiet, hopen⟩, And.right⟩
  · rw [if_neg hnil] at hgap
    have hclosed : ¬ IsOpenComment source.toList := by
      obtain ⟨q, text, htext, -, hclosed, htrail⟩ := Forest.trail_of_parse (parse_of_parseFile h)
      have hne : forest.content ≠ [] := by simpa [Forest.content] using hnil
      intro hopen
      have hquiet := hopen.1
      rw [htext] at hquiet
      have hopens := htrail.opens hne
      rw [← List.append_nil text] at hopens
      have htext := eq_nil_of_quiet (hclosed hne) hquiet hopens
      subst htext
      cases hcontent : forest.content with
      | nil => exact hne hcontent
      | cons d ds =>
        obtain ⟨c, hc, -⟩ := htrail.opens hne
        cases hc
    refine ⟨hstands.sound, hintact.1, ?_, fun hopen => absurd hopen hclosed⟩
    intro frame' hframe'
    obtain rfl : frame = frame' := by simpa [hframe] using hframe'
    show commentAfter false (Printer.text { source := source.toList } frame.gap) = true ↔ _
    rw [hgap]
    exact ⟨fun hopen => (by cases hopen), fun hopen => absurd hopen hclosed⟩

variable {f : PolicyFile}

theorem Settled.anchored (h : f.Settled) : f.Anchored :=
  ⟨h.sound, h.front, h.opened⟩

/-- A file stays anchored if sound definitions without a layout are added, and others are
removed. -/
theorem Anchored.withDefinitions {ds : List Definition} (h : f.Anchored)
    (hds : ∀ d ∈ ds, d ∈ f.forest.definitions ∨ d.layout = {} ∧ d.Sound f.printer) :
    (f.withDefinitions ds).Anchored where
  sound :=
    { definitions := fun d hd => (hds d hd).elim (h.sound.definitions d)
        fun hnew => ⟨hnew.1 ▸ .nil, hnew.2⟩
      gap := h.sound.gap
      footer := h.sound.footer }
  front := h.front
  opened hopen :=
    ⟨(h.opened hopen).1, fun d hd => (hds d hd).elim ((h.opened hopen).2 d) And.left⟩

/-- A file stays settled if sound and intact definitions are added, which have no layout, and others
are removed. -/
theorem Settled.withDefinitions {ds : List Definition} (h : f.Settled)
    (hds : ∀ d ∈ ds, d ∈ f.forest.definitions ∨
      d.layout = {} ∧ d.Sound f.printer ∧ d.intact f.printer = true) :
    (f.withDefinitions ds).Settled := by
  have hanchored := h.anchored.withDefinitions fun d hd =>
    (hds d hd).imp_right fun hnew => ⟨hnew.1, hnew.2.1⟩
  exact ⟨hanchored.sound, fun d hd => (hds d hd).elim (h.intact d) fun hnew => hnew.2.2,
    hanchored.front, hanchored.opened⟩

/-- A file that did not exist is settled. -/
theorem settled_new (path : Path) : Settled { path } where
  sound := ⟨by simp, by simp, by simp⟩
  intact := by simp
  front := by simp
  opened h := by cases h.2

/-- A settled file is intact unless it has definitions behind an open comment. -/
theorem Settled.intact_iff (h : f.Settled) :
    f.forest.intact f.printer = true ↔
      (IsOpenComment f.source.toList → f.forest.definitions = []) := by
  have hall : f.forest.definitions.all (·.intact f.printer) = true := List.all_eq_true.2 h.intact
  rw [Forest.intact, hall, Bool.true_and]
  cases hds : f.forest.definitions with
  | nil =>
    cases f.forest.frame <;> simp
  | cons d ds =>
    have hd : d ∈ f.forest.definitions := hds ▸ List.mem_cons_self
    cases hframe : f.forest.frame with
    | none =>
      have hclosed : ¬ IsOpenComment f.source.toList := fun hopen => by
        simpa [hframe] using (h.opened hopen).1
      simpa using hclosed
    | some frame =>
      by_cases hopen : IsOpenComment f.source.toList
      · have hgap := (h.front frame hframe).2 hopen
        have hlead : f.printer.frontLead (f.printer.definitionPiece d) = [] := by
          rw [Printer.frontLead, Printer.definitionPiece, (h.opened hopen).2 d hd]
          rfl
        simp [hopen, hlead, hgap]
      · have hgap : commentAfter false (f.printer.text frame.gap) = false := by
          simpa using mt (h.front frame hframe).1 hopen
        have hlead :
            commentAfter false (f.printer.frontLead (f.printer.definitionPiece d)) = false := by
          rw [Printer.frontLead]
          cases hcase : from? '#' (f.printer.textOf d.layout.lead) with
          | none => simp [Printer.definitionPiece, hcase]
          | some comment =>
            simpa [Printer.definitionPiece, hcase] using
              ((h.sound.definitions d hd).1.from? hcase).closed
        simp [hopen, commentAfter_append, hgap, hlead]

/-- A settled file is read again unless it has definitions behind an open comment. -/
theorem Settled.reparse_iff (h : f.Settled) (file : String) :
    (∃ g, parseFile f.render file = .ok g ∧
      g.content = f.forest.definitions.map Definition.printed) ↔
      (IsOpenComment f.source.toList → f.forest.definitions = []) := by
  rw [← h.intact_iff]
  exact h.sound.parseFile_iff

end PolicyFile

/-! ### Creations and deletions -/

namespace Repository

variable {repo repo' : Repository}

/-- What goes on holding when definitions go from a file holds of all files when a definition is
deleted. -/
theorem forall_delete {P : PolicyFile → Prop} {name : String} {d : Definition}
    (h : repo.delete name = .ok d repo')
    (hstep : ∀ f ds, P f → (∀ e ∈ ds, e ∈ f.forest.definitions) → P (f.withDefinitions ds))
    (hrepo : ∀ f ∈ repo.files, P f) : ∀ f ∈ repo'.files, P f := by
  obtain ⟨front, f, back, hfiles, -, rfl⟩ := delete_ok h
  rw [hfiles, List.forall_mem_append, List.forall_mem_cons] at hrepo
  rw [List.forall_mem_append, List.forall_mem_cons]
  exact ⟨hrepo.1, hstep f _ hrepo.2.1 fun e he => List.mem_of_mem_eraseP he, hrepo.2.2⟩

/-- What holds of new files, and goes on holding when definitions of texts come to a file and others
go, holds of all files when a definition is created or deleted. -/
theorem Catalogues.forall_files {P : PolicyFile → Prop} (h : repo.Catalogues repo')
    (hnew : ∀ path, P { path })
    (hstep : ∀ f ds, P f → (∀ d ∈ ds, d ∈ f.forest.definitions ∨
      d.layout = {} ∧ ∀ p : Printer, d.Sound p ∧ d.intact p = true) → P (f.withDefinitions ds))
    (hrepo : ∀ f ∈ repo.files, P f) : ∀ f ∈ repo'.files, P f := by
  cases h with
  | @create path text d _ hparse hcreate =>
    obtain ⟨-, -, rfl⟩ := create_eq_ok.1 hcreate
    have hinsert (f : PolicyFile) (hf : P f) : P (insertInto d f) := by
      refine hstep f _ hf fun d' hd' => ?_
      rcases List.eq_or_mem_of_mem_insertIdx hd' with rfl | hd'
      · exact .inr (stands_of_parseDefinition hparse)
      · exact .inl hd'
    exact forall_insertAt (hinsert _ (hnew path)) (fun f hf => hinsert f (hrepo f hf)) hrepo
  | delete hdelete =>
    exact forall_delete hdelete (fun f ds hf hds => hstep f ds hf fun d hd => .inl (hds d hd)) hrepo

/-- Creating or deleting a definition keeps all files settled. -/
theorem Catalogues.settled (h : repo.Catalogues repo') (hrepo : ∀ f ∈ repo.files, f.Settled) :
    ∀ f ∈ repo'.files, f.Settled :=
  h.forall_files PolicyFile.settled_new
    (fun f _ hf hds => hf.withDefinitions fun d hd =>
      (hds d hd).imp_right fun hnew => ⟨hnew.1, hnew.2 f.printer⟩) hrepo

/-- Files that were read stay settled while definitions are created and deleted. -/
theorem settled_of_catalogues {root : Path} {files : List (Path × String)}
    (h : ofSources root files = .ok repo) (hsteps : Relation.ReflTransGen Catalogues repo repo') :
    ∀ f ∈ repo'.files, f.Settled := by
  induction hsteps with
  | refl => exact forall_ofSources (fun _ _ _ _ h => PolicyFile.settled_of_parseFile h) h
  | tail _ hstep ih => exact hstep.settled ih

end Repository

/-- While definitions are created and deleted, the text of a file is read again as the definitions
in memory, in their order and equal but for the layout and the text of descriptions, if and only if
no definition was created behind an open comment. -/
theorem reparse_iff_of_catalogues {root : Path} {files : List (Path × String)}
    {repo repo' : Repository} (h : Repository.ofSources root files = .ok repo)
    (hsteps : Relation.ReflTransGen Repository.Catalogues repo repo') {f : PolicyFile}
    (hf : f ∈ repo'.files) (file : String) :
    (∃ g, parseFile f.render file = .ok g ∧
      g.content = f.forest.definitions.map Definition.printed) ↔
      (IsOpenComment f.source.toList → f.forest.definitions = []) :=
  (Repository.settled_of_catalogues h hsteps f hf).reparse_iff file

/-! ### An owner behind a comment -/

/-- An owner without a layout. -/
def newOwner : Definition where
  name := "owner:x"
  body := .struct { attributes := [.ofValues "admins" ["a"]] }

/-- The owner as it stands in a text. -/
def writtenOwner : Definition where
  name := "owner:x"
  body := .struct { attributes := [⟨"admins", .values [⟨"a", { span := some ⟨21, 22⟩ }⟩],
    { span := some ⟨12, 23⟩ }, some ⟨20, 21, 22, false, 1⟩⟩] }
  layout := { span := some ⟨0, 25⟩ }
  frame := some ⟨11, 12, 23, false, 1⟩

theorem parse_newOwner : parseDefinition "owner:x = { admins = a; }" = .ok newOwner := by
  have hread : parseFile "owner:x = { admins = a; }" "definition" =
      .ok ⟨[writtenOwner], some ⟨0, 0, 25, false, 1⟩⟩ := rfl
  rw [parseDefinition, hread]
  rfl

/-- A file of comments with new definitions. -/
def commentFile (source : String) (definitions : List Definition) : PolicyFile where
  path := ⟨"owner"⟩
  source := source
  forest :=
    { definitions
      frame := some ⟨0, source.utf8ByteSize, source.utf8ByteSize, false, 0⟩ }
  dirty := !definitions.isEmpty

/-- A new owner may be created in a file of comments. -/
theorem commentFile_catalogues (source : String) :
    Repository.Catalogues { root := ⟨"policy"⟩, files := [commentFile source []] }
      { root := ⟨"policy"⟩
        files := [commentFile source [newOwner]]
        index := [("owner:x", ⟨"owner"⟩)] } := by
  have hfiles : Repository.insertAt ⟨"owner"⟩ newOwner [commentFile source []] =
      [commentFile source [newOwner]] := by
    have hsame : Path.same ⟨"owner"⟩ ⟨"owner"⟩ = true := rfl
    rw [Repository.insertAt, commentFile, if_pos hsame]
    rfl
  refine @Repository.Catalogues.create _ ⟨"owner"⟩ _ _ _ parse_newOwner
    (Repository.create_eq_ok.2 ⟨by decide, rfl, ?_⟩)
  rw [hfiles]
  rfl

/-- Behind a comment with its line feed the new owner is read again. -/
theorem reparse_created_behind_line :
    ∃ repo repo' f, Repository.ofSources ⟨"policy"⟩ [(⟨"owner"⟩, "# owners\n")] = .ok repo ∧
      repo.Catalogues repo' ∧ f ∈ repo'.files ∧
      f.render = "# owners\nowner:x = \x7b\n admins = a;\n\x7d\n" ∧
      ∃ g, parseFile f.render "owner" = .ok g ∧
        g.content = f.forest.definitions.map Definition.printed := by
  have hread : Repository.ofSources ⟨"policy"⟩ [(⟨"owner"⟩, "# owners\n")] =
      .ok { root := ⟨"policy"⟩, files := [commentFile "# owners\n" []] } := rfl
  refine ⟨_, _, commentFile "# owners\n" [newOwner], hread, commentFile_catalogues _,
    List.mem_singleton_self _, rfl, ?_⟩
  refine (reparse_iff_of_catalogues hread (.single (commentFile_catalogues _))
    (List.mem_singleton_self _) "owner").2 fun hopen => ?_
  cases hopen.2

/-- Behind a comment without a line feed the new owner is lost. -/
theorem not_reparse_created_behind_comment :
    ∃ repo repo' f, Repository.ofSources ⟨"policy"⟩ [(⟨"owner"⟩, "# owners")] = .ok repo ∧
      repo.Catalogues repo' ∧ f ∈ repo'.files ∧
      f.render = "# ownersowner:x = \x7b\n admins = a;\n\x7d\n" ∧
      ¬ ∃ g, parseFile f.render "owner" = .ok g ∧
        g.content = f.forest.definitions.map Definition.printed := by
  have hread : Repository.ofSources ⟨"policy"⟩ [(⟨"owner"⟩, "# owners")] =
      .ok { root := ⟨"policy"⟩, files := [commentFile "# owners" []] } := rfl
  refine ⟨_, _, commentFile "# owners" [newOwner], hread, commentFile_catalogues _,
    List.mem_singleton_self _, rfl, ?_⟩
  have hsettled := Repository.settled_of_catalogues hread (.single (commentFile_catalogues _)) _
    (List.mem_singleton_self _)
  rw [hsettled.reparse_iff]
  exact fun h => List.cons_ne_nil _ _ (h ⟨rfl, rfl⟩)

end PolicyEditor
