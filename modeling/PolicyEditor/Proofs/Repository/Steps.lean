import Mathlib.Data.List.Forall2
import Mathlib.Logic.Relation
import PolicyEditor.Job.Definitions
import PolicyEditor.Proofs.Repository.Failures

/-!
# The steps of a repository

Whatever happens to a repository happens in steps: a definition is created, a definition is deleted,
or some definitions are reworked in their places.  An edit that fails has done some of its steps and
leaves it at that.  The creation and the deletion of a definition have a single step, so that they
change nothing if they fail.

## Main definitions

* `Edit.final` : the state behind an edit, also behind one that fails.
* `Edit.outcome?`, `Edit.failure?` : what an edit yields, and the failure of one that fails.
* `Edit.Leads` : a relation of all states to those behind an edit.
* `Repository.Follows` : a repository whose definitions are related to those of another one.
* `PolicyFile.Reworks` : a file whose definitions have other bodies.
* `Repository.Step`, `Repository.Steps` : what may happen to a repository.

## Main results

* `Repository.follows_modifyMatching`, `Repository.follows_modifyNamed` : a relation to which the
  edits of definitions lead carries over to the repository.
* `Repository.leads_modifyMatching`, `Repository.leads_modifyNamed`, `Repository.leads_create`,
  `Repository.leads_delete` : the edits of a repository consist of steps.
-/

namespace PolicyEditor

/-! ### The state behind an edit -/

namespace Edit

variable {σ τ α β : Type} {r : σ → σ → Prop} {x : Edit σ α}

/-- The state behind an edit, also if the edit fails. -/
def final (x : Edit σ α) (s : σ) : σ :=
  match x s with
  | .ok _ s' => s'
  | .error _ s' => s'

theorem final_of_ok {s s' : σ} {a : α} (h : x s = .ok a s') : x.final s = s' := by
  rw [final, h]

theorem final_of_error {s s' : σ} {e : PolicyError} (h : x s = .error e s') : x.final s = s' := by
  rw [final, h]

/-- The value of an edit that does not fail, and the state behind it. -/
def outcome? (x : Edit σ α) (s : σ) : Option (α × σ) :=
  match x s with
  | .ok a s' => some (a, s')
  | .error _ _ => none

@[simp]
theorem outcome?_eq_some {s : σ} {out : α × σ} :
    x.outcome? s = some out ↔ x s = .ok out.1 out.2 := by
  cases h : x s with
  | ok a s' => simp [outcome?, h, Prod.ext_iff]
  | error e s' => simp [outcome?, h]

/-- The failure of an edit that fails, and the state behind it. -/
def failure? (x : Edit σ α) (s : σ) : Option (PolicyError × σ) :=
  match x s with
  | .ok _ _ => none
  | .error e s' => some (e, s')

@[simp]
theorem failure?_eq_some {s : σ} {out : PolicyError × σ} :
    x.failure? s = some out ↔ x s = .error out.1 out.2 := by
  cases h : x s with
  | ok a s' => simp [failure?, h]
  | error e s' => simp [failure?, h, Prod.ext_iff]

theorem toOption_eq_some {c : Except PolicyError α} {a : α} :
    c.toOption = some a ↔ c = .ok a := by
  cases c <;> simp [Except.toOption]

/-- The edit leads from every state to a related one, also if it fails. -/
def Leads (r : σ → σ → Prop) (x : Edit σ α) : Prop :=
  ∀ s, r s (x.final s)

theorem Leads.imp {q : σ → σ → Prop} (h : Leads r x) (hrq : ∀ s s', r s s' → q s s') :
    Leads q x :=
  fun s => hrq _ _ (h s)

theorem Leads.of_error {s s' : σ} {e : PolicyError} (h : Leads r x) (hs : x s = .error e s') :
    r s s' :=
  final_of_error hs ▸ h s

section Leads

variable [Std.Refl r]

theorem leads_pure (a : α) : Leads r (pure a : Edit σ α) :=
  fun s => Std.Refl.refl s

theorem leads_throw (e : PolicyError) : Leads r (throw e : Edit σ α) :=
  fun s => Std.Refl.refl s

theorem leads_get : Leads r (get : Edit σ σ) :=
  fun s => Std.Refl.refl s

omit [Std.Refl r] in
theorem Leads.bind [IsTrans σ r] {f : α → Edit σ β} (hx : Leads r x) (hf : ∀ a, Leads r (f a)) :
    Leads r (x >>= f) := by
  intro s
  have hfirst := hx s
  cases h : x s with
  | ok a s₁ =>
    rw [final_of_ok h] at hfirst
    have hfinal : (x >>= f).final s = (f a).final s₁ := by
      simp only [final, Bind.bind, EStateM.bind, h]
    exact hfinal ▸ IsTrans.trans _ _ _ hfirst (hf a s₁)
  | error e s₁ =>
    rw [final_of_error h] at hfirst
    have hfinal : (x >>= f).final s = s₁ := by
      simp only [final, Bind.bind, EStateM.bind, h]
    exact hfinal ▸ hfirst

omit [Std.Refl r] in
/-- An edit that looks at the state first. -/
theorem leads_get_bind {f : σ → Edit σ β} (hf : ∀ s, Leads r (f s)) :
    Leads r ((get : Edit σ σ) >>= f) :=
  fun s => hf s s

omit [Std.Refl r] in
theorem Leads.discard (hx : Leads r x) : Leads r (discard x) := by
  intro s
  have hfinal : (Functor.discard x).final s = x.final s := by
    change final (EStateM.map _ x) s = _
    simp only [final, EStateM.map]
    cases x s <;> rfl
  exact hfinal ▸ hx s

omit [Std.Refl r] in
/-- An edit of a part of the state. -/
theorem leads_focus {q : τ → τ → Prop} {get : σ → τ} {set : σ → τ → σ} {y : Edit τ α}
    (hy : Leads q y) (hset : ∀ s t, q (get s) t → r s (set s t)) :
    Leads r (Edit.focus get set y) := by
  intro s
  have hfinal : (Edit.focus get set y).final s = set s (y.final (get s)) := by
    rw [final, Edit.focus, final]
    cases y (get s) <;> rfl
  exact hfinal ▸ hset s _ (hy (get s))

theorem leads_atIndex {missing : PolicyError} (hx : Leads r x) (i : Nat) :
    Leads (List.Forall₂ r) (atIndex missing x i) := by
  intro ss
  induction ss generalizing i with
  | nil => cases i <;> exact .nil
  | cons s ss ih =>
    cases i with
    | zero =>
      have hs := hx s
      rw [final, atIndex]
      cases h : x s with
      | ok a s' => exact .cons (final_of_ok h ▸ hs) (List.forall₂_refl ss)
      | error e s' => exact .cons (final_of_error h ▸ hs) (List.forall₂_refl ss)
    | succ i =>
      have hss := ih i
      rw [final, atIndex]
      cases h : atIndex missing x i ss with
      | ok a ss' => exact .cons (Std.Refl.refl s) (final_of_ok h ▸ hss)
      | error e ss' => exact .cons (Std.Refl.refl s) (final_of_error h ▸ hss)

/-- An edit that restores the state leads as far as it does if it succeeds. -/
theorem Restores.leads (hx : Restores x) (hok : ∀ s a s', x s = .ok a s' → r s s') :
    Leads r x := by
  intro s
  cases h : x s with
  | ok a s' =>
    rw [final_of_ok h]
    exact hok s a s' h
  | error e s' =>
    rw [final_of_error h, hx h]
    exact Std.Refl.refl s

end Leads

end Edit

/-! ### Related definitions -/

/-- The file at the same path, whose definitions are related to those of `f` one by one. -/
structure PolicyFile.Follows (r : Definition → Definition → Prop) (f f' : PolicyFile) : Prop where
  path : f'.path = f.path
  definitions : List.Forall₂ r f.forest.definitions f'.forest.definitions

instance {r : Definition → Definition → Prop} [Std.Refl r] : Std.Refl (PolicyFile.Follows r) where
  refl _ := ⟨rfl, List.forall₂_refl _⟩

/-- The repository with the same index, whose definitions are related to those of `repo` file by
file. -/
inductive Repository.Follows (r : Definition → Definition → Prop) (repo : Repository) :
    Repository → Prop
  | intro {files : List PolicyFile} (h : List.Forall₂ (PolicyFile.Follows r) repo.files files) :
    Follows r repo { repo with files }

instance {r : Definition → Definition → Prop} [Std.Refl r] : Std.Refl (Repository.Follows r) where
  refl _ := .intro (List.forall₂_refl _)

namespace Repository

open Edit

section Follows

variable {α β : Type} {r : Definition → Definition → Prop} [Std.Refl r] {p : Definition → Bool}
  {name : String}

theorem leads_editMatching {edit : Edit Definition Unit} (h : Leads r edit) :
    Leads (List.Forall₂ r) (editMatching p edit) := by
  intro ds
  induction ds with
  | nil => exact .nil
  | cons d ds ih =>
    have hd := h d
    unfold final
    rw [editMatching]
    cases hp : p d with
    | true =>
      cases hedit : edit d with
      | error e d' => exact .cons (final_of_error hedit ▸ hd) (List.forall₂_refl ds)
      | ok _ d' =>
        rw [final_of_ok hedit] at hd
        cases hrest : editMatching p edit ds with
        | error e ds' => exact .cons hd (final_of_error hrest ▸ ih)
        | ok hit ds' => exact .cons hd (final_of_ok hrest ▸ ih)
    | false =>
      cases hrest : editMatching p edit ds with
      | error e ds' => exact .cons (Std.Refl.refl d) (final_of_error hrest ▸ ih)
      | ok hit ds' => exact .cons (Std.Refl.refl d) (final_of_ok hrest ▸ ih)

theorem leads_editFile {edit : Edit Definition Unit} (h : Leads r edit) :
    Leads (PolicyFile.Follows r) (editFile p edit) := by
  intro f
  have hds := leads_editMatching (p := p) h f.forest.definitions
  unfold final
  rw [editFile]
  cases hedit : editMatching p edit f.forest.definitions with
  | error e ds => exact ⟨rfl, final_of_error hedit ▸ hds⟩
  | ok hit ds => exact ⟨rfl, final_of_ok hedit ▸ hds⟩

theorem leads_editFiles {edit : Edit Definition Unit} (h : Leads r edit) :
    Leads (List.Forall₂ (PolicyFile.Follows r)) (editFiles p edit) := by
  intro fs
  induction fs with
  | nil => exact .nil
  | cons f fs ih =>
    have hf := leads_editFile (p := p) h f
    unfold final
    rw [editFiles]
    cases hedit : editFile p edit f with
    | error e f' => exact .cons (final_of_error hedit ▸ hf) (List.forall₂_refl fs)
    | ok hit f' =>
      rw [final_of_ok hedit] at hf
      cases hrest : editFiles p edit fs with
      | error e fs' => exact .cons hf (final_of_error hrest ▸ ih)
      | ok touched fs' => exact .cons hf (final_of_ok hrest ▸ ih)

/-- A relation to which the edit of each definition leads carries over to the repository. -/
theorem follows_modifyMatching {edit : Edit Definition Unit} (h : Leads r edit) :
    Leads (Follows r) (modifyMatching p edit) :=
  leads_focus (leads_editFiles h) fun _ _ hfiles => .intro hfiles

theorem leads_editNamed {edit : Edit Definition α} (h : Leads r edit) :
    Leads (List.Forall₂ r) (editNamed name edit) := by
  intro ds
  induction ds with
  | nil => exact .nil
  | cons d ds ih =>
    have hd := h d
    unfold final
    rw [editNamed]
    by_cases hname : d.name = name
    · rw [if_pos hname]
      cases hedit : edit d with
      | error e d' => exact .cons (final_of_error hedit ▸ hd) (List.forall₂_refl ds)
      | ok a d' => exact .cons (final_of_ok hedit ▸ hd) (List.forall₂_refl ds)
    · rw [if_neg hname]
      cases hrest : editNamed name edit ds with
      | error e ds' => exact .cons (Std.Refl.refl d) (final_of_error hrest ▸ ih)
      | ok a ds' => exact .cons (Std.Refl.refl d) (final_of_ok hrest ▸ ih)

omit [Std.Refl r] in
theorem leads_editDefinitions {edit : Edit (List Definition) α}
    (h : Leads (List.Forall₂ r) edit) : Leads (PolicyFile.Follows r) (editDefinitions edit) := by
  intro f
  have hds := h f.forest.definitions
  rw [final, editDefinitions]
  cases hedit : edit f.forest.definitions with
  | error e ds => exact ⟨rfl, final_of_error hedit ▸ hds⟩
  | ok a ds => exact ⟨rfl, final_of_ok hedit ▸ hds⟩

theorem leads_editPath {path : Path} {edit : Edit PolicyFile α}
    (h : Leads (PolicyFile.Follows r) edit) :
    Leads (List.Forall₂ (PolicyFile.Follows r)) (editPath path name edit) := by
  intro fs
  induction fs with
  | nil => exact .nil
  | cons f fs ih =>
    have hf := h f
    unfold final
    rw [editPath]
    by_cases hsame : f.path.same path = true
    · rw [if_pos hsame]
      cases hedit : edit f with
      | error e f' => exact .cons (final_of_error hedit ▸ hf) (List.forall₂_refl fs)
      | ok a f' => exact .cons (final_of_ok hedit ▸ hf) (List.forall₂_refl fs)
    · rw [if_neg hsame]
      cases hrest : editPath path name edit fs with
      | error e fs' => exact .cons (Std.Refl.refl f) (final_of_error hrest ▸ ih)
      | ok a fs' => exact .cons (Std.Refl.refl f) (final_of_ok hrest ▸ ih)

theorem follows_editHolder {edit : Edit (List Definition) α} (h : Leads (List.Forall₂ r) edit) :
    Leads (Follows r) (editHolder name edit) := by
  refine leads_get_bind fun repo => ?_
  split
  · exact leads_throw _
  · exact leads_focus (leads_editPath (leads_editDefinitions h)) fun _ _ hfiles => .intro hfiles

/-- A relation to which the edit of the definition leads carries over to the repository. -/
theorem follows_modifyNamed {variant : Variant β} {edit : Edit β α}
    (h : Leads r (editBody variant edit)) : Leads (Follows r) (modifyNamed variant name edit) :=
  follows_editHolder (leads_editNamed h)

end Follows

end Repository

/-! ### Reworked definitions -/

/-- The definitions have the same name. -/
def Definition.Namesakes (d d' : Definition) : Prop :=
  d'.name = d.name

instance : Std.Refl Definition.Namesakes where
  refl _ := rfl

/-- The file at the same path, whose definitions have other bodies. -/
structure PolicyFile.Reworks (f f' : PolicyFile) : Prop where
  path : f'.path = f.path
  definitions : List.Forall₂ Definition.Namesakes f.forest.definitions f'.forest.definitions

theorem PolicyFile.paths_of_reworks {fs fs' : List PolicyFile}
    (h : List.Forall₂ PolicyFile.Reworks fs fs') :
    fs'.map (·.path) = fs.map (·.path) := by
  induction h with
  | nil => rfl
  | cons hf _ ih => rw [List.map_cons, List.map_cons, hf.path, ih]

namespace Repository

open Edit Definition

theorem leads_editBody {α β : Type} (variant : Variant β) (edit : Edit β α) :
    Leads Namesakes (editBody variant edit) := by
  intro d
  rw [final, editBody]
  cases variant.get? d.body with
  | none => rfl
  | some body =>
    dsimp only
    cases edit body <;> rfl

/-! ### Steps -/

/-- One step of a repository, which creates definitions in certain files only. -/
inductive Step (creates : Path → Prop) (repo : Repository) : Repository → Prop
  | create {path : Path} {d : Definition} {repo' : Repository} (hpath : creates path)
    (h : Repository.create path d repo = .ok () repo') : Step creates repo repo'
  | delete {name : String} {d : Definition} {repo' : Repository}
    (h : Repository.delete name repo = .ok d repo') : Step creates repo repo'
  | rework {files : List PolicyFile} (h : List.Forall₂ PolicyFile.Reworks repo.files files) :
    Step creates repo { repo with files }

/-- Any number of steps of a repository. -/
abbrev Steps (creates : Path → Prop) : Repository → Repository → Prop :=
  Relation.ReflTransGen (Step creates)

variable {creates : Path → Prop}

/-- Definitions that keep their names are reworked. -/
theorem Follows.steps {repo repo' : Repository} (h : repo.Follows Namesakes repo') :
    Steps creates repo repo' := by
  obtain ⟨hfiles⟩ := h
  exact .single (.rework (hfiles.imp fun _ _ hf => ⟨hf.path, hf.definitions⟩))

theorem leads_modifyMatching {p : Definition → Bool} {edit : Edit Definition Unit}
    (h : Leads Namesakes edit) : Leads (Steps creates) (modifyMatching p edit) :=
  (follows_modifyMatching h).imp fun _ _ => Follows.steps

theorem leads_modifyNamed {α β : Type} (variant : Variant β) (name : String) (edit : Edit β α) :
    Leads (Steps creates) (modifyNamed variant name edit) :=
  (follows_modifyNamed (leads_editBody variant edit)).imp fun _ _ => Follows.steps

theorem leads_delete (name : String) : Leads (Steps creates) (delete name) :=
  (restores_delete name).leads fun _ _ _ h => .single (.delete h)

theorem leads_create {path : Path} (d : Definition) (hpath : path.isInside = true → creates path) :
    Leads (Steps creates) (create path d) :=
  (restores_create path d).leads fun _ _ _ h =>
    .single (.create (hpath (create_eq_ok.1 h).1) h)

theorem leads_createDefinition {path : Path} (d : Definition) (okIfExists : Bool)
    (hpath : path.isInside = true → creates path) :
    Leads (Steps creates) (createDefinition path d okIfExists) := by
  refine leads_get.bind fun repo => ?_
  split
  · exact leads_pure _
  · exact leads_create _ hpath

end Repository

end PolicyEditor
