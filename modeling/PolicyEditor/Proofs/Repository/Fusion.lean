import PolicyEditor.Proofs.Repository.Lookups

/-!
# Two edits of a definition in one

Two edits of one definition, one after the other, find the same file and the same definition in it,
as the first one changes neither the index nor the path of the file nor the name of the definition.
So one edit may do at once what the two of them do to the body.  If the second edit undoes what the
first one does to the body, it undoes all of it but the mark of the file.

## Main definitions

* `Edit.Fuses` : an edit does what two edits do.

## Main results

* `Repository.fuses_modifyNamed` : two edits of a definition are one edit of it.
* `Repository.modifyNamed_again` : an edit of a definition that is done again.
* `Repository.exists_modifyNamed_undone` : two edits of a definition of which one undoes the other.
-/

namespace PolicyEditor

/-- If the edits `x` and `y` succeed one after the other, then the edit `z` does what they do. -/
def Edit.Fuses {σ : Type} (x y z : Edit σ Unit) : Prop :=
  ∀ ⦃s s₁ s₂⦄, x s = .ok () s₁ → y s₁ = .ok () s₂ → z s = .ok () s₂

namespace Edit

theorem fuses_seq {σ : Type} (x y : Edit σ Unit) : Fuses x y (do x; y) := by
  intro s s₁ s₂ hx hy
  simp only [bind, EStateM.bind, hx, hy]

theorem fuses_modify {σ : Type} (f g : σ → σ) : Fuses (modify f) (modify g) (modify (g ∘ f)) := by
  rintro s _ _ ⟨⟩ ⟨⟩
  rfl

variable {σ τ : Type} {g : σ → τ} {w : σ → τ → σ}

theorem focus_ok {α : Type} {x : Edit τ α} {s s' : σ} {a : α} (h : focus g w x s = .ok a s') :
    ∃ t, x (g s) = .ok a t ∧ s' = w s t := by
  rw [focus] at h
  split at h
  · next t hx =>
    cases h
    exact ⟨t, hx, rfl⟩
  · cases h

/-- Edits of one part of a state are one edit of this part. -/
theorem Fuses.focus {x y z : Edit τ Unit} (h : Fuses x y z) (hg : ∀ s t, g (w s t) = t)
    (hw : ∀ s t u, w (w s t) u = w s u) :
    Fuses (focus g w x) (focus g w y) (focus g w z) := by
  intro s s₁ s₂ h₁ h₂
  obtain ⟨t, hx, rfl⟩ := focus_ok h₁
  obtain ⟨u, hy, rfl⟩ := focus_ok h₂
  rw [hg] at hy
  rw [hw, Edit.focus, h hx hy]

end Edit

namespace Repository

open Edit

variable {β : Type} {name : String}

/-- Edits of the body of a definition are one edit of it, as the body stays of its kind. -/
theorem fuses_editBody {variant : Variant β} {x y z : Edit β Unit} (h : Fuses x y z)
    (hget : ∀ body, variant.get? (variant.set body) = some body) :
    Fuses (editBody variant x) (editBody variant y) (editBody variant z) := by
  intro d d₁ d₂ h₁ h₂
  obtain ⟨body, body₁, hbody, hx, rfl⟩ := editBody_ok h₁
  obtain ⟨body', body₂, hbody', hy, rfl⟩ := editBody_ok h₂
  obtain rfl : body₁ = body' := Option.some.inj ((hget body₁).symm.trans hbody')
  simp only [editBody, hbody, h hx hy]

/-- Edits of the first definition of a name are one edit of it, as it keeps its name. -/
theorem fuses_editNamed {x y z : Edit Definition Unit} (h : Fuses x y z)
    (hname : ∀ d d', x d = .ok () d' → d'.name = d.name) :
    Fuses (editNamed name x) (editNamed name y) (editNamed name z) := by
  intro ds ds₁ ds₂ hx hy
  induction ds generalizing ds₁ ds₂ with
  | nil => cases hx
  | cons d ds ih =>
    rw [editNamed] at hx
    by_cases hd : d.name = name
    · rw [if_pos hd] at hx
      split at hx <;> cases hx
      next d₁ hx =>
      rw [editNamed, if_pos ((hname d d₁ hx).trans hd)] at hy
      split at hy <;> cases hy
      next d₂ hy =>
      rw [editNamed, if_pos hd, h hx hy]
    · rw [if_neg hd] at hx
      split at hx <;> cases hx
      next ds₁ hx =>
      rw [editNamed, if_neg hd] at hy
      split at hy <;> cases hy
      next ds₂ hy =>
      rw [editNamed, if_neg hd, ih hx hy]

theorem fuses_editDefinitions {x y z : Edit (List Definition) Unit} (h : Fuses x y z) :
    Fuses (editDefinitions x) (editDefinitions y) (editDefinitions z) := by
  intro f f₁ f₂ h₁ h₂
  obtain ⟨ds₁, hx, rfl⟩ := editDefinitions_ok h₁
  obtain ⟨ds₂, hy, rfl⟩ := editDefinitions_ok h₂
  rw [editDefinitions, h hx hy]
  rfl

/-- Edits of the first file of a path are one edit of it, as it keeps its path. -/
theorem fuses_editPath {path : Path} {x y z : Edit PolicyFile Unit} (h : Fuses x y z)
    (hpath : ∀ f f', x f = .ok () f' → f'.path = f.path) :
    Fuses (editPath path name x) (editPath path name y) (editPath path name z) := by
  intro fs fs₁ fs₂ hx hy
  induction fs generalizing fs₁ fs₂ with
  | nil => cases hx
  | cons f fs ih =>
    rw [editPath] at hx
    by_cases hf : f.path.same path = true
    · rw [if_pos hf] at hx
      split at hx <;> cases hx
      next f₁ hx =>
      rw [editPath, if_pos ((hpath f f₁ hx).symm ▸ hf)] at hy
      split at hy <;> cases hy
      next f₂ hy =>
      rw [editPath, if_pos hf, h hx hy]
    · rw [if_neg hf] at hx
      split at hx <;> cases hx
      next fs₁ hx =>
      rw [editPath, if_neg hf] at hy
      split at hy <;> cases hy
      next fs₂ hy =>
      rw [editPath, if_neg hf, ih hx hy]

/-- Edits of the definitions of the file that holds a name are one edit of them. -/
theorem fuses_editHolder {x y z : Edit (List Definition) Unit} (h : Fuses x y z) :
    Fuses (editHolder name x) (editHolder name y) (editHolder name z) := by
  intro repo repo₁ repo₂ hx hy
  have hkeep (f f' : PolicyFile) (hf : editDefinitions x f = .ok () f') : f'.path = f.path := by
    obtain ⟨ds, -, rfl⟩ := editDefinitions_ok hf
    rfl
  simp only [editHolder, bind, EStateM.bind, Edit.get_apply] at hx hy ⊢
  cases hlocation : repo.location? name with
  | none =>
    rw [hlocation] at hx
    cases hx
  | some path =>
    rw [hlocation] at hx
    have hindex : repo₁.location? name = some path := by
      obtain ⟨fs, -, rfl⟩ := focus_ok hx
      exact hlocation
    rw [hindex] at hy
    have hfiles : Fuses (editPath path name _) (editPath path name _) (editPath path name _) :=
      fuses_editPath (fuses_editDefinitions h) hkeep
    exact hfiles.focus (g := files) (w := fun repo files => { repo with files })
      (fun _ _ => rfl) (fun _ _ _ => rfl) hx hy

/-- Two edits of a definition, one after the other, are one edit of it. -/
theorem fuses_modifyNamed {variant : Variant β} {x y z : Edit β Unit} (h : Fuses x y z)
    (hget : ∀ body, variant.get? (variant.set body) = some body) :
    Fuses (modifyNamed variant name x) (modifyNamed variant name y)
      (modifyNamed variant name z) := by
  refine fuses_editHolder (fuses_editNamed (fuses_editBody h hget) fun d d' hd => ?_)
  obtain ⟨-, -, -, -, rfl⟩ := editBody_ok hd
  rfl

/-- An edit that has no more to do to a body that it has edited does nothing more to the definition
either. -/
theorem modifyNamed_again {variant : Variant β} (hlawful : variant.Lawful)
    (hget : ∀ body, variant.get? (variant.set body) = some body) {x : Edit β Unit}
    (hx : Succeeds x) (hself : Fuses x x x) {repo repo' : Repository}
    (h : modifyNamed variant name x repo = .ok () repo') :
    modifyNamed variant name x repo' = .ok () repo' := by
  have hreaches : Reaches (·.lookupAs variant name) x (modifyNamed variant name x) :=
    reaches_modifyNamed hlawful hget x
  obtain ⟨-, body', -, -, hlookup'⟩ := hreaches.exists_of_ok hx h
  obtain ⟨_, body₂, hedit⟩ := hx body'
  obtain ⟨repo₂, hagain, -⟩ := hreaches.found hlookup' hedit
  -- Both edits together are the first one.
  have hboth := fuses_modifyNamed hself hget h hagain
  rw [h] at hboth
  cases hboth
  exact hagain

/-- If an edit undoes what another one does to the body of a definition, both succeed one after the
other, and then the file of the definition is marked and nothing else is changed. -/
theorem exists_modifyNamed_undone {variant : Variant β} (hlawful : variant.Lawful)
    (hget : ∀ body, variant.get? (variant.set body) = some body) {x y : Edit β Unit}
    {repo : Repository} {body body₁ : β} (hlookup : repo.lookupAs variant name = .ok body)
    (hx : x body = .ok () body₁) (hy : y body₁ = .ok () body) :
    ∃ repo₁ repo₂ front f back, modifyNamed variant name x repo = .ok () repo₁ ∧
      modifyNamed variant name y repo₁ = .ok () repo₂ ∧
      repo₂.lookupAs variant name = .ok body ∧ repo.files = front ++ f :: back ∧
      repo₂ = { repo with files := front ++ { f with dirty := true } :: back } := by
  obtain ⟨repo₁, hfirst, hlookup₁⟩ := (reaches_modifyNamed hlawful hget x).found hlookup hx
  obtain ⟨repo₂, hsecond, hlookup₂⟩ := (reaches_modifyNamed hlawful hget y).found hlookup₁ hy
  have hseq : (do x; y) body = .ok () body := fuses_seq x y hx hy
  obtain ⟨front, f, back, hfiles, hboth⟩ := modifyNamed_of_unchanged hlawful hlookup hseq
  -- The two edits are the one that leaves the body as it is.
  have hfused := fuses_modifyNamed (fuses_seq x y) hget hfirst hsecond
  rw [hboth] at hfused
  cases hfused
  exact ⟨repo₁, _, front, f, back, hfirst, hsecond, hlookup₂, hfiles, rfl⟩

end Repository

end PolicyEditor
