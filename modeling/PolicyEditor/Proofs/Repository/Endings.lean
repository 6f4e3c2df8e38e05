import PolicyEditor.Proofs.Repository.Lookups

/-!
# Edits that stop on the way

An edit of a definition that fails after some changes leaves these changes in memory.  They are
found by a look-up of the definition, as those of an edit that succeeds are.  So the outcome of an
edit of a part, with a failure or without one, is the outcome of the edit of the whole.

## Main definitions

* `Edit.Halts` : a failed edit of a whole leaves the part that a look-up finds as far as it came.
* `Edit.ending` : the outcome of an edit that yields nothing.

## Main results

* `Edit.Halts.trans` : a part of a part is left through the part.
* `Edit.focus_eq_ending`, `Edit.atIndex_eq_ending` : the outcome of an edit of a part.
* `Repository.modifyNamed_eq_ending` : the outcome of an edit of a definition is that of the edit of
  its body.
-/

namespace PolicyEditor

namespace Edit

variable {σ τ υ α : Type}

/-- If the edit `y` of a part fails, the edit `x` of the whole fails too, and the part is found as
far as `y` came. -/
def Halts (find : σ → Except PolicyError τ) (y : Edit τ α) (x : Edit σ α) : Prop :=
  ∀ ⦃s t e t'⦄, find s = .ok t → y t = .error e t' → ∃ s', x s = .error e s' ∧ find s' = .ok t'

/-- A part of a part is left through the part. -/
theorem Halts.trans {find : σ → Except PolicyError τ} {find' : τ → Except PolicyError υ}
    {x : Edit σ α} {y : Edit τ α} {z : Edit υ α} (h : Halts find y x) (h' : Halts find' z y) :
    Halts (fun s => find s >>= find') z x := by
  intro s u e u' hfind hz
  obtain ⟨t, hs, ht⟩ := Except.bind_eq_ok.1 hfind
  obtain ⟨t', hy, ht'⟩ := h' ht hz
  obtain ⟨s', hx, hs'⟩ := h hs hy
  exact ⟨s', hx, Except.bind_eq_ok.2 ⟨t', hs', ht'⟩⟩

theorem halts_atFirst {p : σ → Bool} {missing : PolicyError} {edit : Edit σ α}
    (hkeep : ∀ s e s', edit s = .error e s' → p s = true → p s' = true) :
    Halts (first p missing) edit (atFirst p missing edit) := by
  intro ss t e t' h hedit
  obtain ⟨ht, front, back, rfl, hfront⟩ := first_eq_ok.1 h
  rw [atFirst_append hfront ht, hedit]
  exact ⟨_, rfl, first_eq_ok.2 ⟨hkeep t e t' hedit ht, front, back, rfl, hfront⟩⟩

/-- The outcome of an edit that yields nothing, with a failure or without one. -/
def ending (failure : Option PolicyError) (s : σ) : EStateM.Result PolicyError σ Unit :=
  match failure with
  | none => .ok () s
  | some e => .error e s

variable {edit next : Edit σ Unit} {failure : Option PolicyError} {s s' : σ}

/-- An edit that does not fail leaves its state to the next one. -/
theorem bind_of_ending_none (h : edit s = ending none s') : (do edit; next) s = next s' := by
  simp only [bind, EStateM.bind, h, ending]

/-- An edit that fails is not followed by the next one. -/
theorem bind_of_ending_some {e : PolicyError} (h : edit s = ending (some e) s') :
    (do edit; next) s = ending (some e) s' := by
  simp only [bind, EStateM.bind, h, ending]

theorem focus_eq_ending {get : σ → τ} {set : σ → τ → σ} {edit : Edit τ Unit} {t : τ}
    (h : edit (get s) = ending failure t) : focus get set edit s = ending failure (set s t) := by
  rw [focus, h]
  cases failure <;> rfl

theorem atIndex_eq_ending {missing : PolicyError} {ss : List σ} {i : Nat} (hs : ss[i]? = some s)
    (h : edit s = ending failure s') :
    atIndex missing edit i ss = ending failure (ss.set i s') := by
  induction ss generalizing i with
  | nil => cases hs
  | cons s₁ ss ih =>
    cases i with
    | zero =>
      cases hs
      rw [atIndex, h]
      cases failure <;> rfl
    | succ i =>
      rw [atIndex, ih hs]
      cases failure <;> rfl

end Edit

namespace Repository

open Edit

variable {α β : Type} {name : String}

theorem halts_editDefinitions (edit : Edit (List Definition) α) :
    Halts (fun f : PolicyFile => .ok f.forest.definitions) edit (editDefinitions edit) := by
  intro f ds e ds' h hedit
  cases h
  rw [editDefinitions, hedit]
  exact ⟨_, rfl, rfl⟩

theorem halts_editPath (path : Path) (name : String) (edit : Edit (List Definition) α) :
    Halts (definitionsAt path name) edit (editPath path name (editDefinitions edit)) := by
  rw [editPath_eq_atFirst]
  refine (halts_atFirst fun f e f' hedit hsame => ?_).trans (halts_editDefinitions edit)
  obtain ⟨ds, -, rfl⟩ := editDefinitions_error hedit
  exact hsame

theorem halts_editHolder (name : String) (edit : Edit (List Definition) α) :
    Halts (holder name) edit (editHolder name edit) := by
  intro repo ds e ds' h hedit
  rw [holder] at h
  rcases hlocation : repo.location? name with - | path <;> rw [hlocation] at h
  · cases h
  · obtain ⟨fs, hfs, hfirst⟩ := halts_editPath path name edit h hedit
    have hlocation' : location? { repo with files := fs } name = some path := hlocation
    refine ⟨{ repo with files := fs }, ?_, by rw [holder, hlocation']; exact hfirst⟩
    simp only [editHolder, bind, EStateM.bind, get_apply, hlocation, focus, hfs]

theorem halts_editBody {variant : Variant β}
    (hset : ∀ body, variant.get? (variant.set body) = some body) (edit : Edit β α) :
    Halts (bodyOf variant) edit (editBody variant edit) := by
  intro d body e body' h hedit
  simp only [editBody, bodyOf_eq_ok.1 h, hedit]
  exact ⟨_, rfl, bodyOf_eq_ok.2 (hset body')⟩

/-- A failed edit of the body of a definition leaves what it came to where a look-up finds it. -/
theorem halts_modifyNamed {variant : Variant β}
    (hset : ∀ body, variant.get? (variant.set body) = some body) (edit : Edit β α) :
    Halts (·.lookupAs variant name) edit (modifyNamed variant name edit) := by
  simp only [← lookup_bind_bodyOf, ← holder_bind_first]
  refine Halts.trans (Halts.trans (halts_editHolder name _) ?_) (halts_editBody hset edit)
  rw [editNamed_eq_atFirst]
  refine halts_atFirst fun d e d' hedit hname => ?_
  rcases editBody_error hedit with rfl | ⟨-, -, -, -, rfl⟩
  · exact hname
  · exact hname

/-- The outcome of an edit of a definition is the outcome of the edit of the body that is looked
up. -/
theorem modifyNamed_eq_ending {variant : Variant β} (hlawful : variant.Lawful)
    (hset : ∀ body, variant.get? (variant.set body) = some body) {edit : Edit β Unit}
    {repo : Repository} {body body' : β} {failure : Option PolicyError}
    (hlookup : repo.lookupAs variant name = .ok body) (hedit : edit body = ending failure body') :
    ∃ repo', modifyNamed variant name edit repo = ending failure repo' ∧
      repo'.lookupAs variant name = .ok body' := by
  cases failure with
  | none => exact (reaches_modifyNamed hlawful hset edit).found hlookup hedit
  | some e => exact halts_modifyNamed hset edit hlookup hedit

end Repository

end PolicyEditor
