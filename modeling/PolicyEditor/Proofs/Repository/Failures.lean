import PolicyEditor.Proofs.Repository.Files

/-!
# Edits that fail

A failed edit leaves the state as far as it came.  An edit that looks at everything before its first
change leaves no trace if it fails.  An edit of the definition of a name fails either before it
comes to the definition, and changes nothing then, or within it.  Then nothing else differs: the
index, the other definitions, the sources and the marks of all files are as they were.

## Main definitions

* `Edit.Restores` : an edit that changes nothing if it fails.
* `Edit.Succeeds` : an edit that does not fail.
* `Variant.Lawful` : a body is what its part stands for.
* `Repository.DiffersIn` : a repository that differs in the definition of a name alone.

## Main results

* `Repository.modifyNamed_error` : what a failed edit of a definition leaves.
* `Repository.restores_modifyNamed`, `Repository.restores_create`, `Repository.restores_delete` :
  edits that change nothing if they fail.
-/

namespace PolicyEditor

/-! ### Edits that restore the state -/

namespace Edit

variable {σ τ α β : Type} {x : Edit σ α} {f : α → Edit σ β}

/-- The edit leaves the state as it was if it fails. -/
def Restores (x : Edit σ α) : Prop :=
  ∀ ⦃s e s'⦄, x s = .error e s' → s' = s

/-- The edit does not fail. -/
def Succeeds (x : Edit σ α) : Prop :=
  ∀ s, ∃ a s', x s = .ok a s'

theorem Succeeds.restores (h : Succeeds x) : Restores x := by
  intro s e s' hs
  obtain ⟨a, s₁, hok⟩ := h s
  rw [hok] at hs
  cases hs

theorem succeeds_pure (a : α) : Succeeds (pure a : Edit σ α) :=
  fun s => ⟨a, s, rfl⟩

theorem succeeds_modify (g : σ → σ) : Succeeds (modify g : Edit σ PUnit) :=
  fun s => ⟨⟨⟩, g s, rfl⟩

theorem Succeeds.bind (hx : Succeeds x) (hf : ∀ a, Succeeds (f a)) : Succeeds (x >>= f) := by
  intro s
  obtain ⟨a, s₁, hfirst⟩ := hx s
  obtain ⟨b, s₂, hsecond⟩ := hf a s₁
  exact ⟨b, s₂, bind_eq_ok.2 ⟨a, s₁, hfirst, hsecond⟩⟩

theorem Succeeds.focus {get : σ → τ} {set : σ → τ → σ} {y : Edit τ α} (h : Succeeds y) :
    Succeeds (Edit.focus get set y) := by
  intro s
  obtain ⟨a, t, hok⟩ := h (get s)
  exact ⟨a, set s t, by simp only [Edit.focus, hok]⟩

theorem restores_throw (e : PolicyError) : Restores (throw e : Edit σ α) := by
  intro s e' s' h
  cases h
  rfl

theorem bind_eq_error {s s' : σ} {e : PolicyError} (h : (x >>= f) s = .error e s') :
    x s = .error e s' ∨ ∃ a s₁, x s = .ok a s₁ ∧ f a s₁ = .error e s' := by
  simp only [bind, EStateM.bind] at h
  split at h
  · next a s₁ hfirst => exact .inr ⟨a, s₁, hfirst, h⟩
  · next hfirst =>
    cases h
    exact .inl hfirst

/-- What follows an edit that restores the state must not fail. -/
theorem Restores.bind (hx : Restores x) (hf : ∀ a, Succeeds (f a)) : Restores (x >>= f) := by
  intro s e s' h
  rcases bind_eq_error h with hfirst | ⟨a, s₁, -, hsecond⟩
  · exact hx hfirst
  · obtain ⟨b, s₂, hok⟩ := hf a s₁
    rw [hok] at hsecond
    cases hsecond

/-- An edit that looks at the state first. -/
theorem restores_get_bind {f : σ → Edit σ β} (hf : ∀ s, Restores (f s)) :
    Restores ((get : Edit σ σ) >>= f) :=
  fun s _ _ h => hf s h

theorem Restores.discard (hx : Restores x) : Restores (discard x) := by
  intro s e s' h
  change EStateM.map _ x s = _ at h
  rw [EStateM.map] at h
  split at h
  · cases h
  · next hfirst =>
    cases h
    exact hx hfirst

/-- A failed edit of the item at an index changes this item alone. -/
theorem atIndex_error {missing e : PolicyError} {y : Edit σ α} {i : Nat} {ss ss' : List σ}
    (h : atIndex missing y i ss = .error e ss') :
    ss' = ss ∨ ∃ s s', ss[i]? = some s ∧ y s = .error e s' ∧ ss' = ss.set i s' := by
  induction ss generalizing i ss' with
  | nil =>
    cases i <;> cases h <;> exact .inl rfl
  | cons s ss ih =>
    cases i with
    | zero =>
      rw [atIndex] at h
      split at h
      · cases h
      · next hy =>
        cases h
        exact .inr ⟨s, _, rfl, hy, rfl⟩
    | succ i =>
      rw [atIndex] at h
      split at h
      · cases h
      · next hrest =>
        cases h
        rcases ih hrest with rfl | ⟨t, t', hget, hy, rfl⟩
        · exact .inl rfl
        · exact .inr ⟨t, t', hget, hy, rfl⟩

end Edit

/-! ### Failures within a definition -/

namespace Variant

variable {β : Type}

/-- A body of the kind of `v` is what its part stands for. -/
def Lawful (v : Variant β) : Prop :=
  ∀ ⦃b body⦄, v.get? b = some body → v.set body = b

theorem lawful_struct : struct.Lawful := by
  intro b body h
  cases b <;> cases h
  rfl

theorem lawful_group : group.Lawful := by
  intro b body h
  cases b <;> cases h
  rfl

theorem lawful_service : service.Lawful := by
  intro b body h
  cases b <;> cases h
  rfl

end Variant

namespace Repository

open Edit

variable {α β : Type} {name : String} {repo repo' : Repository} {e : PolicyError}

/-- The repositories differ in the definition `name` alone, the first one of this name in the first
file at the path that the index tells.  Its body is of the kind of `variant`, and the parts before
and behind are related by `r`. -/
inductive DiffersIn (variant : Variant β) (name : String) (r : β → β → Prop) (repo : Repository) :
    Repository → Prop
  | intro {path : Path} {front back : List PolicyFile} {f : PolicyFile}
      {left right : List Definition} {d : Definition} {body body' : β}
      (hpath : repo.location? name = some path)
      (hfiles : repo.files = front ++ f :: back)
      (hfront : ∀ g ∈ front, g.path.same path = false) (hfile : f.path.same path = true)
      (hdefinitions : f.forest.definitions = left ++ d :: right)
      (hleft : ∀ c ∈ left, c.name ≠ name) (hname : d.name = name)
      (hbody : variant.get? d.body = some body) (hrelated : r body body') :
      DiffersIn variant name r repo
        { repo with
          files := front ++
            { f with
              forest :=
                { f.forest with
                  definitions := left ++ { d with body := variant.set body' } :: right } } ::
            back }

namespace DiffersIn

variable {variant : Variant β} {r q : β → β → Prop}

theorem imp (h : DiffersIn variant name r repo repo') (hrq : ∀ b b', r b b' → q b b') :
    DiffersIn variant name q repo repo' := by
  obtain ⟨hpath, hfiles, hfront, hfile, hdefinitions, hleft, hname, hbody, hrelated⟩ := h
  exact ⟨hpath, hfiles, hfront, hfile, hdefinitions, hleft, hname, hbody, hrq _ _ hrelated⟩

/-- A definition whose body is what it was does not differ. -/
theorem eq_of_eq (h : DiffersIn variant name (fun b b' => b' = b) repo repo')
    (hlawful : variant.Lawful) : repo' = repo := by
  obtain ⟨-, hfiles, -, -, hdefinitions, -, -, hbody, rfl⟩ := h
  rw [hlawful hbody, ← hdefinitions, ← hfiles]

/-- The index is the same, and the files have their order, their sources and their marks. -/
theorem files_eq (h : DiffersIn variant name r repo repo') :
    repo'.index = repo.index ∧ repo'.files.map (fun f => (f.path, f.source, f.dirty)) =
      repo.files.map fun f => (f.path, f.source, f.dirty) := by
  obtain ⟨-, hfiles, -, -, -, -, -, -, -⟩ := h
  refine ⟨rfl, ?_⟩
  rw [hfiles, List.map_append, List.map_append, List.map_cons, List.map_cons]

end DiffersIn

theorem editBody_error {variant : Variant β} {edit : Edit β α} {d d' : Definition}
    (h : editBody variant edit d = .error e d') :
    d' = d ∨ ∃ body body', variant.get? d.body = some body ∧ edit body = .error e body' ∧
      d' = { d with body := variant.set body' } := by
  rw [editBody] at h
  split at h
  · cases h
    exact .inl rfl
  · next body hbody =>
    split at h
    · cases h
    · next body' hedit =>
      cases h
      exact .inr ⟨body, body', hbody, hedit, rfl⟩

theorem editNamed_error {edit : Edit Definition α} {ds ds' : List Definition}
    (h : editNamed name edit ds = .error e ds') :
    ds' = ds ∨ ∃ left d d' right, ds = left ++ d :: right ∧ (∀ c ∈ left, c.name ≠ name) ∧
      d.name = name ∧ edit d = .error e d' ∧ ds' = left ++ d' :: right := by
  induction ds generalizing ds' with
  | nil =>
    cases h
    exact .inl rfl
  | cons d ds ih =>
    rw [editNamed] at h
    split at h
    · next hname =>
      split at h
      · cases h
      · next d' hedit =>
        cases h
        exact .inr ⟨[], d, d', ds, rfl, by simp, hname, hedit, rfl⟩
    · next hname =>
      split at h
      · cases h
      · next hrest =>
        cases h
        rcases ih hrest with rfl | ⟨left, c, c', right, rfl, hleft, hc, hedit, rfl⟩
        · exact .inl rfl
        · exact .inr ⟨d :: left, c, c', right, rfl, List.forall_mem_cons.2 ⟨hname, hleft⟩, hc,
            hedit, rfl⟩

theorem editDefinitions_error {edit : Edit (List Definition) α} {f f' : PolicyFile}
    (h : editDefinitions edit f = .error e f') :
    ∃ ds, edit f.forest.definitions = .error e ds ∧
      f' = { f with forest := { f.forest with definitions := ds } } := by
  rw [editDefinitions] at h
  split at h
  · cases h
  · next ds hedit =>
    cases h
    exact ⟨ds, hedit, rfl⟩

theorem editPath_error {path : Path} {edit : Edit PolicyFile α} {fs fs' : List PolicyFile}
    (h : editPath path name edit fs = .error e fs') :
    fs' = fs ∨ ∃ front f f' back, fs = front ++ f :: back ∧
      (∀ g ∈ front, g.path.same path = false) ∧ f.path.same path = true ∧
      edit f = .error e f' ∧ fs' = front ++ f' :: back := by
  induction fs generalizing fs' with
  | nil =>
    cases h
    exact .inl rfl
  | cons f fs ih =>
    rw [editPath] at h
    split at h
    · next hsame =>
      split at h
      · cases h
      · next f' hedit =>
        cases h
        exact .inr ⟨[], f, f', fs, rfl, by simp, hsame, hedit, rfl⟩
    · next hsame =>
      split at h
      · cases h
      · next hrest =>
        cases h
        rcases ih hrest with rfl | ⟨front, g, g', back, rfl, hfront, hg, hedit, rfl⟩
        · exact .inl rfl
        · exact .inr ⟨f :: front, g, g', back, rfl,
            List.forall_mem_cons.2 ⟨Bool.eq_false_iff.2 hsame, hfront⟩, hg, hedit, rfl⟩

/-- A failed edit of the definitions of the file that holds a name changes them alone. -/
theorem editHolder_error {edit : Edit (List Definition) α}
    (h : editHolder name edit repo = .error e repo') :
    repo' = repo ∨ ∃ path front f back ds, repo.location? name = some path ∧
      repo.files = front ++ f :: back ∧ (∀ g ∈ front, g.path.same path = false) ∧
      f.path.same path = true ∧ edit f.forest.definitions = .error e ds ∧
      repo' =
        { repo with
          files := front ++ { f with forest := { f.forest with definitions := ds } } :: back } := by
  simp only [editHolder, bind, EStateM.bind, Edit.get_apply] at h
  cases hpath : repo.location? name with
  | none =>
    rw [hpath] at h
    cases h
    exact .inl rfl
  | some path =>
    rw [hpath] at h
    simp only [Edit.focus] at h
    split at h
    · cases h
    · next hfiles =>
      cases h
      rcases editPath_error hfiles with rfl | ⟨front, f, f', back, hsplit, hfront, hf, hedit, rfl⟩
      · exact .inl rfl
      · obtain ⟨ds, hds, rfl⟩ := editDefinitions_error hedit
        exact .inr ⟨path, front, f, back, ds, rfl, hsplit, hfront, hf, hds, rfl⟩

/-- A failed edit of the definition `name` leaves everything as it was, or everything but the body
of this definition, which is as far as the edit came. -/
theorem modifyNamed_error {variant : Variant β} {edit : Edit β α}
    (h : modifyNamed variant name edit repo = .error e repo') :
    repo' = repo ∨
      DiffersIn variant name (fun b b' => edit b = .error e b') repo repo' := by
  rcases editHolder_error h with
    rfl | ⟨path, front, f, back, ds, hpath, hfiles, hfront, hf, hds, rfl⟩
  · exact .inl rfl
  rcases editNamed_error hds with rfl | ⟨left, d, d', right, hsplit, hleft, hname, hd, rfl⟩
  · exact .inl (by rw [← hfiles])
  rcases editBody_error hd with rfl | ⟨body, body', hbody, hedit, rfl⟩
  · exact .inl (by rw [← hsplit, ← hfiles])
  · exact .inr ⟨hpath, hfiles, hfront, hf, hsplit, hleft, hname, hbody, hedit⟩

/-! ### Failures that change nothing -/

theorem restores_removeNamed (name : String) : Restores (removeNamed name) := by
  intro ds e ds' h
  rw [removeNamed] at h
  split at h <;> cases h
  rfl

theorem restores_editHolder {edit : Edit (List Definition) α} (h : Restores edit) :
    Restores (editHolder name edit) := by
  intro repo e repo' hrepo
  rcases editHolder_error hrepo with rfl | ⟨path, front, f, back, ds, -, hfiles, -, -, hds, rfl⟩
  · rfl
  · rw [h hds, ← hfiles]

/-- An edit of a definition restores the repository if it restores the body. -/
theorem restores_modifyNamed {variant : Variant β} {edit : Edit β α} (hlawful : variant.Lawful)
    (h : Restores edit) : Restores (modifyNamed variant name edit) := by
  intro repo e repo' hrepo
  rcases modifyNamed_error hrepo with rfl | hdiffers
  · rfl
  · exact (hdiffers.imp fun _ _ hedit => h hedit).eq_of_eq hlawful

/-- A deletion that fails changes nothing. -/
theorem restores_delete (name : String) : Restores (delete name) := by
  intro repo e repo' h
  simp only [delete, bind, EStateM.bind] at h
  split at h
  · cases h
  · next hedit =>
    cases h
    exact restores_editHolder (restores_removeNamed name) hedit

/-- A creation that fails changes nothing. -/
theorem restores_create (path : Path) (d : Definition) : Restores (create path d) := by
  intro repo e repo' h
  simp only [create, bind, EStateM.bind, Edit.get_apply] at h
  split at h
  · cases h
    rfl
  · split at h <;> cases h
    rfl

end Repository

end PolicyEditor
