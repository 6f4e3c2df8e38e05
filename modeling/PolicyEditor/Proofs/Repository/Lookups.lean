import PolicyEditor.Proofs.Repository.Failures
import PolicyEditor.Proofs.Repository.Faithful

/-!
# Edits and look-ups

An edit of the definition of a name reaches the definition that a look-up of the name finds: both
go by the index to a file and take the first definition of the name there.  So the edit fails in the
way of the look-up if there is no such definition or if it has another kind.  Otherwise it succeeds
if its edit of the body does, and then a look-up finds the edited body.  If the body stays as it is,
only the mark of its file changes.

## Main definitions

* `Edit.Reaches` : an edit of a whole edits the part that a look-up finds.
* `Edit.atFirst` : an edit of the first item of a list with some property.

## Main results

* `Edit.Reaches.trans` : a part of a part is reached through the part.
* `Repository.reaches_modifyNamed` : an edit of a definition reaches the body that is looked up.
* `Repository.modifyNamed_of_lookupAs` : an edit of a definition changes it in its place.
* `Repository.modifyNamed_of_unchanged` : an edit that leaves the body as it is.
-/

namespace PolicyEditor

namespace Edit

variable {σ τ υ α : Type}

/-- The edit `x` of a whole does to the part that `find` finds what `y` does, and afterwards the
part is found in its place. -/
structure Reaches (find : σ → Except PolicyError τ) (y : Edit τ α) (x : Edit σ α) : Prop where
  missing : ∀ ⦃s e⦄, find s = .error e → x s = .error e s
  refused : ∀ ⦃s t e⦄, find s = .ok t → y t = .error e t → x s = .error e s
  found : ∀ ⦃s t a t'⦄, find s = .ok t → y t = .ok a t' → ∃ s', x s = .ok a s' ∧ find s' = .ok t'

/-- A part of a part is reached through the part. -/
theorem Reaches.trans {find : σ → Except PolicyError τ} {find' : τ → Except PolicyError υ}
    {x : Edit σ α} {y : Edit τ α} {z : Edit υ α} (h : Reaches find y x) (h' : Reaches find' z y) :
    Reaches (fun s => find s >>= find') z x where
  missing s e hfind := by
    rcases hs : find s with e' | t
    · rw [hs] at hfind
      cases hfind
      exact h.missing hs
    · rw [hs] at hfind
      exact h.refused hs (h'.missing hfind)
  refused s u e hfind hz := by
    obtain ⟨t, hs, ht⟩ := Except.bind_eq_ok.1 hfind
    exact h.refused hs (h'.refused ht hz)
  found s u a u' hfind hz := by
    obtain ⟨t, hs, ht⟩ := Except.bind_eq_ok.1 hfind
    obtain ⟨t', hy, ht'⟩ := h'.found ht hz
    obtain ⟨s', hx, hs'⟩ := h.found hs hy
    exact ⟨s', hx, Except.bind_eq_ok.2 ⟨t', hs', ht'⟩⟩

/-- An edit of a whole that succeeds finds its part, if the edit of the part does not fail. -/
theorem Reaches.exists_of_ok {find : σ → Except PolicyError τ} {x : Edit σ α} {y : Edit τ α}
    (h : Reaches find y x) (hy : Succeeds y) {s s' : σ} {a : α} (hx : x s = .ok a s') :
    ∃ t t', find s = .ok t ∧ y t = .ok a t' ∧ find s' = .ok t' := by
  rcases hs : find s with e | t
  · rw [h.missing hs] at hx
    cases hx
  · obtain ⟨b, t', hedit⟩ := hy t
    obtain ⟨s₁, hwhole, hs'⟩ := h.found hs hedit
    rw [hwhole] at hx
    cases hx
    exact ⟨t, t', rfl, hedit, hs'⟩

/-! ### First items -/

/-- The first item of a list for which `p` holds. -/
def first (p : σ → Bool) (missing : PolicyError) (ss : List σ) : Except PolicyError σ :=
  match ss.find? p with
  | some s => .ok s
  | none => .error missing

/-- Edit the first item of a list for which `p` holds. -/
def atFirst (p : σ → Bool) (missing : PolicyError) (edit : Edit σ α) : Edit (List σ) α
  | [] => .error missing []
  | s :: ss =>
    if p s then
      match edit s with
      | .ok a s => .ok a (s :: ss)
      | .error e s => .error e (s :: ss)
    else
      match atFirst p missing edit ss with
      | .ok a ss => .ok a (s :: ss)
      | .error e ss => .error e (s :: ss)

/-- The first item with a property stands behind items without it. -/
theorem first_eq_ok {p : σ → Bool} {missing : PolicyError} {ss : List σ} {s : σ} :
    first p missing ss = .ok s ↔
      p s = true ∧ ∃ front back, ss = front ++ s :: back ∧ ∀ t ∈ front, (!p t) = true := by
  rw [first, ← List.find?_eq_some_iff_append]
  cases ss.find? p <;> simp

/-- Whether the edit of the first item fails or not, the other items stay. -/
theorem atFirst_append {p : σ → Bool} {missing : PolicyError} {edit : Edit σ α} {front : List σ}
    {s : σ} (hfront : ∀ t ∈ front, (!p t) = true) (hs : p s = true) (back : List σ) :
    atFirst p missing edit (front ++ s :: back) =
      match edit s with
      | .ok a s' => .ok a (front ++ s' :: back)
      | .error e s' => .error e (front ++ s' :: back) := by
  induction front with
  | nil =>
    rw [List.nil_append, atFirst, if_pos hs]
    rfl
  | cons t front ih =>
    rw [List.forall_mem_cons] at hfront
    rw [List.cons_append, atFirst, if_neg (by simpa using hfront.1), ih hfront.2]
    cases edit s <;> rfl

/-- The first item with a property is reached by an edit that keeps the property. -/
theorem reaches_atFirst {p : σ → Bool} {missing : PolicyError} {edit : Edit σ α}
    (hkeep : ∀ s a s', edit s = .ok a s' → p s = true → p s' = true) :
    Reaches (first p missing) edit (atFirst p missing edit) where
  missing ss e h := by
    induction ss with
    | nil =>
      cases h
      rfl
    | cons s ss ih =>
      by_cases hs : p s = true
      · simp [first, hs] at h
      · rw [atFirst, if_neg hs, ih (by simpa [first, hs] using h)]
  refused ss t e h hedit := by
    obtain ⟨ht, front, back, rfl, hfront⟩ := first_eq_ok.1 h
    rw [atFirst_append hfront ht, hedit]
  found ss t a t' h hedit := by
    obtain ⟨ht, front, back, rfl, hfront⟩ := first_eq_ok.1 h
    rw [atFirst_append hfront ht, hedit]
    exact ⟨_, rfl, first_eq_ok.2 ⟨hkeep t a t' hedit ht, front, back, rfl, hfront⟩⟩

/-- An edit of the first item with a property leaves the items on both sides of it. -/
theorem atFirst_of_first {p : σ → Bool} {missing : PolicyError} {edit : Edit σ α} {ss : List σ}
    {s s' : σ} {a : α} (h : first p missing ss = .ok s) (hedit : edit s = .ok a s') :
    ∃ front back, ss = front ++ s :: back ∧
      atFirst p missing edit ss = .ok a (front ++ s' :: back) := by
  obtain ⟨hs, front, back, rfl, hfront⟩ := first_eq_ok.1 h
  exact ⟨front, back, rfl, by rw [atFirst_append hfront hs, hedit]⟩

end Edit

namespace Repository

open Edit

variable {α β : Type} {name : String}

/-! ### From a repository to a definition -/

theorem editNamed_eq_atFirst (name : String) (edit : Edit Definition α) :
    editNamed name edit = atFirst (·.name == name) (.notFound (.definition name)) edit := by
  funext ds
  induction ds with
  | nil => rfl
  | cons d ds ih =>
    by_cases hd : d.name = name
    · simp only [editNamed, atFirst, if_pos hd, if_pos (beq_iff_eq.2 hd)]
      rcases edit d with ⟨a, d'⟩ | ⟨e, d'⟩ <;> rfl
    · simp only [editNamed, atFirst, if_neg hd, if_neg (mt beq_iff_eq.1 hd), ih]
      rcases atFirst _ _ edit ds with ⟨a, ds'⟩ | ⟨e, ds'⟩ <;> rfl

theorem editPath_eq_atFirst (path : Path) (name : String) (edit : Edit PolicyFile α) :
    editPath path name edit = atFirst (·.path.same path) (.notFound (.definition name)) edit := by
  funext fs
  induction fs with
  | nil => rfl
  | cons f fs ih =>
    by_cases hf : f.path.same path = true
    · simp only [editPath, atFirst, if_pos hf]
      rcases edit f with ⟨a, f'⟩ | ⟨e, f'⟩ <;> rfl
    · simp only [editPath, atFirst, if_neg hf, ih]
      rcases atFirst _ _ edit fs with ⟨a, fs'⟩ | ⟨e, fs'⟩ <;> rfl

theorem reaches_editDefinitions (edit : Edit (List Definition) α) :
    Reaches (fun f : PolicyFile => .ok f.forest.definitions) edit (editDefinitions edit) where
  missing f e h := by cases h
  refused f ds e h hedit := by
    cases h
    rw [editDefinitions, hedit]
  found f ds a ds' h hedit := by
    cases h
    rw [editDefinitions, hedit]
    exact ⟨_, rfl, rfl⟩

/-- The definitions of the first file of a path. -/
def definitionsAt (path : Path) (name : String) (fs : List PolicyFile) :
    Except PolicyError (List Definition) :=
  first (·.path.same path) (.notFound (.definition name)) fs >>= fun f =>
    .ok f.forest.definitions

theorem reaches_editPath (path : Path) (name : String) (edit : Edit (List Definition) α) :
    Reaches (definitionsAt path name) edit (editPath path name (editDefinitions edit)) := by
  rw [editPath_eq_atFirst]
  refine (reaches_atFirst fun f a f' hedit hsame => ?_).trans (reaches_editDefinitions edit)
  obtain ⟨ds, -, rfl⟩ := editDefinitions_ok hedit
  exact hsame

/-- The definitions of the file that holds the definition `name` according to the index. -/
def holder (name : String) (repo : Repository) : Except PolicyError (List Definition) :=
  match repo.location? name with
  | none => .error (.notFound (.definition name))
  | some path => definitionsAt path name repo.files

theorem reaches_editHolder (name : String) (edit : Edit (List Definition) α) :
    Reaches (holder name) edit (editHolder name edit) where
  missing repo e h := by
    simp only [holder, editHolder, bind, EStateM.bind, get_apply] at h ⊢
    rcases hlocation : repo.location? name with - | path <;> rw [hlocation] at h
    · cases h
      rfl
    · simp only [focus, (reaches_editPath path name edit).missing h]
  refused repo ds e h hedit := by
    simp only [holder, editHolder, bind, EStateM.bind, get_apply] at h ⊢
    rcases hlocation : repo.location? name with - | path <;> rw [hlocation] at h
    · cases h
    · simp only [focus, (reaches_editPath path name edit).refused h hedit]
  found repo ds a ds' h hedit := by
    simp only [holder] at h
    rcases hlocation : repo.location? name with - | path <;> rw [hlocation] at h
    · cases h
    · obtain ⟨fs, hfs, hfirst⟩ := (reaches_editPath path name edit).found h hedit
      have hlocation' : location? { repo with files := fs } name = some path := hlocation
      refine ⟨{ repo with files := fs }, editHolder_eq_ok.2 ⟨path, fs, hlocation, hfs, rfl⟩, ?_⟩
      rw [holder, hlocation']
      exact hfirst

theorem holder_bind_first (repo : Repository) :
    (holder name repo >>= first (·.name == name) (.notFound (.definition name))) =
      repo.lookup name := by
  rw [lookup, holder]
  rcases repo.location? name with - | path
  · rfl
  · rcases hfile : repo.file? path with - | f
    · rw [Option.bind_some, hfile]
      rw [file?] at hfile
      simp only [definitionsAt, first, hfile]
      rfl
    · rw [Option.bind_some, hfile]
      rw [file?] at hfile
      simp only [definitionsAt, first, hfile, bind, Except.bind, Option.bind_some, Forest.find?]
      rcases List.find? _ f.forest.definitions with - | d <;> rfl

/-- An edit of the first definition of a name, in the file that the index tells, reaches the
definition that is looked up. -/
theorem reaches_editHolder_editNamed {edit : Edit Definition α}
    (hname : ∀ d a d', edit d = .ok a d' → d'.name = d.name) :
    Reaches (·.lookup name) edit (editHolder name (editNamed name edit)) := by
  simp only [← holder_bind_first]
  refine (reaches_editHolder name _).trans ?_
  rw [editNamed_eq_atFirst]
  refine reaches_atFirst fun d a d' hedit hd => ?_
  rw [hname d a d' hedit]
  exact hd

theorem name_of_lookup {repo : Repository} {d : Definition} (h : repo.lookup name = .ok d) :
    d.name = name := by
  rw [lookup] at h
  split at h <;> cases h
  next hfind =>
  obtain ⟨f, -, hfind⟩ := Option.bind_eq_some_iff.1 hfind
  simpa using List.find?_some hfind

/-! ### From a definition to its body -/

/-- The body of a definition, which has to be of the kind of `variant`. -/
def bodyOf (variant : Variant β) (d : Definition) : Except PolicyError β :=
  match variant.get? d.body with
  | some body => .ok body
  | none => .error (.typeMismatch d.name variant.kind d.kind)

theorem bodyOf_eq_ok {variant : Variant β} {d : Definition} {body : β} :
    bodyOf variant d = .ok body ↔ variant.get? d.body = some body := by
  rw [bodyOf]
  split <;> simp_all

theorem lookup_bind_bodyOf (variant : Variant β) (repo : Repository) :
    (repo.lookup name >>= bodyOf variant) = repo.lookupAs variant name := by
  rw [lookupAs]
  rcases hlookup : repo.lookup name with e | d
  · rfl
  · simp only [bind, Except.bind, bodyOf, name_of_lookup hlookup]
    rfl

variable {variant : Variant β}

theorem reaches_editBody (hlawful : variant.Lawful)
    (hset : ∀ body, variant.get? (variant.set body) = some body) (edit : Edit β α) :
    Reaches (bodyOf variant) edit (editBody variant edit) where
  missing d e h := by
    rw [bodyOf] at h
    rw [editBody]
    split at h <;> cases h
    next hbody => rw [hbody]
  refused d body e h hedit := by
    have hbody := bodyOf_eq_ok.1 h
    simp only [editBody, hbody, hedit, hlawful hbody]
  found d body a body' h hedit := by
    simp only [editBody, bodyOf_eq_ok.1 h, hedit]
    exact ⟨_, rfl, bodyOf_eq_ok.2 (hset body')⟩

/-- An edit of the definition of a name reaches the body that is looked up by this name. -/
theorem reaches_modifyNamed (hlawful : variant.Lawful)
    (hset : ∀ body, variant.get? (variant.set body) = some body) (edit : Edit β α) :
    Reaches (·.lookupAs variant name) edit (modifyNamed variant name edit) := by
  simp only [← lookup_bind_bodyOf]
  refine (reaches_editHolder_editNamed fun d a d' hd => ?_).trans
    (reaches_editBody hlawful hset edit)
  obtain ⟨-, -, -, -, rfl⟩ := editBody_ok hd
  rfl

/-! ### The place of an edit -/

theorem holder_eq_ok {repo : Repository} {ds : List Definition} (h : holder name repo = .ok ds) :
    ∃ path f, repo.location? name = some path ∧
      first (·.path.same path) (.notFound (.definition name)) repo.files = .ok f ∧
      ds = f.forest.definitions := by
  rw [holder] at h
  split at h
  · cases h
  · next path hlocation =>
    obtain ⟨f, hf, h⟩ := Except.bind_eq_ok.1 h
    cases h
    exact ⟨path, f, hlocation, hf, rfl⟩

/-- An edit of the definitions of a file puts them in the place of the former ones. -/
theorem editHolder_of_holder {edit : Edit (List Definition) α} {repo : Repository}
    {ds ds' : List Definition} {a : α} (h : holder name repo = .ok ds)
    (hedit : edit ds = .ok a ds') :
    ∃ front f back, repo.files = front ++ f :: back ∧ f.forest.definitions = ds ∧
      editHolder name edit repo =
        .ok a { repo with files := front ++ f.withDefinitions ds' :: back } := by
  obtain ⟨path, f, hlocation, hf, rfl⟩ := holder_eq_ok h
  have hfile : editDefinitions edit f = .ok a (f.withDefinitions ds') := by
    rw [editDefinitions, hedit]
    rfl
  obtain ⟨front, back, hfiles, hedit⟩ := atFirst_of_first hf hfile
  rw [← editPath_eq_atFirst] at hedit
  exact ⟨front, f, back, hfiles, rfl, editHolder_eq_ok.2 ⟨path, _, hlocation, hedit, rfl⟩⟩

/-- An edit of the definition that is looked up puts the edited body in the place of the former one,
and all other definitions stay. -/
theorem modifyNamed_of_lookupAs {edit : Edit β α} {repo : Repository} {body body' : β} {a : α}
    (hlookup : repo.lookupAs variant name = .ok body) (hedit : edit body = .ok a body') :
    ∃ front f back left d right, repo.files = front ++ f :: back ∧
      f.forest.definitions = left ++ d :: right ∧ repo.lookup name = .ok d ∧
      variant.get? d.body = some body ∧
      modifyNamed variant name edit repo =
        .ok a
          { repo with
            files := front ++
              f.withDefinitions (left ++ { d with body := variant.set body' } :: right) ::
                back } := by
  rw [← lookup_bind_bodyOf] at hlookup
  obtain ⟨d, hlookup, hbody⟩ := Except.bind_eq_ok.1 hlookup
  replace hbody := bodyOf_eq_ok.1 hbody
  have hd := hlookup
  rw [← holder_bind_first] at hd
  obtain ⟨ds, hds, hd⟩ := Except.bind_eq_ok.1 hd
  have hchanged : editBody variant edit d = .ok a { d with body := variant.set body' } := by
    simp only [editBody, hbody, hedit]
  obtain ⟨left, right, hsplit, hnamed⟩ := atFirst_of_first hd hchanged
  rw [← editNamed_eq_atFirst] at hnamed
  obtain ⟨front, f, back, hfiles, hdefinitions, hholder⟩ := editHolder_of_holder hds hnamed
  exact ⟨front, f, back, left, d, right, hfiles, hdefinitions.trans hsplit, hlookup, hbody, hholder⟩

/-- An edit that leaves the body of a definition as it is marks the file of the definition and does
nothing else. -/
theorem modifyNamed_of_unchanged (hlawful : variant.Lawful) {edit : Edit β α} {repo : Repository}
    {body : β} {a : α} (hlookup : repo.lookupAs variant name = .ok body)
    (hedit : edit body = .ok a body) :
    ∃ front f back, repo.files = front ++ f :: back ∧
      modifyNamed variant name edit repo =
        .ok a { repo with files := front ++ { f with dirty := true } :: back } := by
  obtain ⟨front, f, back, left, d, right, hfiles, hdefinitions, -, hbody, hmodify⟩ :=
    modifyNamed_of_lookupAs hlookup hedit
  rw [hlawful hbody, ← hdefinitions] at hmodify
  exact ⟨front, f, back, hfiles, hmodify⟩

end Repository

end PolicyEditor
