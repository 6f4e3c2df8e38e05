import PolicyEditor.Proofs.Job.Additions

/-!
# Jobs within jobs are applied in sequence

A job of the method `multi_job` whose parameters decode holds other jobs, which may hold jobs again.
The jobs that hold none are the leaves.  To apply a job is to apply its leaves, one after the other
from left to right, up to the first error.  A job of the method `multi_job` whose parameters do not
decode is a leaf that fails, after the leaves in front of it were applied.

The parameters of a job within a job are part of the parameters of the outer one, so they are nested
less deep.  This is why the leaves are well defined, and why every depth that exceeds that of a job
is enough to apply it.

## Main definitions

* `Job.subjobs?` : the jobs that a job holds.
* `Job.leaves` : the leaves of a job.

## Main results

* `Job.depth_lt_of_mem_subjobs?` : the jobs within a job are nested less deep.
* `Job.applyNested_eq_apply` : the depth to which jobs are applied does not matter.
* `Job.apply_eq_leaves` : to apply a job is to apply its leaves.
-/

namespace PolicyEditor

theorem Except.exists_of_mem_mapM {ε α β : Type} {f : α → Except ε β} {as : List α} {bs : List β}
    (h : as.mapM f = .ok bs) {b : β} (hb : b ∈ bs) : ∃ a ∈ as, f a = .ok b := by
  induction as generalizing bs with
  | nil =>
    cases h
    cases hb
  | cons a as ih =>
    rw [List.mapM_cons] at h
    obtain ⟨b', hfirst, h⟩ := Except.bind_eq_ok.1 h
    obtain ⟨bs', hrest, h⟩ := Except.bind_eq_ok.1 h
    cases h
    rcases List.mem_cons.1 hb with rfl | hb
    · exact ⟨a, List.mem_cons_self, hfirst⟩
    · obtain ⟨a', hmem, ha'⟩ := ih hrest hb
      exact ⟨a', List.mem_cons_of_mem _ hmem, ha'⟩

/-! ### Depths of JSON values -/

namespace Json

theorem depth_le_depths {items : List Json} {j : Json} (h : j ∈ items) :
    j.depth ≤ depths items := by
  induction items with
  | nil => cases h
  | cons i items ih =>
    rw [depths]
    rcases List.mem_cons.1 h with rfl | h
    · exact Nat.le_max_left _ _
    · exact (ih h).trans (Nat.le_max_right _ _)

theorem depth_le_memberDepths {members : List (String × Json)} {key : String} {j : Json}
    (h : (key, j) ∈ members) : j.depth ≤ memberDepths members := by
  induction members with
  | nil => cases h
  | cons m members ih =>
    obtain ⟨k, i⟩ := m
    rw [memberDepths]
    rcases List.mem_cons.1 h with heq | h
    · cases heq
      exact Nat.le_max_left _ _
    · exact (ih h).trans (Nat.le_max_right _ _)

end Json

namespace Job

/-! ### Decoded fields -/

namespace Fields

variable {α : Type} {f : Fields} {name : String}

/-- The value for a field is part of the value that the record is read from. -/
theorem depth_lt {title : String} {names : List String} {j v : Json}
    (hf : ofJson title names j = .ok f) (h : f.value? name = some v) : v.depth < j.depth := by
  cases j with
  | array items =>
    cases hf
    obtain ⟨i, -, hi⟩ := Option.bind_eq_some_iff.1 h
    exact Nat.lt_succ_of_le (Json.depth_le_depths (List.mem_of_getElem? hi))
  | object members =>
    cases hf
    obtain ⟨⟨key, v⟩, hfind, rfl⟩ := Option.map_eq_some_iff.1 h
    exact Nat.lt_succ_of_le (Json.depth_le_memberDepths (List.mem_of_find?_eq_some hfind))
  | _ => cases hf

theorem read_eq_some {decode : Json → Decoded α} {a : α} (h : f.read name decode = .ok (some a)) :
    ∃ v, f.value? name = some v ∧ decode v = .ok a := by
  rw [read] at h
  split at h
  · next v hv =>
    refine ⟨v, hv, ?_⟩
    cases hdecode : decode v with
    | error => rw [hdecode] at h; cases h
    | ok => rw [hdecode] at h; cases h; rfl
  · cases h

theorem need_eq_ok {field : Decoded (Option α)} {a : α} (h : f.need name field = .ok a) :
    field = .ok (some a) := by
  obtain ⟨value, rfl, hvalue⟩ := Except.bind_eq_ok.1 h
  cases value with
  | some => cases hvalue; rfl
  | none =>
    dsimp only at hvalue
    split at hvalue <;> cases hvalue

end Fields

/-- The parameters of a job are part of the value that it is decoded from. -/
theorem depth_le_of_ofJson {j : Json} {job : Job} (h : ofJson j = .ok job) :
    job.depth ≤ j.depth := by
  obtain ⟨f, hf, h⟩ := Except.bind_eq_ok.1 h
  obtain ⟨-, -, h⟩ := Except.bind_eq_ok.1 h
  obtain ⟨method, -, h⟩ := Except.bind_eq_ok.1 h
  obtain ⟨params, hparams, h⟩ := Except.bind_eq_ok.1 h
  obtain ⟨crq, -, h⟩ := Except.bind_eq_ok.1 h
  obtain ⟨-, -, h⟩ := Except.bind_eq_ok.1 h
  cases h
  rw [depth]
  obtain _ | _ | v := params
  · exact Nat.zero_le _
  · exact Nat.zero_le _
  · obtain ⟨v', hv, hdecode⟩ := Fields.read_eq_some hparams
    obtain rfl : v' = v := by
      cases v' <;> cases hdecode <;> rfl
    exact (Fields.depth_lt hf hv).le

/-- The jobs that `multi_job` is given are part of its parameters. -/
theorem depth_lt_of_multiJob {j : Json} {p : Params.MultiJob} (h : Params.MultiJob.ofJson j = .ok p)
    {sub : Job} (hsub : sub ∈ p.jobs) : sub.depth < j.depth := by
  obtain ⟨f, hf, h⟩ := Except.bind_eq_ok.1 h
  obtain ⟨-, -, h⟩ := Except.bind_eq_ok.1 h
  obtain ⟨jobs, hjobs, h⟩ := Except.bind_eq_ok.1 h
  obtain ⟨-, -, h⟩ := Except.bind_eq_ok.1 h
  cases h
  obtain ⟨v, hv, hdecode⟩ := Fields.read_eq_some (Fields.need_eq_ok hjobs)
  refine lt_of_le_of_lt ?_ (Fields.depth_lt hf hv)
  cases v with
  | array items =>
    obtain ⟨item, hitem, hsub⟩ := Except.exists_of_mem_mapM hdecode hsub
    exact (depth_le_of_ofJson hsub).trans ((Json.depth_le_depths hitem).trans (Nat.le_succ _))
  | _ => cases hdecode

variable {job : Job} {jobs : List Job}

/-! ### Leaves -/

/-- The jobs that a job holds, if it is of the method `multi_job` and its parameters decode. -/
def subjobs? (job : Job) : Option (List Job) :=
  match Method.ofName? job.method, job.decode Params.MultiJob.ofJson with
  | some .multiJob, .ok p => some p.jobs
  | _, _ => none

theorem subjobs?_eq_some : job.subjobs? = some jobs ↔
    Method.ofName? job.method = some .multiJob ∧
      job.decode Params.MultiJob.ofJson = .ok ⟨jobs⟩ := by
  rw [subjobs?]
  split
  · next p hmethod hparams =>
    obtain ⟨jobs⟩ := p
    simp [hmethod, hparams]
  · next hother =>
    simp only [reduceCtorEq, false_iff, not_and]
    exact fun hmethod => hother ⟨jobs⟩ hmethod

/-- The jobs within a job are nested less deep. -/
theorem depth_lt_of_mem_subjobs? (h : job.subjobs? = some jobs) {sub : Job} (hsub : sub ∈ jobs) :
    sub.depth < job.depth := by
  obtain ⟨-, hparams⟩ := subjobs?_eq_some.1 h
  rw [decode] at hparams
  split at hparams
  · next p hp =>
    cases hparams
    cases hjson : job.params with
    | none =>
      rw [hjson] at hp
      cases hp
    | some j =>
      rw [hjson] at hp
      have hdepth : job.depth = j.depth := by rw [depth, hjson, Option.getD_some]
      exact hdepth ▸ depth_lt_of_multiJob hp hsub
  · cases hparams

/-- The jobs within a job that hold no jobs themselves, from left to right. -/
def leaves (job : Job) : List Job :=
  match h : job.subjobs? with
  | none => [job]
  | some jobs => jobs.attach.flatMap fun ⟨sub, hsub⟩ =>
    have := depth_lt_of_mem_subjobs? h hsub
    leaves sub
termination_by job.depth

theorem leaves_of_none (h : job.subjobs? = none) : job.leaves = [job] := by
  rw [leaves]
  split
  · rfl
  · next jobs hjobs => rw [h] at hjobs; cases hjobs

theorem leaves_of_some (h : job.subjobs? = some jobs) : job.leaves = jobs.flatMap leaves := by
  rw [leaves]
  split
  · next hnone => rw [h] at hnone; cases hnone
  · next jobs' hjobs =>
    obtain rfl := Option.some.inj (hjobs.symm.trans h)
    simp only [List.flatMap_def, List.attach_map_val]

/-- The leaves of a job are its parts that hold no jobs. -/
theorem mem_leaves {leaf : Job} :
    leaf ∈ job.leaves ↔ Part leaf job ∧ leaf.subjobs? = none := by
  induction job using leaves.induct with
  | case1 job h =>
    rw [leaves_of_none h, List.mem_singleton]
    constructor
    · rintro rfl
      exact ⟨.self, h⟩
    · rintro ⟨_ | ⟨hmethod, hparams, -⟩, -⟩
      · rfl
      · rw [subjobs?_eq_some.2 ⟨hmethod, hparams⟩] at h
        cases h
  | case2 job jobs h ih =>
    obtain ⟨hmethod, hparams⟩ := subjobs?_eq_some.1 h
    rw [leaves_of_some h, List.mem_flatMap]
    constructor
    · rintro ⟨sub, hsub, hleaf⟩
      obtain ⟨hpart, hnone⟩ := (ih sub hsub).1 hleaf
      exact ⟨.within hmethod hparams hsub hpart, hnone⟩
    · rintro ⟨hpart, hnone⟩
      cases hpart with
      | self =>
        rw [hnone] at h
        cases h
      | within _ hparams' hsub hpart =>
        cases hparams.symm.trans hparams'
        exact ⟨_, hsub, (ih _ hsub).2 ⟨hpart, hnone⟩⟩

/-! ### Applying leaves -/

theorem applyMethod_congr {f g : List Job → Edit Repository Unit} (method : Method)
    (h : method = .multiJob → ∀ p, job.decode Params.MultiJob.ofJson = .ok p →
      f p.jobs = g p.jobs) : applyMethod job f method = applyMethod job g method := by
  cases method with
  | multiJob =>
    rw [applyMethod, applyMethod, run, run]
    cases hparams : job.decode Params.MultiJob.ofJson with
    | error => rfl
    | ok p => exact h rfl p hparams
  | _ => rfl

theorem applyAll_congr {f g : Job → Edit Repository Unit} (h : ∀ job ∈ jobs, f job = g job) :
    applyAll f jobs = applyAll g jobs := by
  induction jobs with
  | nil => rfl
  | cons job jobs ih =>
    rw [List.forall_mem_cons] at h
    rw [applyAll, applyAll, h.1, ih h.2]

theorem applyAll_append (f : Job → Edit Repository Unit) (jobs jobs' : List Job) :
    applyAll f (jobs ++ jobs') = (do applyAll f jobs; applyAll f jobs') := by
  induction jobs with
  | nil => rfl
  | cons job jobs ih =>
    rw [List.cons_append, applyAll, applyAll, ih, bind_assoc]

theorem applyAll_flatMap (f : Job → Edit Repository Unit) (g : Job → List Job) (jobs : List Job) :
    applyAll f (jobs.flatMap g) = applyAll (fun job => applyAll f (g job)) jobs := by
  induction jobs with
  | nil => rfl
  | cons job jobs ih => rw [List.flatMap_cons, applyAll_append, ih, applyAll]

theorem apply_of_subjobs? (h : job.subjobs? = some jobs) :
    job.apply = applyAll (applyNested job.depth) jobs := by
  obtain ⟨hmethod, hparams⟩ := subjobs?_eq_some.1 h
  rw [apply_of_ofName? hmethod, applyMethod, run, hparams]
  rfl

/-- A job is applied in the same way to every depth that exceeds its own. -/
theorem applyNested_eq_apply {depth : Nat} (h : job.depth < depth) :
    applyNested depth job = job.apply := by
  induction depth using Nat.strongRecOn generalizing job with
  | ind depth ih =>
    obtain ⟨depth, rfl⟩ := Nat.exists_eq_succ_of_ne_zero (Nat.ne_zero_of_lt h)
    rw [applyNested]
    cases hmethod : Method.ofName? job.method with
    | none => rw [apply, applyNested, hmethod]
    | some method =>
      rw [apply_of_ofName? hmethod]
      refine applyMethod_congr method fun hmulti p hparams => applyAll_congr fun sub hsub => ?_
      have hlt := depth_lt_of_mem_subjobs? (subjobs?_eq_some.2 ⟨hmulti ▸ hmethod, hparams⟩) hsub
      rw [ih depth (Nat.lt_succ_self _) (by omega), ih job.depth h hlt]

/-- A job that holds other jobs applies each of them. -/
theorem apply_eq_applyAll (h : job.subjobs? = some jobs) : job.apply = applyAll apply jobs := by
  rw [apply_of_subjobs? h]
  exact applyAll_congr fun sub hsub => applyNested_eq_apply (depth_lt_of_mem_subjobs? h hsub)

theorem apply_eq_applyAll_leaves (job : Job) : job.apply = applyAll apply job.leaves := by
  induction job using leaves.induct with
  | case1 job h =>
    rw [leaves_of_none h]
    exact (bind_pure job.apply).symm
  | case2 job jobs h ih =>
    rw [leaves_of_some h, applyAll_flatMap, apply_eq_applyAll h]
    exact applyAll_congr ih

/-- A leaf that fails ends the job with its error, behind the leaves in front of it.  Such a leaf
may be a job of the method `multi_job` with malformed parameters. -/
theorem apply_error_of_leaf {front rest : List Job} {leaf : Job} {e : PolicyError}
    {repo repo₁ repo₂ : Repository} (hleaves : job.leaves = front ++ leaf :: rest)
    (hfront : applyAll apply front repo = .ok () repo₁)
    (hleaf : leaf.apply repo₁ = .error e repo₂) : job.apply repo = .error e repo₂ := by
  have hrest : applyAll apply (leaf :: rest) repo₁ = .error e repo₂ := by
    simp only [applyAll, bind, EStateM.bind, hleaf]
  rw [apply_eq_applyAll_leaves, hleaves, applyAll_append]
  simp only [bind, EStateM.bind, hfront, hrest]

/-- To apply a job is to apply its leaves one after the other from left to right, up to the first
error: the outcome is the same, and so is the repository behind it.  The leaves are the jobs within
the job that do not hold jobs themselves. -/
theorem apply_eq_leaves (job : Job) :
    job.apply = applyAll apply job.leaves ∧
      ∀ leaf, leaf ∈ job.leaves ↔ Part leaf job ∧ leaf.subjobs? = none :=
  ⟨job.apply_eq_applyAll_leaves, fun _ => mem_leaves⟩

end Job

end PolicyEditor
