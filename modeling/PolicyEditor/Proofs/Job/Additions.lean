import PolicyEditor.Proofs.Job.Methods
import PolicyEditor.Proofs.Repository.Fusion
import PolicyEditor.Proofs.Repository.Order

/-!
# Additions to one list

Elements that are added to a list are put behind it, and the list is sorted stably.  To sort a list
that grows again and again is to sort it once, so jobs that add elements to one list are one
addition of all their elements.  The sorted list does not depend on the order of the new elements if
those of the same key are equal, as they have no layouts that could tell them apart.

## Main definitions

* `Job.ElementList` : the element list of a group or the users of a service.
* `Job.Adds` : a job adds elements to a list.

## Main results

* `addMembers_addMembers`, `addMembers_congr` : elements may be added in several steps and, if ties
  among them are equal, in any order.
* `Job.exists_adds` : every successful job of the two methods adds elements to a list.
* `Job.add_of_applyAll` : additions, one after the other, are one addition.
* `Job.eq_of_adds` : the order and the batches of additions do not matter.
-/

namespace PolicyEditor

/-! ### New elements -/

/-- Elements that are added in two steps may be added in one. -/
theorem addMembers_addMembers (new new' : List Element) (elements : List Member) :
    addMembers new' (addMembers new elements) = addMembers (new ++ new') elements := by
  rw [addMembers, addMembers, addMembers, sortMembers, sortMembers, sortMembers,
    stableSort_stableSort_append, List.append_assoc, List.map_append]

/-- New elements may be added in any order if those of the same key are equal. -/
theorem addMembers_congr {new new' : List Element} (h : new.Perm new')
    (hkeys : ∀ a ∈ new, ∀ b ∈ new, a.key = b.key → a = b) (elements : List Member) :
    addMembers new elements = addMembers new' elements := by
  refine stableSort_append_congr (h.map _) ?_ elements
  simp only [List.forall_mem_map]
  intro a ha b hb hab hba
  rw [Member.le, Element.keyLe_iff] at hab hba
  rw [hkeys a ha b hb (toLex.injective (le_antisymm hab hba))]

namespace Job

open Repository Edit

/-- A list to which jobs add elements: that of a group or the users of a service. -/
inductive ElementList where
  | group (name : String)
  | users (service : String)

/-- Add elements to a list. -/
def add : ElementList → List Element → Edit Repository Unit
  | .group name, elements =>
    modifyNamed .group name (modify fun g => { g with elements := addMembers elements g.elements })
  | .users service, elements =>
    modifyNamed .service service (editUser (modify (·.add elements)))

/-- The job adds the elements to the list. -/
inductive Adds (job : Job) : ElementList → List Element → Prop
  | group {p : Params.AddToGroup} {elements : List Element} (hmethod : job.method = "add_to_group")
      (hparams : job.decode Params.AddToGroup.ofJson = .ok p)
      (helements : p.object.elements = .ok elements) :
      Adds job (.group (qualify "group" p.name)) elements
  | users {p : Params.UserEdit} {elements : List Element} (hmethod : job.method = "add_to_user")
      (hparams : job.decode Params.UserEdit.ofJson = .ok p)
      (helements : p.user.elements = .ok elements) :
      Adds job (.users (qualify "service" p.service)) elements

variable {job : Job} {list : ElementList}

theorem ofName?_add_to_group (h : job.method = "add_to_group") :
    Method.ofName? job.method = some .addToGroup := by
  rw [h]
  rfl

theorem ofName?_add_to_user (h : job.method = "add_to_user") :
    Method.ofName? job.method = some .addToUser := by
  rw [h]
  rfl

/-- A job that adds elements does nothing else. -/
theorem Adds.apply_eq {elements : List Element} (h : job.Adds list elements) :
    job.apply = add list elements := by
  cases h with
  | group hmethod hparams helements =>
    rw [apply_of_decode (ofName?_add_to_group hmethod) (fun _ _ => rfl) hparams, addToGroup,
      helements]
    rfl
  | users hmethod hparams helements =>
    rw [apply_of_decode (ofName?_add_to_user hmethod) (fun _ _ => rfl) hparams, addToUser,
      helements]
    rfl

/-- Every job of one of the two methods that succeeds adds elements to a list. -/
theorem exists_adds {repo repo' : Repository}
    (hmethod : job.method = "add_to_group" ∨ job.method = "add_to_user")
    (h : job.apply repo = .ok () repo') : ∃ list elements, job.Adds list elements := by
  rcases hmethod with hmethod | hmethod
  · rw [apply_of_ofName? (ofName?_add_to_group hmethod)] at h
    obtain ⟨p, hparams, h⟩ := ofExcept_bind_eq_ok.1 h
    obtain ⟨elements, helements, -⟩ := ofExcept_bind_eq_ok.1 h
    exact ⟨_, elements, .group hmethod hparams helements⟩
  · rw [apply_of_ofName? (ofName?_add_to_user hmethod)] at h
    obtain ⟨p, hparams, h⟩ := ofExcept_bind_eq_ok.1 h
    obtain ⟨elements, helements, -⟩ := ofExcept_bind_eq_ok.1 h
    exact ⟨_, elements, .users hmethod hparams helements⟩

/-- Two additions are one addition. -/
theorem fuses_add (list : ElementList) (elements elements' : List Element) :
    Fuses (add list elements) (add list elements') (add list (elements ++ elements')) := by
  cases list with
  | group name =>
    refine fuses_modifyNamed ?_ fun _ => rfl
    have hfuses := fuses_modify
      (fun g : Group => { g with elements := addMembers elements g.elements })
      fun g => { g with elements := addMembers elements' g.elements }
    simpa [Function.comp_def, addMembers_addMembers] using hfuses
  | users service =>
    refine fuses_modifyNamed (Fuses.focus ?_ (fun _ _ => rfl) fun _ _ _ => rfl) fun _ => rfl
    have hfuses := fuses_modify (fun u : Union => u.add elements) fun u => u.add elements'
    simpa [Function.comp_def, Union.add, addMembers_addMembers] using hfuses

/-- Jobs that add elements to one list, one after the other, are one addition. -/
theorem add_of_applyAll {jobs : List Job} {added : List (List Element)}
    (h : List.Forall₂ (Adds · list) jobs added) (hjobs : jobs ≠ []) {repo repo' : Repository}
    (happly : applyAll apply jobs repo = .ok () repo') :
    add list added.flatten repo = .ok () repo' := by
  induction h generalizing repo with
  | nil => exact (hjobs rfl).elim
  | @cons job elements jobs added hadds h ih =>
    obtain ⟨_, repo₁, hfirst, hrest⟩ := bind_eq_ok.1 happly
    rw [hadds.apply_eq] at hfirst
    rw [List.flatten_cons]
    by_cases hlast : jobs = []
    · subst hlast
      cases h
      cases hrest
      rwa [List.flatten_nil, List.append_nil]
    · exact fuses_add list elements _ hfirst (ih hlast hrest)

/-- The order and the batches of additions do not matter.  If jobs add elements to one list, other
jobs add the same elements to it in any other order and in any other batches, and equal keys mean
equal elements, then both leave the same repository, the layouts and so the texts included.  It is
the one that a single addition of all the elements leaves. -/
theorem eq_of_adds {jobs jobs' : List Job} {added added' : List (List Element)}
    {repo repo₁ repo₂ : Repository} (h : List.Forall₂ (Adds · list) jobs added)
    (h' : List.Forall₂ (Adds · list) jobs' added') (hjobs : jobs ≠ []) (hjobs' : jobs' ≠ [])
    (hperm : added.flatten.Perm added'.flatten)
    (hkeys : ∀ a ∈ added.flatten, ∀ b ∈ added.flatten, a.key = b.key → a = b)
    (happly : applyAll apply jobs repo = .ok () repo₁)
    (happly' : applyAll apply jobs' repo = .ok () repo₂) :
    repo₁ = repo₂ ∧ add list added.flatten repo = .ok () repo₁ := by
  have hadd := add_of_applyAll h hjobs happly
  have hadd' := add_of_applyAll h' hjobs' happly'
  have hcongr : add list added.flatten = add list added'.flatten := by
    cases list with
    | group name => simp only [add, addMembers_congr hperm hkeys]
    | users service => simp only [add, Union.add, addMembers_congr hperm hkeys]
  rw [hcongr, hadd'] at hadd
  cases hadd
  exact ⟨rfl, hcongr ▸ hadd'⟩

/-! ### Two ways to add three hosts -/

section Samples

/-- A group with one host, which has a comment. -/
def oneHostPolicy : List (Path × String) :=
  [(⟨"group"⟩, "group:g =\n host:b, # old\n;\n")]

/-- The job that adds elements to the group. -/
def addHosts (object : Json) : Job where
  method := "add_to_group"
  params := some (.object [("name", .string "g"), ("object", object)])

/-- A job for each of the new hosts. -/
def hostsOneByOne : List Job :=
  [addHosts (.string "host:c"), addHosts (.string "host:b"), addHosts (.string "host:a")]

/-- One job for all new hosts. -/
def hostsAtOnce : List Job :=
  [addHosts (.array [.string "host:a, host:b", .string "host:c"])]

theorem adds_addHosts {object : Json} {phrase : Phrase} {elements : List Element}
    (hparams : (addHosts object).decode Params.AddToGroup.ofJson = .ok ⟨"g", phrase⟩)
    (helements : phrase.elements = .ok elements) :
    (addHosts object).Adds (.group "group:g") elements :=
  have hname : qualify "group" "g" = "group:g" := by decide +kernel
  hname ▸ Adds.group rfl hparams helements

/-- The host that is there already stays in front of the new one of the same name. -/
theorem eq_of_adds_hosts :
    ∃ repo repo₁ repo₂, ofSources ⟨"policy"⟩ oneHostPolicy = .ok repo ∧
      applyAll apply hostsOneByOne repo = .ok () repo₁ ∧
      applyAll apply hostsAtOnce repo = .ok () repo₂ ∧
      repo₁.renderDirty =
        [(⟨"group"⟩, "group:g =\n host:a,\n host:b, # old\n host:b,\n host:c,\n;\n")] ∧
      repo₁ = repo₂ := by
  have hloaded : (((ofSources ⟨"policy"⟩ oneHostPolicy).toOption.bind fun repo =>
      ((applyAll apply hostsOneByOne).outcome? repo).bind fun out₁ =>
        ((applyAll apply hostsAtOnce).outcome? repo).map fun _ => out₁.2.renderDirty)) =
      some [(⟨"group"⟩, "group:g =\n host:a,\n host:b, # old\n host:b,\n host:c,\n;\n")] := by
    decide +kernel
  simp only [Option.map_eq_some_iff, Option.bind_eq_some_iff, Edit.toOption_eq_some,
    outcome?_eq_some] at hloaded
  obtain ⟨repo, hload, ⟨_, repo₁⟩, hone, ⟨_, repo₂⟩, hall, hrender⟩ := hloaded
  have hone' : List.Forall₂ (Adds · (.group "group:g")) hostsOneByOne
      [[.named "host" "c"], [.named "host" "b"], [.named "host" "a"]] :=
    .cons (adds_addHosts rfl rfl) (.cons (adds_addHosts rfl rfl)
      (.cons (adds_addHosts rfl rfl) .nil))
  have hall' : List.Forall₂ (Adds · (.group "group:g")) hostsAtOnce
      [[.named "host" "a", .named "host" "b", .named "host" "c"]] :=
    .cons (adds_addHosts rfl rfl) .nil
  have hkeys : ∀ a ∈ [Element.named "host" "c", .named "host" "b", .named "host" "a"],
      ∀ b ∈ [Element.named "host" "c", .named "host" "b", .named "host" "a"],
        a.key = b.key → a = b := by
    have ha : Text.lowercase "a" = "a" := by decide +kernel
    have hb : Text.lowercase "b" = "b" := by decide +kernel
    have hc : Text.lowercase "c" = "c" := by decide +kernel
    simp [Element.key, ha, hb, hc]
  have hperm := List.reverse_perm [Element.named "host" "a", .named "host" "b", .named "host" "c"]
  obtain ⟨heq, -⟩ := eq_of_adds hone' hall' (by decide) (by decide) hperm hkeys hone hall
  exact ⟨repo, repo₁, repo₂, hload, hone, hall, hrender, heq⟩

end Samples

end Job

end PolicyEditor
