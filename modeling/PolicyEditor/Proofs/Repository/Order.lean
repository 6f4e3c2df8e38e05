import Mathlib.Data.List.InsertIdx
import Mathlib.Data.Prod.Lex
import Mathlib.Data.String.Basic
import PolicyEditor.Proofs.Editing.Attributes
import PolicyEditor.Proofs.Repository.Steps
import PolicyEditor.Proofs.Sorting

/-!
# Repositories in canonical order

A repository is in order if its element lists are sorted by the keys of their elements, if the hosts
of each network are sorted by their names among themselves, and if each service has its `deny` rules
in front.  A definition that is created is put in order first.  So creations and deletions keep the
order of a repository, and an edit of a definition keeps it if it keeps the order of the body.

## Main definitions

* `Member.sortKey`, `Attribute.hostKey` : the keys of elements and hosts.
* `Union.InOrder`, `Rule.InOrder`, `Service.InOrder`, `Body.InOrder`, `Definition.InOrder`,
  `Repository.InOrder` : the canonical order.
* `Edit.Carries` : a property of the state that holds behind an edit, also if the edit fails.

## Main results

* `membersInOrder_sortMembers`, `hostsInOrder_sortHosts` : sorted lists are in order.
* `denyFirst_insertRule` : a rule is inserted in order.
* `Definition.inOrder_normalize` : a definition that is put in order is in order.
* `Repository.carries_create`, `Repository.carries_delete`, `Repository.carries_modifyNamed`,
  `Repository.carries_modifyMatching` : what the edits of a repository keep in order.
-/

namespace PolicyEditor

/-! ### Lists in order -/

/-- The keys of elements are ordered by type, and those of one type by name. -/
theorem Element.keyLe_iff {a b : String × String} : keyLe a b = true ↔ toLex a ≤ toLex b := by
  rw [keyLe, Prod.Lex.toLex_le_toLex]
  simp

/-- The type and the name by which elements are sorted. -/
def Member.sortKey (m : Member) : String ×ₗ String :=
  toLex m.content.key

/-- The type and the name by which host entries are sorted. -/
def Attribute.hostKey (a : Attribute) : String ×ₗ String :=
  toLex (Element.nameKey a.name)

theorem Member.le_iff (a b : Member) : a.le b = true ↔ a.sortKey ≤ b.sortKey :=
  Element.keyLe_iff

theorem Attribute.hostLe_iff (a b : Attribute) : a.hostLe b = true ↔ a.hostKey ≤ b.hostKey :=
  Element.keyLe_iff

instance : Std.Total fun a b => Member.le a b = true :=
  total_of_key Member.le_iff

instance : IsTrans Member fun a b => Member.le a b = true :=
  isTrans_of_key Member.le_iff

instance : Std.Total fun a b => Attribute.hostLe a b = true :=
  total_of_key Attribute.hostLe_iff

instance : IsTrans Attribute fun a b => Attribute.hostLe a b = true :=
  isTrans_of_key Attribute.hostLe_iff

/-- The members are in the order of their keys. -/
def MembersInOrder (elements : List Member) : Prop :=
  elements.Pairwise fun a b => a.le b = true

theorem membersInOrder_sortMembers (elements : List Member) :
    MembersInOrder (sortMembers elements) :=
  pairwise_stableSort elements

theorem sortMembers_of_inOrder {elements : List Member} (h : MembersInOrder elements) :
    sortMembers elements = elements :=
  stableSort_of_pairwise h

/-- The host entries are in the order of their names, whatever stands between them. -/
def HostsInOrder (attributes : List Attribute) : Prop :=
  (attributes.filter Attribute.isHost).Pairwise fun a b => a.hostLe b = true

/-- If there are as many hosts as places for them, they are the hosts of the filled list. -/
theorem filter_fillHosts {as hosts : List Attribute} (hhosts : ∀ h ∈ hosts, h.isHost = true)
    (hlength : hosts.length = (as.filter Attribute.isHost).length) :
    (fillHosts as hosts).filter Attribute.isHost = hosts := by
  induction as generalizing hosts with
  | nil => exact (List.length_eq_zero_iff.1 hlength).symm
  | cons a as ih =>
    unfold fillHosts
    by_cases ha : a.isHost = true
    · rw [List.filter_cons_of_pos ha, List.length_cons] at hlength
      rw [if_pos ha]
      cases hosts with
      | nil => cases hlength
      | cons h hosts =>
        rw [List.forall_mem_cons] at hhosts
        dsimp only
        rw [List.filter_cons_of_pos hhosts.1, ih hhosts.2 (Nat.succ.inj hlength)]
    · rw [List.filter_cons_of_neg ha] at hlength
      rw [if_neg ha, List.filter_cons_of_neg ha, ih hhosts hlength]

theorem hostsInOrder_sortHosts (attributes : List Attribute) :
    HostsInOrder (sortHosts attributes) := by
  have hperm := stableSort_perm Attribute.hostLe (attributes.filter Attribute.isHost)
  have hhosts : ∀ h ∈ stableSort Attribute.hostLe (attributes.filter Attribute.isHost),
      h.isHost = true :=
    fun h hh => (List.mem_filter.1 (hperm.mem_iff.1 hh)).2
  rw [HostsInOrder, sortHosts, filter_fillHosts hhosts hperm.length_eq]
  exact pairwise_stableSort _

/-- All `deny` rules are in front of all `permit` rules. -/
def DenyFirst (rules : List Rule) : Prop :=
  rules.Pairwise fun r s => s.isDeny = true → r.isDeny = true

theorem denyFirst_normalizeRules (rules : List Rule) : DenyFirst (normalizeRules rules) := by
  refine List.pairwise_append.2 ⟨?_, ?_, fun r hr _ _ _ => (List.mem_filter.1 hr).2⟩
  · exact List.pairwise_of_forall_mem_list fun r hr _ _ _ => (List.mem_filter.1 hr).2
  · refine List.pairwise_of_forall_mem_list fun _ _ s hs hdeny => ?_
    have hpermit := (List.mem_filter.1 hs).2
    rw [hdeny] at hpermit
    cases hpermit

/-- A `deny` rule goes behind the last `deny` rule, so that all rules in front of it are such. -/
theorem denyFirst_insertIdx_denyEnd {rules : List Rule} {r : Rule} (hr : r.isDeny = true)
    (h : DenyFirst rules) : DenyFirst (rules.insertIdx (denyEnd rules) r) := by
  induction rules with
  | nil => exact List.pairwise_singleton _ _
  | cons s rules ih =>
    obtain ⟨hs, hrules⟩ := List.pairwise_cons.1 h
    rw [denyEnd]
    split
    · next hdeny =>
      have hsdeny : s.isDeny = true := by
        rcases Bool.or_eq_true_iff.1 hdeny with hs' | hany
        · exact hs'
        · obtain ⟨t, ht, htdeny⟩ := List.any_eq_true.1 hany
          exact hs t ht htdeny
      exact List.pairwise_cons.2 ⟨fun _ _ _ => hsdeny, ih hrules⟩
    · exact List.pairwise_cons.2 ⟨fun _ _ _ => hr, h⟩

theorem denyFirst_insertRule {rules : List Rule} (r : Rule) (h : DenyFirst rules) :
    DenyFirst (insertRule rules r) := by
  rw [insertRule, ruleIndex]
  split
  · next hr => exact denyFirst_insertIdx_denyEnd hr h
  · next hr =>
    rw [List.insertIdx_length_self]
    refine List.pairwise_append.2 ⟨h, List.pairwise_singleton _ _, fun _ _ s hs hdeny => ?_⟩
    obtain rfl := List.mem_singleton.1 hs
    exact absurd hdeny hr

/-! ### Definitions in order -/

/-- The elements of the union are in order. -/
def Union.InOrder (u : Union) : Prop :=
  MembersInOrder u.elements

/-- Both sides of the rule are in order. -/
structure Rule.InOrder (r : Rule) : Prop where
  src : r.src.InOrder
  dst : r.dst.InOrder

/-- The users and the rules of the service are in order, and its `deny` rules are in front. -/
structure Service.InOrder (s : Service) : Prop where
  user : s.user.InOrder
  rules : ∀ r ∈ s.rules, r.InOrder
  denyFirst : DenyFirst s.rules

/-- The lists of the body are in order. -/
def Body.InOrder : Body → Prop
  | .group g => MembersInOrder g.elements
  | .network block => HostsInOrder block.attributes
  | .service s => s.InOrder
  | .struct _ | .protocol _ => True

/-- The lists of the definition are in order. -/
def Definition.InOrder (d : Definition) : Prop :=
  d.body.InOrder

theorem Rule.inOrder_normalize (r : Rule) : r.normalize.InOrder :=
  ⟨membersInOrder_sortMembers _, membersInOrder_sortMembers _⟩

theorem Body.inOrder_normalize (b : Body) : b.normalize.InOrder := by
  cases b with
  | group g => exact membersInOrder_sortMembers _
  | network block => exact hostsInOrder_sortHosts _
  | service s =>
    refine ⟨membersInOrder_sortMembers _, fun r hr => ?_, denyFirst_normalizeRules _⟩
    obtain ⟨r', -, rfl⟩ := List.mem_map.1 (mem_normalizeRules hr)
    exact r'.inOrder_normalize
  | struct block => trivial
  | protocol values => trivial

/-- A definition that is put in order is in order. -/
theorem Definition.inOrder_normalize (d : Definition) : d.normalize.InOrder :=
  d.body.inOrder_normalize

/-- All definitions are in order. -/
def Repository.InOrder (repo : Repository) : Prop :=
  ∀ f ∈ repo.files, ∀ d ∈ f.forest.definitions, d.InOrder

section Decidable

instance (elements : List Member) : Decidable (MembersInOrder elements) :=
  inferInstanceAs (Decidable (elements.Pairwise _))

instance (attributes : List Attribute) : Decidable (HostsInOrder attributes) :=
  inferInstanceAs (Decidable (List.Pairwise _ _))

instance (rules : List Rule) : Decidable (DenyFirst rules) :=
  inferInstanceAs (Decidable (rules.Pairwise _))

instance (u : Union) : Decidable u.InOrder :=
  inferInstanceAs (Decidable (MembersInOrder _))

instance (r : Rule) : Decidable r.InOrder :=
  decidable_of_iff (r.src.InOrder ∧ r.dst.InOrder) ⟨fun h => ⟨h.1, h.2⟩, fun h => ⟨h.src, h.dst⟩⟩

instance (s : Service) : Decidable s.InOrder :=
  decidable_of_iff (s.user.InOrder ∧ (∀ r ∈ s.rules, r.InOrder) ∧ DenyFirst s.rules)
    ⟨fun h => ⟨h.1, h.2.1, h.2.2⟩, fun h => ⟨h.user, h.rules, h.denyFirst⟩⟩

instance : (b : Body) → Decidable b.InOrder
  | .group g => inferInstanceAs (Decidable (MembersInOrder g.elements))
  | .network block => inferInstanceAs (Decidable (HostsInOrder block.attributes))
  | .service s => inferInstanceAs (Decidable s.InOrder)
  | .struct _ => inferInstanceAs (Decidable True)
  | .protocol _ => inferInstanceAs (Decidable True)

instance (d : Definition) : Decidable d.InOrder :=
  inferInstanceAs (Decidable d.body.InOrder)

instance (repo : Repository) : Decidable repo.InOrder :=
  inferInstanceAs (Decidable (∀ f ∈ repo.files, ∀ d ∈ f.forest.definitions, d.InOrder))

end Decidable

/-! ### Edits that keep the order -/

/-- The property carries over from one state to the other. -/
def Edit.Carries {σ : Type} (P : σ → Prop) (s s' : σ) : Prop :=
  P s → P s'

instance {σ : Type} (P : σ → Prop) : Std.Refl (Edit.Carries P) where
  refl _ := id

instance {σ : Type} (P : σ → Prop) : IsTrans σ (Edit.Carries P) where
  trans _ _ _ h h' := h' ∘ h

namespace Repository

open Edit

theorem forall_of_forall₂ {α : Type} {P : α → Prop} {as as' : List α}
    (h : List.Forall₂ (Carries P) as as') (has : ∀ a ∈ as, P a) : ∀ a ∈ as', P a := by
  induction h with
  | nil => exact has
  | cons ha _ ih =>
    rw [List.forall_mem_cons] at has ⊢
    exact ⟨ha has.1, ih has.2⟩

/-- If each definition stays in order, so does the repository. -/
theorem Follows.inOrder {repo repo' : Repository}
    (h : repo.Follows (Carries Definition.InOrder) repo') : Carries InOrder repo repo' := by
  obtain ⟨hfiles⟩ := h
  have hfiles : List.Forall₂
      (Carries fun f : PolicyFile => ∀ d ∈ f.forest.definitions, d.InOrder) repo.files _ :=
    hfiles.imp fun _ _ hf => forall_of_forall₂ hf.definitions
  exact forall_of_forall₂ hfiles

theorem carries_modifyMatching {p : Definition → Bool} {edit : Edit Definition Unit}
    (h : Leads (Carries Definition.InOrder) edit) :
    Leads (Carries InOrder) (modifyMatching p edit) :=
  (follows_modifyMatching h).imp fun _ _ => Follows.inOrder

/-- An edit of a body that keeps its order keeps that of its repository. -/
theorem carries_modifyNamed {α β : Type} {variant : Variant β} {name : String} {edit : Edit β α}
    (hlawful : variant.Lawful) (h : Leads (Carries fun b => (variant.set b).InOrder) edit) :
    Leads (Carries InOrder) (modifyNamed variant name edit) := by
  refine (follows_modifyNamed fun d => ?_).imp fun _ _ => Follows.inOrder
  intro hd
  rw [final, editBody]
  cases hbody : variant.get? d.body with
  | none => exact hd
  | some body =>
    have hinOrder : (variant.set body).InOrder := by
      rw [hlawful hbody]
      exact hd
    have hfinal := h body hinOrder
    dsimp only
    cases hedit : edit body with
    | ok a body' =>
      rw [final_of_ok hedit] at hfinal
      exact hfinal
    | error e body' =>
      rw [final_of_error hedit] at hfinal
      exact hfinal

/-- A definition in order is created, or nothing changes. -/
theorem carries_create {path : Path} {d : Definition} (hd : d.InOrder) :
    Leads (Carries InOrder) (create path d) := by
  refine (restores_create path d).leads fun repo _ repo' h hrepo => ?_
  obtain ⟨-, -, rfl⟩ := create_eq_ok.1 h
  have hinsert {f : PolicyFile} (hf : ∀ c ∈ f.forest.definitions, c.InOrder) :
      ∀ c ∈ (insertInto d f).forest.definitions, c.InOrder := by
    intro c hc
    rcases List.eq_or_mem_of_mem_insertIdx hc with rfl | hc
    · exact hd
    · exact hf c hc
  refine forall_insertAt (hinsert ?_) (fun f hf => hinsert (hrepo f hf)) hrepo
  intro c hc
  cases hc

theorem carries_createDefinition (path : Path) (d : Definition) (okIfExists : Bool) :
    Leads (Carries InOrder) (createDefinition path d okIfExists) := by
  refine leads_get_bind fun repo => ?_
  split
  · exact leads_pure _
  · exact carries_create d.inOrder_normalize

/-- A definition is deleted, or nothing changes. -/
theorem carries_delete (name : String) : Leads (Carries InOrder) (delete name) := by
  refine (restores_delete name).leads fun repo _ repo' h hrepo => ?_
  obtain ⟨front, f, back, hfiles, -, rfl⟩ := delete_ok h
  rw [InOrder, hfiles, List.forall_mem_append, List.forall_mem_cons] at hrepo
  rw [InOrder, List.forall_mem_append, List.forall_mem_cons]
  exact ⟨hrepo.1, fun d hd => hrepo.2.1 d (List.mem_of_mem_eraseP hd), hrepo.2.2⟩

end Repository

end PolicyEditor
