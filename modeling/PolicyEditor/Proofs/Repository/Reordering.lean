import PolicyEditor.Proofs.Repository.Rules

/-!
# Definitions that are put in order

To put a definition in order is to move things and nothing else.  Each element list is sorted by the
keys of its elements, the rules by their actions, and elements or rules that compare alike stay in
their former order.  The hosts of a network are sorted among themselves: together they keep the
places that they had, and every other attribute keeps its own.  Whatever is moved takes its layout
with it, and all the rest of the definition stays.

This is told by relations between a definition and the one in order, level by level.  They allow one
result only, and a definition in order is related to itself.

## Main definitions

* `SortsHosts` : attributes whose host entries are sorted in their places.
* `Union.Arranges`, `Rule.Arranges`, `Service.Arranges`, `Body.Arranges`, `Definition.Arranges` :
  parts of definitions whose lists are put in order.

## Main results

* `sortedBy_sortMembers`, `sortedBy_normalizeRules`, `sortsHosts_sortHosts` : how lists are sorted.
* `Definition.normalize_of_inOrder` : a definition in order stays as it is.
* `Definition.arranges_normalize` : a definition that is put in order is rearranged in the one
  possible way, and doing it again changes nothing.
-/

namespace PolicyEditor

/-! ### Elements and rules -/

theorem sortedBy_sortMembers (elements : List Member) :
    SortedBy Member.sortKey elements (sortMembers elements) :=
  sortedBy_stableSort Member.le_iff elements

/-- The rules are sorted by whether they permit. -/
theorem sortedBy_normalizeRules (rules : List Rule) :
    SortedBy (fun r : Rule => !r.isDeny) rules (normalizeRules rules) where
  perm := List.filter_append_perm Rule.isDeny rules
  ordered := (denyFirst_normalizeRules rules).imp fun {r s} h => by
    cases hs : s.isDeny with
    | true => rw [h hs]
    | false => exact le_top
  stable k := by
    simp only [normalizeRules, List.filter_append, List.filter_filter]
    cases k <;> simp [Bool.and_comm]

/-! ### Hosts -/

/-- The attributes `bs` are the attributes `as` with their host entries sorted by name.  A host
stands where a host stood, and every other attribute where it was. -/
structure SortsHosts (as bs : List Attribute) : Prop where
  places : List.Forall₂ (fun a b => b.isHost = a.isHost ∧ (a.isHost = false → b = a)) as bs
  hosts : SortedBy Attribute.hostKey (as.filter Attribute.isHost) (bs.filter Attribute.isHost)

/-- Hosts are filled into the places of hosts. -/
theorem places_fillHosts {as hosts : List Attribute} (hhosts : ∀ h ∈ hosts, h.isHost = true) :
    List.Forall₂ (fun a b => b.isHost = a.isHost ∧ (a.isHost = false → b = a)) as
      (fillHosts as hosts) := by
  induction as generalizing hosts with
  | nil => exact .nil
  | cons a as ih =>
    unfold fillHosts
    by_cases ha : a.isHost = true
    · rw [if_pos ha]
      cases hosts with
      | nil => exact .cons ⟨rfl, fun _ => rfl⟩ (ih (by simp))
      | cons h hosts =>
        rw [List.forall_mem_cons] at hhosts
        refine .cons ⟨by rw [hhosts.1, ha], fun hnot => ?_⟩ (ih hhosts.2)
        rw [ha] at hnot
        cases hnot
    · rw [if_neg ha]
      exact .cons ⟨rfl, fun _ => rfl⟩ (ih hhosts)

/-- The places and the host entries together are the whole list. -/
theorem fillHosts_of_places {as bs : List Attribute}
    (h : List.Forall₂ (fun a b => b.isHost = a.isHost ∧ (a.isHost = false → b = a)) as bs) :
    fillHosts as (bs.filter Attribute.isHost) = bs := by
  induction h with
  | nil => rfl
  | @cons a b as bs hab _ ih =>
    unfold fillHosts
    by_cases ha : a.isHost = true
    · rw [if_pos ha, List.filter_cons_of_pos (hab.1.trans ha)]
      exact congrArg (b :: ·) ih
    · rw [if_neg ha, List.filter_cons_of_neg (by rwa [hab.1]), ih,
        hab.2 (Bool.eq_false_iff.2 ha)]

theorem sortsHosts_sortHosts (attributes : List Attribute) :
    SortsHosts attributes (sortHosts attributes) := by
  have hsorted := sortedBy_stableSort Attribute.hostLe_iff
    (attributes.filter Attribute.isHost)
  have hhosts : ∀ h ∈ stableSort Attribute.hostLe (attributes.filter Attribute.isHost),
      h.isHost = true :=
    fun h hh => (List.mem_filter.1 (hsorted.perm.mem_iff.1 hh)).2
  refine ⟨places_fillHosts hhosts, ?_⟩
  rw [sortHosts, filter_fillHosts hhosts hsorted.perm.length_eq]
  exact hsorted

/-- The hosts change places, and the attributes between them stay. -/
example : (sortHosts [.ofValues "ip" ["10.1.1.0/24"], .ofBlock "host:b" [], .ofValues "owner" ["o"],
    .ofBlock "host:a" []]).map (·.name) = ["ip", "host:a", "owner", "host:b"] := by
  decide +kernel

theorem SortsHosts.eq_sortHosts {as bs : List Attribute} (h : SortsHosts as bs) :
    bs = sortHosts as := by
  have hsorted := sortedBy_stableSort Attribute.hostLe_iff (as.filter Attribute.isHost)
  rw [sortHosts, ← h.hosts.unique hsorted, fillHosts_of_places h.places]

/-- All attributes but the hosts stay in their order. -/
theorem SortsHosts.others {as bs : List Attribute} (h : SortsHosts as bs) :
    bs.filter (!·.isHost) = as.filter (!·.isHost) := by
  obtain ⟨hplaces, -⟩ := h
  induction hplaces with
  | nil => rfl
  | @cons a b as bs hab _ ih =>
    rw [List.filter_cons, List.filter_cons, ih, hab.1]
    cases ha : a.isHost with
    | true => rfl
    | false => rw [hab.2 ha]

/-- The attributes are the same ones. -/
theorem SortsHosts.perm {as bs : List Attribute} (h : SortsHosts as bs) : bs.Perm as := by
  have hparts : (bs.filter Attribute.isHost ++ bs.filter (!·.isHost)).Perm
      (as.filter Attribute.isHost ++ as.filter (!·.isHost)) :=
    h.hosts.perm.append (.of_eq h.others)
  exact (List.filter_append_perm _ bs).symm.trans (hparts.trans (List.filter_append_perm _ as))

theorem sortHosts_of_inOrder {attributes : List Attribute} (h : HostsInOrder attributes) :
    sortHosts attributes = attributes := by
  rw [sortHosts, stableSort_of_pairwise h]
  exact fillHosts_of_places (List.forall₂_same.2 fun _ _ => ⟨rfl, fun _ => rfl⟩)

/-! ### Parts of definitions -/

/-- The union with its elements in the order of their keys. -/
inductive Union.Arranges (u : Union) : Union → Prop
  | intro {elements : List Member}
      (helements : SortedBy Member.sortKey u.elements elements) :
      Arranges u { u with elements }

/-- The rule with both sides in order. -/
inductive Rule.Arranges (r : Rule) : Rule → Prop
  | intro {src dst : Union} (hsrc : r.src.Arranges src) (hdst : r.dst.Arranges dst) :
      Arranges r { r with src, dst }

/-- The service with its users, its rules and the sides of the rules in order. -/
inductive Service.Arranges (s : Service) : Service → Prop
  | intro {user : Union} {rs rules : List Rule} (huser : s.user.Arranges user)
      (hsides : List.Forall₂ Rule.Arranges s.rules rs)
      (hrules : SortedBy (fun r : Rule => !r.isDeny) rs rules) :
      Arranges s { s with user, rules }

/-- The body with its lists in order. -/
inductive Body.Arranges : Body → Body → Prop
  | struct {block : Block} : Arranges (.struct block) (.struct block)
  | network {block : Block} {attributes : List Attribute}
      (hattributes : SortsHosts block.attributes attributes) :
      Arranges (.network block) (.network { block with attributes })
  | group {g : Group} {elements : List Member}
      (helements : SortedBy Member.sortKey g.elements elements) :
      Arranges (.group g) (.group { g with elements })
  | protocol {values : List Value} : Arranges (.protocol values) (.protocol values)
  | service {s s' : Service} (hs : s.Arranges s') : Arranges (.service s) (.service s')

/-- The definition with its lists in order. -/
inductive Definition.Arranges (d : Definition) : Definition → Prop
  | intro {body : Body} (hbody : d.body.Arranges body) : Arranges d { d with body }

/-! ### One result -/

theorem Union.arranges_iff {u u' : Union} : u.Arranges u' ↔ u' = u.normalize := by
  constructor
  · rintro ⟨h⟩
    rw [Union.normalize, h.unique (sortedBy_sortMembers u.elements)]
  · rintro rfl
    exact ⟨sortedBy_sortMembers u.elements⟩

theorem Rule.arranges_iff {r r' : Rule} : r.Arranges r' ↔ r' = r.normalize := by
  constructor
  · rintro ⟨hsrc, hdst⟩
    rw [Rule.normalize, Union.arranges_iff.1 hsrc, Union.arranges_iff.1 hdst]
  · rintro rfl
    exact ⟨Union.arranges_iff.2 rfl, Union.arranges_iff.2 rfl⟩

theorem Rule.forall₂_arranges_iff {rules rs : List Rule} :
    List.Forall₂ Rule.Arranges rules rs ↔ rs = rules.map Rule.normalize := by
  have hiff : (Rule.Arranges : Rule → Rule → Prop) = fun r r' => r.normalize = r' := by
    funext r r'
    rw [eq_iff_iff, Rule.arranges_iff, eq_comm]
  rw [hiff, ← List.forall₂_map_left_iff, List.forall₂_eq_eq_eq, eq_comm]

theorem Service.arranges_iff {s s' : Service} :
    s.Arranges s' ↔
      s' = { s with
        user := s.user.normalize
        rules := normalizeRules (s.rules.map Rule.normalize) } := by
  constructor
  · rintro ⟨huser, hsides, hrules⟩
    obtain rfl := Rule.forall₂_arranges_iff.1 hsides
    rw [Union.arranges_iff.1 huser, hrules.unique (sortedBy_normalizeRules _)]
  · rintro rfl
    exact ⟨Union.arranges_iff.2 rfl, Rule.forall₂_arranges_iff.2 rfl, sortedBy_normalizeRules _⟩

theorem Body.arranges_iff {b b' : Body} : b.Arranges b' ↔ b' = b.normalize := by
  constructor
  · intro h
    cases h with
    | struct => rfl
    | network hattributes => rw [Body.normalize, hattributes.eq_sortHosts]
    | group helements => rw [Body.normalize, helements.unique (sortedBy_sortMembers _)]
    | protocol => rfl
    | service hs => rw [Body.normalize, Service.arranges_iff.1 hs]
  · rintro rfl
    cases b with
    | struct block => exact .struct
    | network block => exact .network (sortsHosts_sortHosts _)
    | group g => exact .group (sortedBy_sortMembers _)
    | protocol values => exact .protocol
    | service s => exact .service (Service.arranges_iff.2 rfl)

/-! ### Definitions in order -/

theorem Union.normalize_of_inOrder {u : Union} (h : u.InOrder) : u.normalize = u := by
  rw [Union.normalize, sortMembers_of_inOrder h]

theorem Rule.normalize_of_inOrder {r : Rule} (h : r.InOrder) : r.normalize = r := by
  rw [Rule.normalize, Union.normalize_of_inOrder h.src, Union.normalize_of_inOrder h.dst]

theorem Body.normalize_of_inOrder {b : Body} (h : b.InOrder) : b.normalize = b := by
  cases b with
  | struct block => rfl
  | network block => rw [Body.normalize, sortHosts_of_inOrder h]
  | group g => rw [Body.normalize, sortMembers_of_inOrder h]
  | protocol values => rfl
  | service s =>
    have hrules : s.rules.map Rule.normalize = s.rules :=
      (List.map_congr_left fun r hr => Rule.normalize_of_inOrder (h.rules r hr)).trans
        (List.map_id' s.rules)
    rw [Body.normalize, Union.normalize_of_inOrder h.user, hrules,
      normalizeRules_of_denyFirst h.denyFirst]

/-- A definition in order stays as it is. -/
theorem Definition.normalize_of_inOrder {d : Definition} (h : d.InOrder) : d.normalize = d := by
  rw [Definition.normalize, Body.normalize_of_inOrder h]

/-- To put a definition in order is to arrange its lists, which can be done in one way only, and
what is in order stays as it is. -/
theorem Definition.arranges_normalize (d : Definition) :
    (∀ d', d.Arranges d' ↔ d' = d.normalize) ∧ d.normalize.normalize = d.normalize := by
  refine ⟨fun d' => ⟨?_, ?_⟩, Definition.normalize_of_inOrder d.inOrder_normalize⟩
  · rintro ⟨hbody⟩
    rw [Definition.normalize, Body.arranges_iff.1 hbody]
  · rintro rfl
    exact ⟨Body.arranges_iff.2 rfl⟩

end PolicyEditor
