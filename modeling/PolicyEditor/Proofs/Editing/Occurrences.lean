import Mathlib.Data.List.Perm.Subperm
import PolicyEditor.Definition.Edit

/-!
# Requests for items of a list

Items are taken out of a list on request.  Each request has a key, and it is served by the first
item of this key that is left.  Served one after the other, the requests all succeed if every key
occurs in the list at least as often as it is requested.  Then exactly the first occurrences of the
requested keys are gone.  Otherwise there is a first request whose occurrences the requests in front
of it have used up.

## Main definitions

* `withoutFirst` : a list without the first occurrences of keys.
* `Suffices` : every key occurs at least as often as it is requested.
* `Withdraws` : what comes of requests that are served one after the other.

## Main results

* `removeFirst?_of_mem` : one request is served by the first item of its key.
* `suffices_iff_subperm` : to suffice is the inclusion of multisets.
* `withoutFirst_withoutFirst` : requests that are served in two steps are served in one.
* `withoutFirst_of_perm` : items that were put among others of other keys are taken out again.
* `Withdraws.cons` : a request is served before those behind it.
* `Withdraws.eq_none_iff` : all requests are served if and only if the items suffice.
-/

namespace PolicyEditor

/-! ### Single removals -/

section RemoveFirst

variable {α : Type} {p : α → Bool} {as bs : List α}

theorem removeFirst?_eq_none : removeFirst? p as = none ↔ ∀ a ∈ as, p a = false := by
  induction as with
  | nil => simp [removeFirst?]
  | cons a as ih =>
    rw [removeFirst?, List.forall_mem_cons, ← ih]
    by_cases ha : p a = true <;> simp [ha]

theorem removeFirst?_eq_some : removeFirst? p as = some bs ↔
    ∃ front a back, as = front ++ a :: back ∧ (∀ b ∈ front, p b = false) ∧ p a = true ∧
      bs = front ++ back := by
  induction as generalizing bs with
  | nil => simp [removeFirst?]
  | cons a as ih =>
    rw [removeFirst?]
    by_cases ha : p a = true
    · rw [if_pos ha, Option.some.injEq]
      constructor
      · rintro rfl
        exact ⟨[], a, as, rfl, by simp, ha, rfl⟩
      · rintro ⟨_ | ⟨b, front⟩, c, back, heq, hfront, -, rfl⟩ <;> cases heq
        · rfl
        · rw [(List.forall_mem_cons.1 hfront).1] at ha
          cases ha
    · rw [if_neg ha]
      constructor
      · intro h
        obtain ⟨cs, hcs, rfl⟩ := Option.map_eq_some_iff.1 h
        obtain ⟨front, c, back, rfl, hfront, hc, rfl⟩ := ih.1 hcs
        exact ⟨a :: front, c, back, rfl,
          List.forall_mem_cons.2 ⟨Bool.eq_false_iff.2 ha, hfront⟩, hc, rfl⟩
      · rintro ⟨_ | ⟨b, front⟩, c, back, heq, hfront, hc, rfl⟩ <;> cases heq
        · exact absurd hc ha
        · rw [ih.2 ⟨front, c, back, rfl, (List.forall_mem_cons.1 hfront).2, hc, rfl⟩]
          rfl

/-- A request is not served without an item of its key. -/
theorem removeFirst?_of_not_mem {κ : Type} (key : α → κ) {k : κ} (hp : ∀ a, p a = true ↔ key a = k)
    (hk : k ∉ as.map key) : removeFirst? p as = none := by
  refine removeFirst?_eq_none.2 fun a ha => Bool.eq_false_iff.2 fun h => hk ?_
  exact List.mem_map.2 ⟨a, ha, (hp a).1 h⟩

end RemoveFirst

/-! ### First occurrences -/

variable {α κ : Type} [DecidableEq κ] (key : α → κ)

/-- The list without the first occurrences of the wanted keys.  Each wanted key takes away one item
that has it, as long as there is one. -/
def withoutFirst : (wanted : List κ) → List α → List α
  | _, [] => []
  | wanted, a :: as =>
    if key a ∈ wanted then withoutFirst (wanted.erase (key a)) as
    else a :: withoutFirst wanted as

theorem withoutFirst_nil (items : List α) : withoutFirst key [] items = items := by
  induction items with
  | nil => rfl
  | cons a as ih => rw [withoutFirst, if_neg List.not_mem_nil, ih]

theorem withoutFirst_of_not_mem {k : κ} {items : List α} (h : k ∉ items.map key) :
    withoutFirst key [k] items = items := by
  induction items with
  | nil => rfl
  | cons a as ih =>
    rw [List.map_cons, List.mem_cons, not_or] at h
    rw [withoutFirst, if_neg fun ha => h.1 (List.mem_singleton.1 ha).symm, ih h.2]

theorem withoutFirst_withoutFirst (ks js : List κ) (items : List α) :
    withoutFirst key js (withoutFirst key ks items) = withoutFirst key (ks ++ js) items := by
  induction items generalizing ks js with
  | nil => rfl
  | cons a as ih =>
    by_cases hk : key a ∈ ks
    · rw [withoutFirst, if_pos hk, ih, withoutFirst, if_pos (List.mem_append_left js hk),
        List.erase_append_left js hk]
    · by_cases hj : key a ∈ js
      · rw [withoutFirst, if_neg hk, withoutFirst, if_pos hj, ih, withoutFirst,
          if_pos (List.mem_append_right ks hj), List.erase_append_right js hk]
      · have hkj : key a ∉ ks ++ js := by simp [hk, hj]
        rw [withoutFirst, if_neg hk, withoutFirst, if_neg hj, ih, withoutFirst, if_neg hkj]

/-- A single request is served by the first item of its key. -/
theorem removeFirst?_of_mem {p : α → Bool} {k : κ} {items : List α}
    (hp : ∀ a, p a = true ↔ key a = k) (hk : k ∈ items.map key) :
    removeFirst? p items = some (withoutFirst key [k] items) := by
  induction items with
  | nil => cases hk
  | cons a as ih =>
    rw [removeFirst?, withoutFirst]
    by_cases ha : key a = k
    · subst ha
      simp [(hp a).2 rfl, withoutFirst_nil]
    · have hsingle : key a ∉ [k] := mt List.mem_singleton.1 ha
      rw [if_neg (mt (hp a).1 ha), if_neg hsingle,
        ih ((List.mem_cons.1 hk).resolve_left (Ne.symm ha)), Option.map_some]

theorem count_withoutFirst (wanted : List κ) (items : List α) (k : κ) :
    ((withoutFirst key wanted items).map key).count k =
      (items.map key).count k - wanted.count k := by
  induction items generalizing wanted with
  | nil => simp [withoutFirst]
  | cons a as ih =>
    rw [withoutFirst, List.map_cons, List.count_cons]
    by_cases ha : key a ∈ wanted
    · have hpos := List.count_pos_iff.2 ha
      rw [if_pos ha, ih, List.count_erase]
      by_cases hk : key a = k
      · subst hk
        simp only [BEq.rfl, if_true]
        omega
      · simp [hk]
    · rw [if_neg ha, List.map_cons, List.count_cons, ih]
      by_cases hk : key a = k
      · subst hk
        rw [List.count_eq_zero.2 ha, Nat.sub_zero, Nat.sub_zero]
      · simp [hk]

/-- If all items of the wanted keys are wanted, the items of the other keys are left. -/
theorem withoutFirst_eq_filter {wanted : List κ} {items : List α}
    (h : ∀ k ∈ wanted, (items.map key).count k ≤ wanted.count k) :
    withoutFirst key wanted items = items.filter (key · ∉ wanted) := by
  induction items generalizing wanted with
  | nil => rfl
  | cons a as ih =>
    simp only [List.map_cons, List.count_cons] at h
    rw [withoutFirst, List.filter_cons]
    by_cases ha : key a ∈ wanted
    · rw [if_pos ha, if_neg (by simpa using ha), ih]
      · refine List.filter_congr fun b hb => decide_eq_decide.2 (not_congr ?_)
        by_cases hkey : key b = key a
        · -- The key is wanted for `a` and for `b`.
          have hcount := List.count_pos_iff.2 (List.mem_map_of_mem (f := key) hb)
          have hwanted := h (key a) ha
          rw [hkey] at hcount ⊢
          rw [BEq.rfl, if_pos rfl] at hwanted
          refine iff_of_true (List.count_pos_iff.1 ?_) ha
          rw [List.count_erase_self]
          omega
        · exact List.mem_erase_of_ne hkey
      · intro k hk
        have hwanted := h k (List.mem_of_mem_erase hk)
        rw [List.count_erase]
        by_cases hka : key a = k
        · subst hka
          simp only [BEq.rfl, if_true] at hwanted ⊢
          omega
        · simpa [hka] using hwanted
    · rw [if_neg ha, if_pos (by simpa using ha),
        ih fun k hk => Nat.le_trans (Nat.le_add_right _ _) (h k hk)]

/-! ### Requests -/

/-- Every wanted key occurs in the list at least as often as it is wanted. -/
def Suffices (items : List α) (wanted : List κ) : Prop :=
  ∀ k ∈ wanted, wanted.count k ≤ (items.map key).count k

instance (items : List α) (wanted : List κ) : Decidable (Suffices key items wanted) :=
  inferInstanceAs (Decidable (∀ k ∈ wanted, wanted.count k ≤ (items.map key).count k))

theorem suffices_iff_count {items : List α} {wanted : List κ} :
    Suffices key items wanted ↔ ∀ k, wanted.count k ≤ (items.map key).count k := by
  refine ⟨fun h k => ?_, fun h k _ => h k⟩
  by_cases hk : k ∈ wanted
  · exact h k hk
  · rw [List.count_eq_zero.2 hk]
    exact Nat.zero_le _

/-- The items suffice if and only if the wanted keys are among theirs as multisets. -/
theorem suffices_iff_subperm {items : List α} {wanted : List κ} :
    Suffices key items wanted ↔ wanted.Subperm (items.map key) :=
  List.subperm_ext_iff.symm

theorem suffices_nil (items : List α) : Suffices key items [] :=
  (suffices_iff_subperm key).2 List.nil_subperm

/-- If an item is there for the first request, the further ones are served by what is left. -/
theorem suffices_cons_iff {items : List α} {k : κ} {wanted : List κ} (hk : k ∈ items.map key) :
    Suffices key items (k :: wanted) ↔ Suffices key (withoutFirst key [k] items) wanted := by
  rw [suffices_iff_count, suffices_iff_count]
  refine forall_congr' fun j => ?_
  have hpos := List.count_pos_iff.2 hk
  rw [count_withoutFirst, List.count_cons, List.count_singleton]
  by_cases hj : k = j
  · subst hj
    simp only [BEq.rfl, if_true]
    omega
  · simp [hj]

/-- Items that were put among others are there. -/
theorem suffices_of_perm {items old new : List α} (h : items.Perm (old ++ new)) :
    Suffices key items (new.map key) := by
  intro k _
  rw [(h.map key).count_eq, List.map_append, List.count_append]
  exact Nat.le_add_left _ _

/-- If items were put among others that have none of their keys, the others are left without
them. -/
theorem withoutFirst_of_perm {items old new : List α} (h : items.Perm (old ++ new))
    (hold : ∀ a ∈ old, key a ∉ new.map key) :
    withoutFirst key (new.map key) items = items.filter (key · ∉ new.map key) := by
  refine withoutFirst_eq_filter key fun k hk => ?_
  have hnone : (old.map key).count k = 0 := by
    refine List.count_eq_zero.2 fun hmem => ?_
    obtain ⟨a, ha, rfl⟩ := List.mem_map.1 hmem
    exact hold a ha hk
  refine Nat.le_of_eq ?_
  rw [(h.map key).count_eq, List.map_append, List.count_append, hnone, Nat.zero_add]

variable {ρ : Type} (wanted : ρ → κ)

/-- What comes of requests that are served one after the other, the first request that is not served
and the items that are left. -/
inductive Withdraws (items : List α) (requests : List ρ) : Option ρ → List α → Prop
  /-- There are items for all requests. -/
  | all (h : Suffices key items (requests.map wanted)) :
    Withdraws items requests none (withoutFirst key (requests.map wanted) items)
  /-- There are items for the requests in front of `r`, and they use up those for `r`. -/
  | usedUp (front : List ρ) (r : ρ) (back : List ρ) (hrequests : requests = front ++ r :: back)
    (hfront : Suffices key items (front.map wanted))
    (hused : (items.map key).count (wanted r) = (front.map wanted).count (wanted r)) :
    Withdraws items requests (some r) (withoutFirst key (front.map wanted) items)

namespace Withdraws

variable {key wanted} {items rest : List α} {requests : List ρ} {r : ρ} {missing : Option ρ}

theorem nil : Withdraws key wanted items [] none items := by
  have h : Withdraws key wanted items [] none (withoutFirst key [] items) :=
    .all (suffices_nil key items)
  rwa [withoutFirst_nil] at h

/-- A request that is not served ends the withdrawal. -/
theorem of_not_mem (h : wanted r ∉ items.map key) :
    Withdraws key wanted items (r :: requests) (some r) items := by
  have h := Withdraws.usedUp [] r requests rfl (suffices_nil key items) (List.count_eq_zero.2 h)
  rwa [List.map_nil, withoutFirst_nil] at h

/-- A request that is served leaves the further requests to the remaining items. -/
theorem cons (hr : wanted r ∈ items.map key)
    (h : Withdraws key wanted (withoutFirst key [wanted r] items) requests missing rest) :
    Withdraws key wanted items (r :: requests) missing rest := by
  cases h with
  | all h =>
    rw [withoutFirst_withoutFirst]
    exact .all ((suffices_cons_iff key hr).2 h)
  | usedUp front s back hrequests hfront hused =>
    rw [withoutFirst_withoutFirst]
    have hpos := List.count_pos_iff.2 hr
    have hall : (items.map key).count (wanted s) = ((r :: front).map wanted).count (wanted s) := by
      rw [count_withoutFirst, List.count_singleton] at hused
      rw [List.map_cons, List.count_cons]
      by_cases hs : wanted r = wanted s
      · rw [hs] at hpos hused ⊢
        simp only [BEq.rfl, if_true] at hused ⊢
        omega
      · simpa [hs] using hused
    exact .usedUp (r :: front) s back (by rw [hrequests, List.cons_append])
      ((suffices_cons_iff key hr).2 hfront) hall

/-- All requests are served if and only if every key occurs as often as it is requested. -/
theorem eq_none_iff (h : Withdraws key wanted items requests missing rest) :
    missing = none ↔ Suffices key items (requests.map wanted) := by
  cases h with
  | all h => exact iff_of_true rfl h
  | usedUp front r back hrequests hfront hused =>
    refine iff_of_false (Option.some_ne_none r) fun h => ?_
    have hcount := (suffices_iff_count key).1 h (wanted r)
    rw [hrequests, List.map_append, List.map_cons, List.count_append, List.count_cons_self,
      hused] at hcount
    omega

end Withdraws

end PolicyEditor
