import Mathlib.Data.List.Sort
import PolicyEditor.Sorting

/-!
# Stable sorting

Sorting by insertion is stable: what is true of the order of the items with some property is true
of them alone, so that items which compare alike stay as they were.  Hence a stable sort by keys has
a description that fixes its result: the items are the former ones, their keys ascend, and the items
of one key are in their former order.

## Main definitions

* `SortedBy` : a list in the order of its keys, compared with the list that it was.

## Main results

* `pairwise_stableSort`, `stableSort_of_pairwise` : a sorted list is in order, and a list in order
  is sorted.
* `filter_stableSort` : sorting does not mix up the items with a property.
* `stableSort_stableSort_append` : sorting again is sorting once.
* `stableSort_append_congr` : new items may come in any order if ties among them are equal.
* `SortedBy.unique`, `sortedBy_stableSort` : the stable sort is the one list that the description
  allows.
-/

namespace PolicyEditor

section Sorting

variable {α : Type} {le : α → α → Bool}

theorem insertSorted_eq_orderedInsert (a : α) (as : List α) :
    insertSorted le a as = as.orderedInsert (fun a b => le a b = true) a := by
  induction as with
  | nil => rfl
  | cons b bs ih => rw [insertSorted, List.orderedInsert_cons, ih]

theorem stableSort_eq_insertionSort (as : List α) :
    stableSort le as = as.insertionSort fun a b => le a b = true := by
  induction as with
  | nil => rfl
  | cons a as ih =>
    rw [stableSort, List.insertionSort_cons, ih, insertSorted_eq_orderedInsert]

/-- A list in order stays as it is. -/
theorem stableSort_of_pairwise {as : List α} (h : as.Pairwise fun a b => le a b = true) :
    stableSort le as = as := by
  rw [stableSort_eq_insertionSort]
  exact h.insertionSort_eq

/-- An item that may precede all others is put in front of them. -/
theorem insertSorted_of_forall {a : α} {as : List α} (h : ∀ b ∈ as, le a b = true) :
    insertSorted le a as = a :: as := by
  cases as with
  | nil => rfl
  | cons b bs => rw [insertSorted, if_pos (h b List.mem_cons_self)]

theorem stableSort_append (as bs : List α) :
    stableSort le (as ++ bs) = as.foldr (insertSorted le) (stableSort le bs) := by
  induction as with
  | nil => rfl
  | cons a as ih => rw [List.cons_append, stableSort, ih, List.foldr_cons]

section Trans

variable [IsTrans α fun a b => le a b = true]

/-- Two items that do not compare alike may be inserted in any order. -/
theorem insertSorted_comm {a b : α} (hab : le a b = true) (hba : ¬le b a = true) (as : List α) :
    insertSorted le a (insertSorted le b as) = insertSorted le b (insertSorted le a as) := by
  have htrans {x y z : α} (hxy : le x y = true) (hyz : le y z = true) : le x z = true :=
    IsTrans.trans (r := fun a b => le a b = true) x y z hxy hyz
  induction as with
  | nil => simp [insertSorted, hab, hba]
  | cons c cs ih =>
    by_cases hb : le b c = true
    · simp [insertSorted, hab, hba, hb, htrans hab hb]
    · by_cases ha : le a c = true
      · simp [insertSorted, hba, hb, ha]
      · simp [insertSorted, hb, ha, ih]

/-- Among the items with a property, a new item is where it would be without the others. -/
theorem filter_insertSorted (p : α → Bool) (a : α) {as : List α}
    (h : as.Pairwise fun a b => le a b = true) :
    (insertSorted le a as).filter p =
      if p a then insertSorted le a (as.filter p) else as.filter p := by
  induction as with
  | nil =>
    rw [insertSorted, List.filter_cons]
    split <;> rfl
  | cons b bs ih =>
    obtain ⟨hb, hbs⟩ := List.pairwise_cons.1 h
    rw [insertSorted]
    split
    · next hab =>
      have hall : ∀ c ∈ (b :: bs).filter p, le a c = true := by
        intro c hc
        rcases List.mem_cons.1 (List.mem_of_mem_filter hc) with rfl | hmem
        · exact hab
        · exact IsTrans.trans (r := fun a b => le a b = true) a b c hab (hb c hmem)
      rw [List.filter_cons, insertSorted_of_forall hall]
    · next hab =>
      rw [List.filter_cons, ih hbs, List.filter_cons]
      by_cases hpb : p b = true
      · simp only [if_pos hpb, insertSorted, if_neg hab]
        split <;> rfl
      · simp only [if_neg hpb]

end Trans

variable [Std.Total fun a b => le a b = true] [IsTrans α fun a b => le a b = true]

theorem pairwise_stableSort (as : List α) :
    (stableSort le as).Pairwise fun a b => le a b = true := by
  rw [stableSort_eq_insertionSort]
  exact List.pairwise_insertionSort _ as

/-- The items with a property are sorted as if they were alone. -/
theorem filter_stableSort (p : α → Bool) (as : List α) :
    (stableSort le as).filter p = stableSort le (as.filter p) := by
  induction as with
  | nil => rfl
  | cons a as ih =>
    rw [stableSort, filter_insertSorted p a (pairwise_stableSort as), ih, List.filter_cons]
    split <;> rfl

/-- An item that is inserted into a list is inserted where it would be if the list came behind
it. -/
theorem foldr_insertSorted (a : α) (as bs : List α) :
    (insertSorted le a as).foldr (insertSorted le) bs =
      insertSorted le a (as.foldr (insertSorted le) bs) := by
  induction as with
  | nil => rfl
  | cons c cs ih =>
    rw [insertSorted]
    split
    · rfl
    · next hac =>
      have hca : le c a = true :=
        (Std.Total.total (r := fun a b => le a b = true) a c).resolve_left hac
      rw [List.foldr_cons, ih, insertSorted_comm hca hac, List.foldr_cons]

/-- To sort a list, put items behind it and sort it again is to sort it once. -/
theorem stableSort_stableSort_append (as bs : List α) :
    stableSort le (stableSort le as ++ bs) = stableSort le (as ++ bs) := by
  rw [stableSort_append, stableSort_append]
  induction as with
  | nil => rfl
  | cons a as ih => rw [stableSort, foldr_insertSorted, ih, List.foldr_cons]

/-- Items behind a list may come in any order if those of them that compare alike are equal. -/
theorem stableSort_append_congr {bs bs' : List α} (h : bs.Perm bs')
    (hties : ∀ a ∈ bs, ∀ b ∈ bs, le a b = true → le b a = true → a = b) (as : List α) :
    stableSort le (as ++ bs) = stableSort le (as ++ bs') := by
  have hperm : (stableSort le bs).Perm (stableSort le bs') :=
    (stableSort_perm le bs).trans (h.trans (stableSort_perm le bs').symm)
  have hsorted : stableSort le bs = stableSort le bs' :=
    hperm.eq_of_pairwise
      (fun a b ha hb => hties a ((stableSort_perm le bs).mem_iff.1 ha) b
        (h.mem_iff.2 ((stableSort_perm le bs').mem_iff.1 hb)))
      (pairwise_stableSort bs) (pairwise_stableSort bs')
  rw [stableSort_append, stableSort_append, hsorted]

end Sorting

/-! ### Keys -/

variable {α κ : Type} [LinearOrder κ] {key : α → κ}

section Le

variable {le : α → α → Bool}

/-- An order by keys is total. -/
theorem total_of_key (hle : ∀ a b, le a b = true ↔ key a ≤ key b) :
    Std.Total fun a b => le a b = true where
  total a b := by
    rw [hle, hle]
    exact le_total _ _

/-- An order by keys is transitive. -/
theorem isTrans_of_key (hle : ∀ a b, le a b = true ↔ key a ≤ key b) :
    IsTrans α fun a b => le a b = true where
  trans a b c := by
    rw [hle, hle, hle]
    exact le_trans

end Le

/-- The list `bs` has the items of `as` in the order of their keys, and the items of one key in
their former order. -/
structure SortedBy (key : α → κ) (as bs : List α) : Prop where
  perm : bs.Perm as
  ordered : bs.Pairwise fun a b => key a ≤ key b
  stable : ∀ k, bs.filter (key · = k) = as.filter (key · = k)

/-- Lists in the order of keys are equal if they have the same items of each key in the same
order. -/
theorem eq_of_filter_key {as bs : List α} (has : as.Pairwise fun a b => key a ≤ key b)
    (hbs : bs.Pairwise fun a b => key a ≤ key b)
    (h : ∀ k, as.filter (key · = k) = bs.filter (key · = k)) : as = bs := by
  induction as generalizing bs with
  | nil =>
    cases bs with
    | nil => rfl
    | cons b bs => simpa using h (key b)
  | cons a as ih =>
    cases bs with
    | nil => simpa using h (key a)
    | cons b bs =>
      obtain ⟨ha, hrest⟩ := List.pairwise_cons.1 has
      obtain ⟨hb, hrest'⟩ := List.pairwise_cons.1 hbs
      -- The first items have the least key of their lists, and the lists have the same keys.
      have hba : key b ≤ key a := by
        have hmem : a ∈ (b :: bs).filter (key · = key a) := h (key a) ▸ by simp
        rcases List.mem_cons.1 (List.mem_of_mem_filter hmem) with rfl | hmem
        · exact le_rfl
        · exact hb a hmem
      have hab : key a ≤ key b := by
        have hmem : b ∈ (a :: as).filter (key · = key b) := h (key b) ▸ by simp
        rcases List.mem_cons.1 (List.mem_of_mem_filter hmem) with rfl | hmem
        · exact le_rfl
        · exact ha b hmem
      have hkey : key a = key b := le_antisymm hab hba
      have hheads := h (key a)
      simp only [List.filter_cons, hkey, decide_true, if_true, List.cons.injEq] at hheads
      obtain ⟨rfl, -⟩ := hheads
      refine congrArg (a :: ·) (ih hrest hrest' fun k => ?_)
      have htails := h k
      simp only [List.filter_cons] at htails
      split at htails
      · exact (List.cons.inj htails).2
      · exact htails

/-- The description of a stable sort fixes its result. -/
theorem SortedBy.unique {as bs cs : List α} (h : SortedBy key as bs) (h' : SortedBy key as cs) :
    bs = cs :=
  eq_of_filter_key h.ordered h'.ordered fun k => (h.stable k).trans (h'.stable k).symm

/-- The stable sort by an order of keys. -/
theorem sortedBy_stableSort {le : α → α → Bool} (hle : ∀ a b, le a b = true ↔ key a ≤ key b)
    (as : List α) : SortedBy key as (stableSort le as) := by
  have htotal := total_of_key hle
  have htrans := isTrans_of_key hle
  refine ⟨stableSort_perm le as, (pairwise_stableSort as).imp fun h => (hle _ _).1 h, fun k => ?_⟩
  rw [filter_stableSort]
  refine stableSort_of_pairwise (List.pairwise_of_forall_mem_list fun a ha b hb => ?_)
  rw [hle, of_decide_eq_true (List.mem_filter.1 ha).2, of_decide_eq_true (List.mem_filter.1 hb).2]

end PolicyEditor
