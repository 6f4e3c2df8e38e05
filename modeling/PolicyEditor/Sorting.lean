/-!
# Stable sorting

Lists of a policy are short and are mostly in order already, so they are sorted by insertion.
Items that compare alike keep their relative order.

## Main definitions

* `insertSorted` : insert an item in front of the first one that it may precede.
* `stableSort` : the stable sort of a list.
-/

namespace PolicyEditor

variable {α : Type}

/-- Insert an item in front of the first one that it may precede. -/
def insertSorted (le : α → α → Bool) (a : α) : List α → List α
  | [] => [a]
  | b :: bs => if le a b then a :: b :: bs else b :: insertSorted le a bs

/-- The stable sort of a list by `le`. -/
def stableSort (le : α → α → Bool) : List α → List α
  | [] => []
  | a :: as => insertSorted le a (stableSort le as)

theorem insertSorted_perm (le : α → α → Bool) (a : α) (as : List α) :
    (insertSorted le a as).Perm (a :: as) := by
  induction as with
  | nil => exact .refl _
  | cons b bs ih =>
    rw [insertSorted]
    split
    · exact .refl _
    · exact (ih.cons b).trans (.swap a b bs)

theorem stableSort_perm (le : α → α → Bool) (as : List α) : (stableSort le as).Perm as := by
  induction as with
  | nil => exact .refl _
  | cons a as ih => exact (insertSorted_perm le a _).trans (ih.cons a)

end PolicyEditor
