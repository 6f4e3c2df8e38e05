import Mathlib.Data.List.Basic
import PolicyEditor.FileTree

/-!
# What stands at the places of a file tree

A change of a file tree is described by what it does to the view of each place: nothing, a
directory, or a file with its content.

## Main definitions

* `View`, `Directory.view` : what stands at a place, without what is below it.

## Main results

* `Directory.view_put` : a file or an empty directory that is put at a place changes the view of
  this place only.
* `Directory.view_eq_directory_of_append` : all places above something are directories.
-/

namespace PolicyEditor

variable {α : Type}

/-- What stands at a place of a file tree, without what is below it. -/
inductive View (α : Type) where
  | nothing
  | directory
  | file (content : α)
deriving DecidableEq, Repr

/-- The view of a node. -/
def Node.view : Node α → View α
  | .file content => .file content
  | .directory _ => .directory

/-- Nothing is below the node, as for a file or an empty directory. -/
def Node.IsLeaf (node : Node α) : Prop :=
  ∀ name place, node.below? (name :: place) = none

namespace Directory

/-- What stands at a place of a directory. -/
def view (d : Directory α) (place : List FileName) : View α :=
  ((d.node? place).map Node.view).getD .nothing

/-! ### Looking at places -/

@[simp] theorem view_nil (d : Directory α) : d.view [] = .directory :=
  rfl

theorem view_cons (d : Directory α) (name : FileName) (place : List FileName) :
    d.view (name :: place) =
      match d.child? name with
      | none => .nothing
      | some (.directory entries) => view entries place
      | some (.file content) => if place = [] then .file content else .nothing := by
  rw [view, node?, Node.below?]
  rcases d.child? name with - | content | entries
  · rfl
  · cases place <;> rfl
  · rfl

theorem view_cons_eq (d : Directory α) (name : FileName) (place : List FileName) :
    d.view (name :: place) =
      (((d.child? name).bind (·.below? place)).map Node.view).getD .nothing := by
  rw [view, node?, Node.below?]

theorem view_eq_directory_iff {d : Directory α} {place : List FileName} :
    d.view place = .directory ↔ ∃ entries, d.node? place = some (.directory entries) := by
  rw [view]
  rcases d.node? place with - | content | entries <;> simp [Node.view]

theorem view_eq_file_iff {d : Directory α} {place : List FileName} {content : α} :
    d.view place = .file content ↔ d.node? place = some (.file content) := by
  rw [view]
  rcases d.node? place with - | content | entries <;> simp [Node.view]

theorem view_eq_nothing_iff {d : Directory α} {place : List FileName} :
    d.view place = .nothing ↔ d.node? place = none := by
  rw [view]
  rcases d.node? place with - | content | entries <;> simp [Node.view]

/-- What is below a directory of a tree stands at the places behind that of the directory. -/
theorem node?_append {d entries : Directory α} {front : List FileName}
    (h : d.node? front = some (.directory entries)) (place : List FileName) :
    d.node? (front ++ place) = entries.node? place := by
  induction front generalizing d with
  | nil =>
    cases h
    rfl
  | cons name front ih =>
    rw [node?, Node.below?] at h
    rw [List.cons_append, node?, Node.below?]
    rcases hchild : d.child? name with - | content | inner <;> rw [hchild] at h
    · cases h
    · cases front <;> cases h
    · exact ih h

theorem view_append {d entries : Directory α} {front : List FileName}
    (h : d.node? front = some (.directory entries)) (place : List FileName) :
    d.view (front ++ place) = entries.view place := by
  rw [view, view, node?_append h]

/-- All places above something are directories. -/
theorem view_eq_directory_of_append {d : Directory α} {front back : List FileName}
    (hback : back ≠ []) (h : d.view (front ++ back) ≠ .nothing) : d.view front = .directory := by
  induction front generalizing d with
  | nil => rfl
  | cons name front ih =>
    rw [List.cons_append, view_cons] at h
    rw [view_cons]
    rcases hchild : d.child? name with - | content | entries <;> rw [hchild] at h
    · exact absurd rfl h
    · exact absurd (if_neg (by simp [hback])) h
    · exact ih h

theorem view_dropLast {d : Directory α} {place : List FileName} (h : d.view place = .directory) :
    d.view place.dropLast = .directory := by
  rcases place.eq_nil_or_concat with rfl | ⟨front, name, rfl⟩
  · exact h
  · rw [List.concat_eq_append] at h ⊢
    rw [List.dropLast_concat]
    exact view_eq_directory_of_append (List.cons_ne_nil name []) (by simp [h])

/-! ### Putting nodes -/

theorem child?_cons (name : FileName) (e : Entry α) (d : Directory α) :
    child? name (e :: d) = if e.name = name then some e.node else d.child? name := by
  rw [child?, List.find?_cons]
  by_cases h : e.name = name
  · simp [h]
  · simp [h, child?, beq_eq_false_iff_ne.2 h]

theorem child?_alter (name other : FileName) (change : Option (Node α) → Node α)
    (d : Directory α) :
    (d.alter name change).child? other =
      if other = name then some (change (d.child? name)) else d.child? other := by
  induction d with
  | nil =>
    rw [alter, child?_cons]
    exact if_congr eq_comm rfl rfl
  | cons e es ih =>
    rw [alter]
    by_cases hname : e.name = name
    · rw [if_pos (beq_iff_eq.2 hname), child?_cons, child?_cons, child?_cons, if_pos hname, hname]
      by_cases hother : other = name
      · rw [if_pos hother.symm, if_pos hother]
      · rw [if_neg (Ne.symm hother), if_neg hother, if_neg (Ne.symm hother)]
    · rw [if_neg (by simpa using hname), child?_cons, child?_cons, child?_cons, if_neg hname, ih]
      by_cases hother : e.name = other
      · rw [if_pos hother, if_neg (hother ▸ hname), if_pos hother]
      · rw [if_neg hother, if_neg hother]

/-- The entries of what may be a directory; anything else has none. -/
def entriesOf : Option (Node α) → Directory α
  | some (.directory entries) => entries
  | _ => []

/-- Below a name a node is put into the directory of this name. -/
theorem put_cons (node : Node α) (d : Directory α) (first : FileName) {place : List FileName}
    (hplace : place ≠ []) :
    d.put node (first :: place) =
      d.alter first fun child => .directory (put node place (entriesOf child)) := by
  cases place with
  | nil => exact absurd rfl hplace
  | cons next place =>
    refine congrArg (fun change => alter first change d) (funext fun child => ?_)
    rcases child with - | content | entries <;> rfl

/-- A file or an empty directory that is put into a directory, in the place of no other directory,
changes the view of this place only. -/
theorem view_put {node : Node α} (hnode : node.IsLeaf) {d : Directory α} {front : List FileName}
    {name : FileName} (hfront : d.view front = .directory)
    (hname : d.view (front ++ [name]) ≠ .directory) (place : List FileName) :
    (d.put node (front ++ [name])).view place =
      if place = front ++ [name] then node.view else d.view place := by
  induction front generalizing d place with
  | nil =>
    rw [List.nil_append] at hname ⊢
    rw [put]
    rcases place with - | ⟨other, place⟩
    · simp
    by_cases hother : other = name
    · subst hother
      have hput : (d.alter other fun _ => node).view (other :: place) =
          ((node.below? place).map Node.view).getD .nothing := by
        rw [view_cons_eq, child?_alter, if_pos rfl, Option.bind_some]
      rw [hput]
      rcases place with - | ⟨next, place⟩
      · cases node <;> simp [Node.below?]
      · have hbelow : d.view (other :: next :: place) = .nothing := by
          by_contra h
          exact hname (view_eq_directory_of_append (List.cons_ne_nil next place) h)
        simp [hnode next place, hbelow]
    · rw [view_cons, view_cons, child?_alter, if_neg hother, if_neg (by simp [hother])]
  | cons first front ih =>
    rw [List.cons_append, view_cons] at hname
    rw [view_cons] at hfront
    rw [List.cons_append, put_cons node d first (by simp)]
    rcases hfirst : d.child? first with - | content | entries <;> rw [hfirst] at hname hfront
    · cases hfront
    · cases front <;> cases hfront
    rcases place with - | ⟨other, place⟩
    · simp
    rw [view_cons, view_cons, child?_alter, hfirst]
    by_cases hother : other = first
    · subst hother
      rw [hfirst]
      simpa [entriesOf] using ih hfront hname place
    · simp [hother]

end Directory

end PolicyEditor
