import PolicyEditor.Definition.Edit
import PolicyEditor.Proofs.Editing.Changes
import PolicyEditor.Proofs.Layout.Detaching
import PolicyEditor.Proofs.Weight.Reparsing

/-!
# Reading edited files again

A file whose lists were edited is read again as the file in memory if and only if it is intact.
This holds for all removals and for all additions of elements.  A file need not be intact: an item
that stood behind a removed one on the same line may come to stand behind a comment that was kept.

## Main definitions

* `ListEdit.removal` : one item of a list, or all attributes of a name, are removed.
* `ListEdit.addition` : the elements of a text are added to a list, which is put in order.

## Main results

* `reparse_iff_of_changes` : an edited file is read again if and only if it is intact.
* `reparse_iff_of_removals`, `reparse_iff_of_additions` : so is a file with items removed, or with
  elements added.
-/

namespace PolicyEditor

/-! ### Edited files -/

/-- A file whose lists were edited is read again if and only if it is intact. -/
theorem reparse_iff_of_changes {source file file' : String} {f g : Forest} {E : ListEdit}
    {indentation : Indentation} (h : parseFile source file = .ok f)
    (hkeeps : E.Keeps { source := source.toList, indentation })
    (hedits : Relation.ReflTransGen (Forest.Changes E) f g) :
    (∃ f', parseFile (g.render source indentation) file' = .ok f' ∧ f'.content = g.content) ↔
      g.intact { source := source.toList, indentation } = true := by
  have hstands := stands_of_parseFile h indentation
  obtain ⟨hsound, hlayouts⟩ := Forest.sound_of_changes hkeeps hedits hstands.sound
  have hprinted : g.definitions.map Definition.printed = g.content := by
    refine List.map_congr_left fun d hd => if_pos ?_
    obtain ⟨d', hd', hlayout⟩ := List.mem_map.1 (hlayouts ▸ List.mem_map_of_mem hd)
    rw [← hlayout]
    exact hstands.spans d' hd'
  rw [← hsound.parseFile_iff, hprinted]

/-! ### Removals -/

namespace ListEdit

/-- The first entry that reads like a given one, all attributes of a name, or the rule at a place
are removed. -/
def removal : ListEdit where
  members es es' := ∃ e, removeMember? e es = some es'
  values vs vs' := ∃ text, removeValue? text vs = some vs'
  attributes as as' := ∃ name, (∃ a ∈ as, a.name = name) ∧ as' = removeAttribute name as
  rules rs rs' := ∃ i < rs.length, rs' = rs.eraseIdx i

theorem removal_keeps (p : Printer) : removal.Keeps p where
  members := by
    rintro es es' ⟨e, h⟩
    exact fun e' he' => .inl ((sublist_of_removeFirst? h).subset he')
  values := by
    rintro vs vs' ⟨text, h⟩
    exact (sublist_of_removeFirst? h).subset
  attributes := by
    rintro as _ ⟨name, -, rfl⟩
    exact .of_subset (List.filter_subset_self as)
  rules := by
    rintro rs _ ⟨i, -, rfl⟩
    exact fun r hr => .inl (List.eraseIdx_subset hr)

end ListEdit

/-- A file from which items were removed is read again, as the file with exactly these items gone,
if and only if it is intact. -/
theorem reparse_iff_of_removals {source file file' : String} {f g : Forest}
    (h : parseFile source file = .ok f)
    (hremovals : Relation.ReflTransGen (Forest.Changes .removal) f g) (indentation : Indentation) :
    (∃ f', parseFile (g.render source indentation) file' = .ok f' ∧ f'.content = g.content) ↔
      g.intact { source := source.toList, indentation } = true :=
  reparse_iff_of_changes h (ListEdit.removal_keeps _) hremovals

/-! ### Additions -/

theorem mem_addMembers {new : List Element} {elements : List Member} {e : Member} :
    e ∈ addMembers new elements ↔ e ∈ elements ∨ ∃ x ∈ new, e = { content := x } := by
  rw [addMembers, sortMembers, (stableSort_perm _ _).mem_iff, List.mem_append, List.mem_map]
  simp only [eq_comm]

namespace ListEdit

/-- The elements of a text are added to a list, which is put in order. -/
def addition : ListEdit where
  members es es' := ∃ text new, parseUnion text = .ok new ∧ es' = addMembers new es

theorem addition_keeps (p : Printer) : addition.Keeps p where
  members := by
    rintro es _ ⟨text, new, hparse, rfl⟩ e he
    rcases mem_addMembers.1 he with he | ⟨x, hx, rfl⟩
    · exact .inl he
    · exact .inr ⟨Item.sound_of_canonical (spells_of_parseUnion hparse x hx), rfl⟩
  values := False.elim
  attributes := False.elim
  rules := False.elim

end ListEdit

/-- A file to which elements were added is read again, with every element in its place, if and only
if it is intact. -/
theorem reparse_iff_of_additions {source file file' : String} {f g : Forest}
    (h : parseFile source file = .ok f)
    (hadditions : Relation.ReflTransGen (Forest.Changes .addition) f g)
    (indentation : Indentation) :
    (∃ f', parseFile (g.render source indentation) file' = .ok f' ∧ f'.content = g.content) ↔
      g.intact { source := source.toList, indentation } = true :=
  reparse_iff_of_changes h (ListEdit.addition_keeps _) hadditions

/-! ### A list with a comment -/

/-- A group with a comment behind its first element and two elements on the next line. -/
def commentedSource : String :=
  "group:g =\n host:b, # one\n host:a, host:c,\n;\n"

/-- The elements of the group in their places. -/
def commentedGroup : List Member :=
  [⟨.named "host" "b", { span := some ⟨11, 17⟩, sep := some ⟨17, 24⟩ }⟩,
    ⟨.named "host" "a", { span := some ⟨26, 32⟩, lead := some ⟨24, 26⟩, sep := some ⟨32, 33⟩ }⟩,
    ⟨.named "host" "c", { span := some ⟨34, 40⟩, lead := some ⟨33, 34⟩, sep := some ⟨40, 41⟩ }⟩]

/-- The file of the group with the given elements. -/
def commentedForest (elements : List Member) : Forest where
  definitions := [{
    name := "group:g"
    body := .group { elements }
    layout := { span := some ⟨0, 43⟩ }
    frame := some ⟨9, 11, 41, true, 3⟩ }]
  frame := some ⟨0, 0, 43, false, 1⟩

theorem parse_commented : parseFile commentedSource "f" = .ok (commentedForest commentedGroup) :=
  rfl

theorem commented_changes {E : ListEdit} {es es' : List Member} (h : E.members es es') :
    Forest.Changes E (commentedForest es) (commentedForest es') :=
  @Forest.Changes.mk E (commentedForest es) [] [] _ _ rfl (.group h)

/-- Without its last element the group is read again, and the comment stays. -/
theorem reparse_removed_last :
    ∃ f g, parseFile commentedSource "f" = .ok f ∧ Forest.Changes .removal f g ∧
      g.render commentedSource = "group:g =\n host:b, # one\n host:a,\n;\n" ∧
      ∃ f', parseFile (g.render commentedSource) "f" = .ok f' ∧ f'.content = g.content := by
  have hremoval : Forest.Changes .removal (commentedForest commentedGroup)
      (commentedForest (commentedGroup.take 2)) :=
    commented_changes ⟨.named "host" "c", rfl⟩
  refine ⟨_, _, parse_commented, hremoval, rfl, ?_⟩
  exact (reparse_iff_of_removals parse_commented (.single hremoval) {}).2 rfl

/-- Without its second element the third one comes to stand behind the comment and is lost. -/
theorem not_reparse_removed_second :
    ∃ f g, parseFile commentedSource "f" = .ok f ∧ Forest.Changes .removal f g ∧
      g.render commentedSource = "group:g =\n host:b, # one host:c,\n;\n" ∧
      ¬ ∃ f', parseFile (g.render commentedSource) "f" = .ok f' ∧ f'.content = g.content := by
  have hremoval : Forest.Changes .removal (commentedForest commentedGroup)
      (commentedForest (commentedGroup.eraseIdx 1)) :=
    commented_changes ⟨.named "host" "a", rfl⟩
  refine ⟨_, _, parse_commented, hremoval, rfl, ?_⟩
  rw [reparse_iff_of_changes parse_commented (ListEdit.removal_keeps _) (.single hremoval)]
  decide

/-- An element between the second and the third one leaves all of them readable. -/
theorem reparse_added_between :
    ∃ f g, parseFile commentedSource "f" = .ok f ∧ Forest.Changes .addition f g ∧
      g.render commentedSource =
        "group:g =\n host:a,\n host:b, # one\n host:bb, host:c,\n;\n" ∧
      ∃ f', parseFile (g.render commentedSource) "f" = .ok f' ∧ f'.content = g.content := by
  have haddition : Forest.Changes .addition (commentedForest commentedGroup)
      (commentedForest (addMembers [.named "host" "bb"] commentedGroup)) :=
    commented_changes ⟨"host:bb", _, rfl, rfl⟩
  refine ⟨_, _, parse_commented, haddition, rfl, ?_⟩
  exact (reparse_iff_of_additions parse_commented (.single haddition) {}).2 rfl

/-- In order the third element stands behind the first one and its comment, and is lost. -/
theorem not_reparse_added_last :
    ∃ f g, parseFile commentedSource "f" = .ok f ∧ Forest.Changes .addition f g ∧
      g.render commentedSource =
        "group:g =\n host:a,\n host:b, # one host:c,\n host:d,\n;\n" ∧
      ¬ ∃ f', parseFile (g.render commentedSource) "f" = .ok f' ∧ f'.content = g.content := by
  have haddition : Forest.Changes .addition (commentedForest commentedGroup)
      (commentedForest (addMembers [.named "host" "d"] commentedGroup)) :=
    commented_changes ⟨"host:d", _, rfl, rfl⟩
  refine ⟨_, _, parse_commented, haddition, rfl, ?_⟩
  rw [reparse_iff_of_changes parse_commented (ListEdit.addition_keeps _) (.single haddition)]
  decide

end PolicyEditor
