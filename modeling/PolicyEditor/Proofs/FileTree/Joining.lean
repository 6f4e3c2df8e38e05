import PolicyEditor.Proofs.FileTree.Access

/-!
# Paths below a directory

A path of names, taken relative to a directory, leads to the place that these names lead to from
there.

## Main definitions

* `Path.names`, `Path.place` : the names in a path, and the place that they lead to.
* `Path.IsName` : a text that can stand between slashes as a name.

## Main results

* `Directory.leads_join` : the place that a joined path leads to.
* `Path.isInside_intercalate`, `Path.names_intercalate` : names between slashes are a path inside
  its directory.
-/

namespace PolicyEditor

namespace Text

/-! ### Pieces between slashes -/

theorem fields_ne_nil (sep : Char) (cs : List Char) : fields sep cs ≠ [] := by
  cases cs with
  | nil => simp [fields]
  | cons c cs =>
    rw [fields]
    split_ifs
    · simp
    · split <;> simp

theorem fields_append (sep : Char) (front back : List Char) :
    fields sep (front ++ sep :: back) = fields sep front ++ fields sep back := by
  induction front with
  | nil => simp [fields]
  | cons c front ih =>
    rw [List.cons_append, fields, fields, ih]
    split_ifs
    · rfl
    · rcases hfront : fields sep front with - | ⟨f, fs⟩
      · exact absurd hfront (fields_ne_nil sep front)
      · rfl

theorem fields_of_not_mem {sep : Char} {cs : List Char} (h : sep ∉ cs) : fields sep cs = [cs] := by
  induction cs with
  | nil => rfl
  | cons c cs ih =>
    rw [List.mem_cons, not_or] at h
    rw [fields, if_neg (Ne.symm h.1), ih h.2]

theorem fields_intercalate {sep : Char} {pieces : List (List Char)} (hpieces : pieces ≠ [])
    (h : ∀ piece ∈ pieces, sep ∉ piece) : fields sep ([sep].intercalate pieces) = pieces := by
  induction pieces with
  | nil => exact absurd rfl hpieces
  | cons piece pieces ih =>
    rw [List.forall_mem_cons] at h
    cases pieces with
    | nil => simpa using fields_of_not_mem h.1
    | cons next pieces =>
      have hcons : [sep].intercalate (piece :: next :: pieces) =
          piece ++ sep :: [sep].intercalate (next :: pieces) := by
        simp [List.intercalate]
      rw [hcons, fields_append, fields_of_not_mem h.1, ih (by simp) h.2]
      rfl

/-- The pieces of a text, put together again. -/
theorem intercalate_fields (sep : Char) (cs : List Char) :
    [sep].intercalate (fields sep cs) = cs := by
  induction cs with
  | nil => rfl
  | cons c cs ih =>
    rcases hfields : fields sep cs with - | ⟨f, fs⟩
    · exact absurd hfields (fields_ne_nil sep cs)
    · rw [hfields] at ih
      rw [fields, hfields]
      split_ifs with hc
      · rw [← ih, ← hc]
        simp [List.intercalate]
      · rw [← ih]
        cases fs <;> simp [List.intercalate]

end Text

namespace Path

/-! ### Names -/

/-- The name of a component. -/
def Component.name? : Component → Option String
  | .name n => some n
  | _ => none

/-- The names in a path. -/
def names (p : Path) : List String :=
  p.components.filterMap Component.name?

/-- The place that the names in a path lead to. -/
def place (p : Path) : List FileName :=
  p.names.map .ofText

/-- A text that is a name between slashes. -/
structure IsName (name : String) : Prop where
  component : component? name.toList = some (.name name)
  slash : '/' ∉ name.toList

instance (name : String) : Decidable (IsName name) :=
  decidable_of_iff (component? name.toList = some (.name name) ∧ '/' ∉ name.toList)
    ⟨fun h => ⟨h.1, h.2⟩, fun h => ⟨h.component, h.slash⟩⟩

theorem isInside_iff {p : Path} :
    p.isInside = true ↔ p.text ≠ "" ∧ ∀ c ∈ p.components, ∃ name, c = .name name := by
  rw [isInside, Bool.and_eq_true, List.all_eq_true]
  refine and_congr (by simp) (forall₂_congr fun c _ => ?_)
  cases c <;> simp

/-- The pieces of a path inside its directory are names or idle. -/
theorem components_of_isInside {p : Path} (h : p.isInside = true) :
    p.isAbsolute = false ∧
      p.components = (Text.fields '/' p.text.toList).filterMap component? := by
  have hall := (isInside_iff.1 h).2
  rw [components] at hall ⊢
  by_cases habs : p.isAbsolute = true
  · obtain ⟨name, hname⟩ := hall .root (by simp [habs])
    cases hname
  · rw [if_neg habs] at hall ⊢
    refine ⟨by simpa using habs, ?_⟩
    split_ifs at hall ⊢ with hdot
    · obtain ⟨name, hname⟩ := hall .current (by simp)
      cases hname
    · rfl

end Path

namespace Directory

variable {α : Type} {d : Directory α}

/-- Names lead to the places below, and idle pieces nowhere. -/
theorem eq_append_of_follow {place target : List FileName} {pieces : List (List Char)}
    (hpieces : ∀ piece ∈ pieces, Path.component? piece ≠ some .parent)
    (h : d.follow place pieces = .ok target) :
    target = place ++
      ((pieces.filterMap Path.component?).filterMap Path.Component.name?).map .ofText := by
  induction pieces generalizing place with
  | nil =>
    cases h
    simp
  | cons piece pieces ih =>
    rw [List.forall_mem_cons] at hpieces
    obtain ⟨-, h⟩ := follow_cons_eq_ok.1 h
    split at h
    · next name hname => simp [ih hpieces.2 h.2.2, hname, Path.Component.name?]
    · next hname => exact absurd hname hpieces.1
    · next hname hparent =>
      rcases hcomponent : Path.component? piece with - | - | - | - | name
      · simpa [hcomponent] using ih hpieces.2 h
      · simpa [hcomponent, List.filterMap_cons, Path.Component.name?] using ih hpieces.2 h
      · simpa [hcomponent, List.filterMap_cons, Path.Component.name?] using ih hpieces.2 h
      · exact absurd hcomponent hpieces.1
      · exact absurd hcomponent (hname name)

/-- The pieces of a joined path are those of a path to the directory and those of the path. -/
theorem exists_fields_join {root path : Path} {base : List FileName} (hroot : root.text ≠ "")
    (hbase : d.Leads root base) (habs : path.isAbsolute = false) :
    ∃ front, d.follow [] front = .ok base ∧
      Text.fields '/' (root.join path).text.toList = front ++ Text.fields '/' path.text.toList := by
  have hempty : root.text.isEmpty = false := by simpa using hroot
  rw [Path.join, habs, hempty, Bool.false_or, if_neg Bool.false_ne_true]
  split_ifs with hslash
  · -- The slash at the end of the root takes part in the joined path.
    obtain ⟨front, hfront⟩ := List.getLast?_eq_some_iff.1 (beq_iff_eq.1 hslash)
    refine ⟨Text.fields '/' front, ?_, ?_⟩
    · rw [Leads, hfront, Text.fields_append, follow_append] at hbase
      obtain ⟨middle, hmiddle, hlast⟩ := hbase
      have hidle := (follow_cons_eq_ok.1 hlast).2
      simp only [Path.component?, true_or, if_true] at hidle
      rwa [← Except.ok.inj hidle]
    · rw [String.toList_append, hfront, List.append_assoc, List.singleton_append,
        Text.fields_append]
  · refine ⟨Text.fields '/' root.text.toList, hbase, ?_⟩
    rw [String.toList_append, String.toList_append, List.append_assoc]
    exact Text.fields_append '/' _ _

/-- A path of names, taken relative to the path of a directory, leads to the place below it. -/
theorem leads_join {root path : Path} {base place : List FileName} (hroot : root.text ≠ "")
    (hbase : d.Leads root base) (hpath : path.isInside = true)
    (h : d.Leads (root.join path) place) : place = base ++ path.place := by
  obtain ⟨habs, hcomponents⟩ := Path.components_of_isInside hpath
  have hpieces : ∀ piece ∈ Text.fields '/' path.text.toList,
      Path.component? piece ≠ some .parent := by
    intro piece hpiece hparent
    obtain ⟨name, hname⟩ := (Path.isInside_iff.1 hpath).2 .parent
      (hcomponents ▸ List.mem_filterMap.2 ⟨piece, hpiece, hparent⟩)
    cases hname
  obtain ⟨front, hfront, hfields⟩ := exists_fields_join hroot hbase habs
  rw [Leads, hfields, follow_append] at h
  obtain ⟨middle, hmiddle, hrest⟩ := h
  obtain rfl : base = middle := Except.ok.inj (hfront.symm.trans hmiddle)
  rw [eq_append_of_follow hpieces hrest, Path.place, Path.names, hcomponents]

end Directory

namespace Path

/-! ### Names between slashes -/

theorem IsName.ne_nil {name : String} (h : IsName name) : name.toList ≠ [] := by
  intro hnil
  have hcomponent := h.component
  simp [hnil, component?] at hcomponent

theorem IsName.ne_dot {name : String} (h : IsName name) : name.toList ≠ ['.'] := by
  intro hdot
  have hcomponent := h.component
  simp [hdot, component?] at hcomponent

theorem fields_intercalate {names : List String} (hne : names ≠ [])
    (h : ∀ name ∈ names, IsName name) :
    Text.fields '/' ("/".intercalate names).toList = names.map String.toList := by
  rw [String.toList_intercalate]
  refine Text.fields_intercalate (by simpa using hne) fun piece hpiece => ?_
  obtain ⟨name, hname, rfl⟩ := List.mem_map.1 hpiece
  exact (h name hname).slash

theorem filterMap_component? {names : List String} (h : ∀ name ∈ names, IsName name) :
    (names.map String.toList).filterMap component? = names.map .name := by
  rw [List.filterMap_map, ← List.filterMap_eq_map]
  exact List.filterMap_congr fun name hname => (h name hname).component

/-- The components of names between slashes are these names. -/
theorem components_intercalate {names : List String} (hne : names ≠ [])
    (h : ∀ name ∈ names, IsName name) :
    components ⟨"/".intercalate names⟩ = names.map .name := by
  have hfields := fields_intercalate hne h
  rcases names with - | ⟨name, names⟩
  · exact absurd rfl hne
  have hname := (List.forall_mem_cons.1 h).1
  have habs : isAbsolute ⟨"/".intercalate (name :: names)⟩ = false := by
    rw [isAbsolute]
    rcases htext : ("/".intercalate (name :: names)).toList with - | ⟨c, cs⟩
    · rfl
    · by_contra hslash
      obtain rfl : c = '/' := by simpa using hslash
      rw [htext, Text.fields, if_pos rfl, List.map_cons] at hfields
      exact hname.ne_nil (List.cons.inj hfields).1.symm
  rw [components, habs, hfields, filterMap_component? h, if_neg Bool.false_ne_true,
    List.map_cons, if_neg (by simpa using hname.ne_dot), List.nil_append]

/-- Names between slashes are a path inside its directory. -/
theorem isInside_intercalate {names : List String} (hne : names ≠ [])
    (h : ∀ name ∈ names, IsName name) : isInside ⟨"/".intercalate names⟩ = true := by
  refine isInside_iff.2 ⟨fun hempty => ?_, fun c hc => ?_⟩
  · have hfields := fields_intercalate hne h
    rw [show "/".intercalate names = "" from hempty] at hfields
    rcases names with - | ⟨name, names⟩
    · exact hne rfl
    · exact ((List.forall_mem_cons.1 h).1.ne_nil) (List.cons.inj hfields).1.symm
  · rw [components_intercalate hne h] at hc
    obtain ⟨name, -, rfl⟩ := List.mem_map.1 hc
    exact ⟨name, rfl⟩

theorem names_intercalate {names : List String} (hne : names ≠ [])
    (h : ∀ name ∈ names, IsName name) : Path.names ⟨"/".intercalate names⟩ = names := by
  rw [Path.names, components_intercalate hne h, List.filterMap_map]
  exact List.filterMap_some

theorem place_intercalate {names : List String} (hne : names ≠ [])
    (h : ∀ name ∈ names, IsName name) :
    Path.place ⟨"/".intercalate names⟩ = names.map .ofText := by
  rw [Path.place, names_intercalate hne h]

end Path

end PolicyEditor
