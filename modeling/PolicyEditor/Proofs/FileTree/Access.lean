import PolicyEditor.FileTree.Access
import PolicyEditor.Proofs.FileTree.Views

/-!
# Paths through a file tree that changes

Making directories and replacing files never takes away a place, so a path that leads somewhere
leads there for good.

## Main definitions

* `Directory.Extends` : what stands in a tree is kept by another one.
* `Directory.SameFile` : two trees have the same file at a place, or none.
* `Directory.Grows` : another tree has further directories.
* `Directory.Replaces` : another tree has a file replaced or added.
* `Directory.Leads` : the pieces of a path lead to a place.

## Main results

* `Directory.follow_cons_eq_ok` : a step along a path, in terms of views.
* `Directory.grows_of_makeDirectories` : only directories are made.
* `Directory.replaceFile_ok` : a file that is replaced is the one that its path leads to.
-/

namespace PolicyEditor

variable {α : Type}

namespace Directory

/-! ### Trees that grow -/

/-- Everything in the first tree stands in the second one, directories as such. -/
structure Extends (d d' : Directory α) : Prop where
  directory : ∀ place, d.view place = .directory → d'.view place = .directory
  present : ∀ place, d.view place ≠ .nothing → d'.view place ≠ .nothing

theorem Extends.trans {d₁ d₂ d₃ : Directory α} (h₁ : d₁.Extends d₂) (h₂ : d₂.Extends d₃) :
    d₁.Extends d₃ :=
  ⟨fun place h => h₂.directory place (h₁.directory place h),
    fun place h => h₂.present place (h₁.present place h)⟩

/-- Both trees have the same file at a place, or none. -/
def SameFile (d d' : Directory α) (place : List FileName) : Prop :=
  ∀ content, d'.view place = .file content ↔ d.view place = .file content

theorem SameFile.trans {d₁ d₂ d₃ : Directory α} {place : List FileName}
    (h₁ : d₁.SameFile d₂ place) (h₂ : d₂.SameFile d₃ place) : d₁.SameFile d₃ place :=
  fun content => (h₂ content).trans (h₁ content)

/-- The second tree has further directories. -/
def Grows (d d' : Directory α) : Prop :=
  ∀ place, d'.view place = d.view place ∨ d.view place = .nothing ∧ d'.view place = .directory

theorem Grows.refl (d : Directory α) : d.Grows d :=
  fun _ => .inl rfl

theorem Grows.trans {d₁ d₂ d₃ : Directory α} (h₁ : d₁.Grows d₂) (h₂ : d₂.Grows d₃) :
    d₁.Grows d₃ := by
  intro place
  rcases h₁ place with h₁ | ⟨h₁, h₁'⟩ <;> rcases h₂ place with h₂ | ⟨h₂, h₂'⟩
  · exact .inl (h₂.trans h₁)
  · exact .inr ⟨h₁ ▸ h₂, h₂'⟩
  · exact .inr ⟨h₁, h₂.trans h₁'⟩
  · simp [h₁'] at h₂

theorem Grows.sameFile {d d' : Directory α} (h : d.Grows d') (place : List FileName) :
    d.SameFile d' place := by
  intro content
  rcases h place with h | ⟨h, h'⟩
  · rw [h]
  · simp [h, h']

theorem Grows.extends {d d' : Directory α} (h : d.Grows d') : d.Extends d' where
  directory place hplace := by
    rcases h place with h | ⟨h, -⟩
    · rw [h, hplace]
    · simp [hplace] at h
  present place hplace := by
    rcases h place with h | ⟨h, -⟩
    · rwa [h]
    · exact absurd h hplace

/-! ### Following paths -/

theorem lookUp?_eq_ok_iff {d : Directory α} {name : String} {node : Option (Node α)} :
    d.lookUp? name = .ok node ↔ name.utf8ByteSize ≤ nameLimit ∧ d.child? name = node := by
  rw [lookUp?]
  split_ifs with h
  · simp [Nat.not_le.2 h]
  · simp [Nat.not_lt.1 h]

theorem view_singleton (d : Directory α) (name : FileName) :
    d.view [name] = ((d.child? name).map Node.view).getD .nothing := by
  rw [view_cons_eq]
  rcases d.child? name with - | node
  · rfl
  · rw [Option.bind_some, Node.below?]

theorem view_singleton_eq_nothing_iff {d : Directory α} {name : FileName} :
    d.view [name] = .nothing ↔ d.child? name = none := by
  rw [view_singleton]
  rcases d.child? name with - | content | entries <;> simp [Node.view]

/-- A path leads from a directory to a place if each of its pieces leads on. -/
theorem follow_cons_eq_ok {d : Directory α} {place target : List FileName} {piece : List Char}
    {pieces : List (List Char)} :
    d.follow place (piece :: pieces) = .ok target ↔
      d.view place = .directory ∧
        match Path.component? piece with
        | some (.name name) =>
          name.utf8ByteSize ≤ nameLimit ∧ d.view (place ++ [.ofText name]) ≠ .nothing ∧
            d.follow (place ++ [.ofText name]) pieces = .ok target
        | some .parent => place ≠ [] ∧ d.follow place.dropLast pieces = .ok target
        | _ => d.follow place pieces = .ok target := by
  rw [follow]
  rcases hnode : d.node? place with - | content | entries
  · simp [view_eq_nothing_iff.2 hnode]
  · simp [view_eq_file_iff.2 hnode]
  · rw [view_eq_directory_iff.2 ⟨entries, hnode⟩]
    simp only [true_and]
    rcases Path.component? piece with - | - | - | - | name
    · rfl
    · rfl
    · rfl
    · cases place <;> simp
    · simp only [view_append hnode, Ne, view_singleton_eq_nothing_iff, lookUp?]
      by_cases hlong : nameLimit < name.utf8ByteSize
      · simp [hlong, Nat.not_le.2 hlong]
      · rcases child? (.ofText name) entries with - | node <;> simp [hlong, Nat.not_lt.1 hlong]

/-- A path leads to the same place in a tree that extends the one it was followed in. -/
theorem Extends.follow {d d' : Directory α} (hext : d.Extends d') {place target : List FileName}
    {pieces : List (List Char)} (h : d.follow place pieces = .ok target) :
    d'.follow place pieces = .ok target := by
  induction pieces generalizing place with
  | nil => exact h
  | cons piece pieces ih =>
    obtain ⟨hdir, h⟩ := follow_cons_eq_ok.1 h
    refine follow_cons_eq_ok.2 ⟨hext.directory _ hdir, ?_⟩
    split at h
    · exact ⟨h.1, hext.present _ h.2.1, ih h.2.2⟩
    · exact ⟨h.1, ih h.2⟩
    · exact ih h

/-- The pieces of a path are followed one after the other. -/
theorem follow_append {d : Directory α} {place target : List FileName}
    {front back : List (List Char)} :
    d.follow place (front ++ back) = .ok target ↔
      ∃ middle, d.follow place front = .ok middle ∧ d.follow middle back = .ok target := by
  induction front generalizing place with
  | nil => simp [follow]
  | cons piece front ih =>
    rw [List.cons_append, follow_cons_eq_ok]
    simp only [follow_cons_eq_ok]
    split <;> simp only [ih] <;> grind

/-- A path leads through names that are texts. -/
theorem exists_texts_of_follow {d : Directory α} {texts : List String} {target : List FileName}
    {pieces : List (List Char)} (h : d.follow (texts.map .ofText) pieces = .ok target) :
    ∃ texts' : List String, target = texts'.map .ofText := by
  induction pieces generalizing texts with
  | nil =>
    cases h
    exact ⟨texts, rfl⟩
  | cons piece pieces ih =>
    obtain ⟨-, h⟩ := follow_cons_eq_ok.1 h
    split at h
    · next name _ =>
      have hbelow : d.follow ((texts ++ [name]).map .ofText) pieces = .ok target := by
        rw [List.map_append]
        exact h.2.2
      exact ih hbelow
    · have habove : d.follow (texts.dropLast.map .ofText) pieces = .ok target := by
        rw [List.map_dropLast]
        exact h.2
      exact ih habove
    · exact ih h

/-! ### Making directories -/

theorem view_put_directory {d : Directory α} {front : List FileName} {name : FileName}
    (hfront : d.view front = .directory) (hname : d.view (front ++ [name]) = .nothing)
    (place : List FileName) :
    (d.put (.directory []) (front ++ [name])).view place =
      if place = front ++ [name] then .directory else d.view place :=
  view_put (fun _ _ => rfl) hfront (by simp [hname]) place

/-- Directories are made only where nothing stands. -/
theorem grows_of_makeFrom {components : List Path.Component} {d d' : Directory α}
    {place : List FileName} (hplace : d.view place = .directory)
    (h : d.makeFrom place components = .ok d') : d.Grows d' := by
  induction components generalizing d place with
  | nil =>
    cases h
    exact .refl _
  | cons component components ih =>
    rcases component with - | - | - | name
    · cases h
    · exact ih hplace h
    · rw [makeFrom] at h
      split at h
      · cases h
      · exact ih (view_dropLast hplace) h
    · rw [makeFrom] at h
      split at h
      · cases h
      · split at h
        · next hnode => exact ih (view_eq_directory_iff.2 ⟨_, hnode⟩) h
        · cases h
        · next hnode =>
          have hput := view_put_directory hplace (view_eq_nothing_iff.2 hnode)
          refine .trans (fun other => ?_) (ih (by simp [hput]) h)
          rw [hput]
          split_ifs with hother
          · exact .inr ⟨hother ▸ view_eq_nothing_iff.2 hnode, rfl⟩
          · exact .inl rfl

theorem grows_of_makeDirectories {d d' : Directory α} {path : Path}
    (h : d.makeDirectories path = .ok d') : d.Grows d' := by
  rw [makeDirectories] at h
  cases hcheck : path.check .nullCharacter <;> rw [hcheck] at h
  · cases h
  · exact grows_of_makeFrom (view_nil d) h

/-! ### Replacing files -/

/-- The pieces of a path lead to a place. -/
def Leads (d : Directory α) (path : Path) (place : List FileName) : Prop :=
  d.follow [] (Text.fields '/' path.text.toList) = .ok place

theorem Leads.exists_texts {d : Directory α} {path : Path} {place : List FileName}
    (h : d.Leads path place) : ∃ texts : List String, place = texts.map .ofText :=
  exists_texts_of_follow (show d.follow ([].map .ofText) _ = .ok place from h)

theorem Extends.leads {d d' : Directory α} (hext : d.Extends d') {path : Path}
    {place : List FileName} (h : d.Leads path place) : d'.Leads path place :=
  hext.follow h

/-- The second tree is the first one with the file at a place replaced or added. -/
structure Replaces (place : List FileName) (content : α) (d d' : Directory α) : Prop where
  view : ∀ other, d'.view other = if other = place then .file content else d.view other
  not_directory : d.view place ≠ .directory

theorem Replaces.sameFile {d d' : Directory α} {place other : List FileName} {content : α}
    (h : Replaces place content d d') (hother : other ≠ place) : d.SameFile d' other := by
  intro content
  rw [h.view, if_neg hother]

theorem Replaces.extends {d d' : Directory α} {place : List FileName} {content : α}
    (h : Replaces place content d d') : d.Extends d' where
  directory other hother := by
    have hne : other ≠ place := fun heq => h.not_directory (heq ▸ hother)
    rw [h.view, if_neg hne, hother]
  present other hother := by
    rw [h.view]
    split_ifs
    · simp
    · exact hother

/-- A file that is put into a directory, in the place of no other directory. -/
theorem replaces_put {d : Directory α} {front : List FileName} {name : FileName} {content : α}
    (hfront : d.view front = .directory) (hname : d.view (front ++ [name]) ≠ .directory) :
    Replaces (front ++ [name]) content d (d.put (.file content) (front ++ [name])) where
  view := view_put (fun _ _ => rfl) hfront hname
  not_directory := hname

/-- A file that is replaced has a name in a directory that the rest of its path leads to, and there
is no directory of this name. -/
theorem replaceFile_eq_ok {d d' : Directory α} {path : Path} {content : α}
    (h : d.replaceFile path content = .ok d') :
    ∃ above last front entries name node,
      Text.fields '/' path.text.toList = above ++ [last] ∧ d.follow [] above = .ok front ∧
      d.node? front = some (.directory entries) ∧ Path.component? last = some (.name name) ∧
      lookUp? name entries = .ok node ∧ (∀ inner, node ≠ some (.directory inner)) ∧
      d' = d.put (.file content) (front ++ [.ofText name]) := by
  simp only [replaceFile, bind, Except.bind] at h
  split at h
  · cases h
  split at h
  · cases h
  next last above hback =>
  split at h
  · cases h
  next front hfront =>
  split at h
  next entries hnode =>
    split at h
    next name hname =>
      cases hlook : lookUp? name entries with
      | error cause =>
        rw [hlook] at h
        cases h
      | ok node =>
        rw [hlook] at h
        dsimp only at h
        split at h
        · cases h
        · cases h
        · next hnot hslashes =>
          cases h
          have hpieces : Text.fields '/' path.text.toList = above.reverse ++ [last] := by
            rw [hslashes, List.length_nil, List.drop_zero] at hback
            rw [← List.reverse_cons, ← hback, List.reverse_reverse]
          exact ⟨_, last, front, entries, name, _, hpieces, hfront, hnode, hname, hlook, hnot, rfl⟩
    · cases h
  · cases h

/-- A file that is replaced is the one that its path leads to. -/
theorem replaceFile_ok {d d' : Directory α} {path : Path} {content : α}
    (h : d.replaceFile path content = .ok d') :
    ∃ place, Replaces place content d d' ∧ d'.Leads path place := by
  obtain ⟨above, last, front, entries, name, node, hpieces, hfront, hnode, hname, hlook, hnot,
    rfl⟩ := replaceFile_eq_ok h
  obtain ⟨hlong, hchild⟩ := lookUp?_eq_ok_iff.1 hlook
  have hdir : d.view front = .directory := view_eq_directory_iff.2 ⟨entries, hnode⟩
  have htarget : d.view (front ++ [.ofText name]) ≠ .directory := by
    rw [view_append hnode, view_singleton, hchild]
    rcases node with - | content | inner <;> simp [Node.view]
    exact absurd rfl (hnot inner)
  have hreplaces : Replaces (front ++ [.ofText name]) content d _ := replaces_put hdir htarget
  refine ⟨front ++ [.ofText name], hreplaces, ?_⟩
  rw [Leads, hpieces]
  refine follow_append.2 ⟨front, hreplaces.extends.follow hfront, follow_cons_eq_ok.2 ?_⟩
  rw [hname]
  refine ⟨hreplaces.extends.directory _ hdir, hlong, ?_, rfl⟩
  rw [hreplaces.view, if_pos rfl]
  simp

end Directory

end PolicyEditor
