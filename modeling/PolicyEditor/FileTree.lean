import PolicyEditor.Sorting

/-!
# File trees

A directory is a list of named entries, which are files or directories again.  There are no links.
A name is a row of bytes, which need not be a text in UTF-8.  Files are listed depth first, and the
entries of each directory in the order of their names.

## Main definitions

* `FileName`, `FileName.text?` : a name and its text.
* `Node`, `Entry`, `Directory` : a file tree whose files hold contents of some type.
* `Node.below?` : what stands at a place.
* `Directory.put` : a tree with another node at a place.
* `Directory.walk` : the files of a tree, without those below a node that is skipped.
-/

namespace PolicyEditor

/-! ### Names -/

/-- A name in a directory.  Names are compared byte by byte. -/
structure FileName where
  bytes : List UInt8
deriving DecidableEq, Repr

namespace FileName

/-- The name that a text spells. -/
def ofText (text : String) : FileName :=
  ⟨text.toUTF8.data.toList⟩

instance : Coe String FileName :=
  ⟨ofText⟩

/-- The text that spells a name, if the name is UTF-8. -/
def text? (name : FileName) : Option String :=
  String.fromUTF8? ⟨name.bytes.toArray⟩

/-- A text spells a name if it is the text of the name. -/
theorem text?_eq_some {name : FileName} {text : String} :
    name.text? = some text ↔ name = ofText text := by
  rw [text?, String.fromUTF8?]
  constructor
  · intro h
    split at h
    · cases h
      rfl
    · cases h
  · rintro rfl
    have hvalid : (⟨(ofText text).bytes.toArray⟩ : ByteArray).IsValidUTF8 := text.isValidUTF8
    rw [dif_pos hvalid]
    rfl

@[simp] theorem text?_ofText (text : String) : (ofText text).text? = some text :=
  text?_eq_some.2 rfl

theorem ofText_inj {text text' : String} : ofText text = ofText text' ↔ text = text' := by
  rw [← text?_eq_some, text?_ofText, Option.some_inj]

/-- The texts that spell the names of a list of texts. -/
theorem filterMap_text?_map (names : List String) :
    (names.map ofText).filterMap text? = names := by
  induction names with
  | nil => rfl
  | cons name names ih => simp only [List.map_cons, List.filterMap_cons, text?_ofText, ih]

end FileName

/-! ### Trees -/

mutual

/-- What stands at a place of a file tree. -/
inductive Node (α : Type) where
  | file (content : α)
  | directory (entries : List (Entry α))

/-- A node and its name in a directory. -/
structure Entry (α : Type) where
  name : FileName
  node : Node α

end

/-- The entries of a directory. -/
abbrev Directory (α : Type) := List (Entry α)

variable {α : Type}

/-- The node is a file. -/
def Node.isFile : Node α → Bool
  | .file _ => true
  | .directory _ => false

/-! ### Single places -/

/-- The node of a name. -/
def Directory.child? (name : FileName) (d : Directory α) : Option (Node α) :=
  (d.find? (·.name == name)).map (·.node)

/-- The node at the place that a list of names leads to. -/
def Node.below? : Node α → (place : List FileName) → Option (Node α)
  | node, [] => some node
  | .file _, _ :: _ => none
  | .directory entries, name :: place => (Directory.child? name entries).bind (·.below? place)

/-- The node at a place of a directory. -/
def Directory.node? (d : Directory α) (place : List FileName) : Option (Node α) :=
  (Node.directory d).below? place

/-- The entries after the node of a name has changed.  A new entry comes last. -/
def Directory.alter (name : FileName) (change : Option (Node α) → Node α) :
    Directory α → Directory α
  | [] => [⟨name, change none⟩]
  | e :: es =>
    if e.name == name then ⟨name, change (some e.node)⟩ :: es else e :: alter name change es

/-- The directory with another node at a place.  Missing directories are made. -/
def Directory.put (node : Node α) : (place : List FileName) → Directory α → Directory α
  | [], d => d
  | [name], d => d.alter name fun _ => node
  | name :: place, d =>
    d.alter name fun
      | some (.directory entries) => .directory (put node place entries)
      | _ => .directory (put node place [])

/-! ### All files -/

mutual

/-- The files at and below a node that stands at `place`, with their places.  Only nodes for which
`keep` holds are entered. -/
def Node.walk (keep : List FileName → Node α → Bool) (place : List FileName) :
    Node α → List (List FileName × α)
  | .file content => [(place, content)]
  | .directory entries =>
    (stableSort (fun a b => a.1.bytes ≤ b.1.bytes) (walkEntries keep place entries)).flatMap (·.2)

/-- The files of the entries of a directory that stands at `place`, by the names of the entries. -/
def walkEntries (keep : List FileName → Node α → Bool) (place : List FileName) :
    List (Entry α) → List (FileName × List (List FileName × α))
  | [] => []
  | ⟨name, node⟩ :: entries =>
    let rest := walkEntries keep place entries
    if keep (place ++ [name]) node then (name, node.walk keep (place ++ [name])) :: rest else rest

end

/-- The files of a directory with their places.  Only nodes for which `keep` holds are entered. -/
def Directory.walk (keep : List FileName → Node α → Bool) (d : Directory α) :
    List (List FileName × α) :=
  (Node.directory d).walk keep []

/-- The files of a directory at places that texts spell, with these texts. -/
def Directory.files (d : Directory α) : List (List String × α) :=
  (d.walk fun place _ => place.all (·.text?.isSome)).map fun file =>
    (file.1.filterMap FileName.text?, file.2)

end PolicyEditor
