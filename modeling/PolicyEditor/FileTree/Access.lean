import PolicyEditor.Error
import PolicyEditor.FileTree

/-!
# Access to a file tree by paths

A path is followed piece by piece from the directory that the tree stands for.  It cannot lead out
of this directory.  Paths and the names in them have a greatest length in bytes.

## Main definitions

* `Content` : what a file holds.
* `Path.check` : a path is neither too long nor does it hold a null character.
* `Directory.locate` : the place that a path leads to.
* `Directory.readText` : the text of a file.
* `Directory.makeDirectories` : make a directory and those above it.
* `Directory.replaceFile` : write a file anew.
-/

namespace PolicyEditor

/-- What a file holds. -/
inductive Content where
  | text (text : String)
  /-- Bytes that are no text in UTF-8. -/
  | binary
deriving DecidableEq, Repr

/-! ### Limits -/

/-- The greatest number of bytes in a name. -/
def nameLimit : Nat := 255

/-- The greatest number of bytes in a path. -/
def pathLimit : Nat := 4095

/-- A path is not too long, and without null characters, which are refused with the cause `null`. -/
def Path.check (path : Path) (null : IoCause) : Except IoCause Unit :=
  if path.text.toList.contains '\x00' then .error null
  else if pathLimit < path.text.utf8ByteSize then .error .tooLong
  else .ok ()

namespace Directory

variable {α : Type}

/-- The node of the name that a text spells, which is not too long. -/
def lookUp? (name : String) (d : Directory α) : Except IoCause (Option (Node α)) :=
  if nameLimit < name.utf8ByteSize then .error .tooLong else .ok (child? name d)

/-! ### Reading -/

/-- The place that is reached from the directory at `place` by the pieces of a path. -/
def follow (d : Directory α) : (place : List FileName) → (pieces : List (List Char)) →
    Except IoCause (List FileName)
  | place, [] => .ok place
  | place, piece :: pieces =>
    match d.node? place with
    | none => .error .notFound
    | some (.file _) => .error .notDirectory
    | some (.directory entries) =>
      match Path.component? piece with
      | some (.name name) =>
        match lookUp? name entries with
        | .ok (some _) => d.follow (place ++ [.ofText name]) pieces
        | .ok none => .error .notFound
        | .error cause => .error cause
      | some .parent => if place.isEmpty then .error .notFound else d.follow place.dropLast pieces
      | _ => d.follow place pieces

/-- The place that a path leads to.  It exists. -/
def locate (d : Directory α) (path : Path) : Except IoCause (List FileName) := do
  path.check .nullCharacter
  if path.text.isEmpty || path.isAbsolute then throw .notFound
  d.follow [] (Text.fields '/' path.text.toList)

/-- What a path leads to. -/
def find? (d : Directory α) (path : Path) : Except IoCause (Node α) := do
  match d.node? (← d.locate path) with
  | some node => return node
  | none => throw .notFound

/-- There is a file at a path. -/
def hasFile (d : Directory α) (path : Path) : Bool :=
  match d.find? path with
  | .ok (.file _) => true
  | _ => false

/-- The entries of the directory at a path. -/
def directory? (d : Directory α) (path : Path) : Option (Directory α) :=
  match d.find? path with
  | .ok (.directory entries) => some entries
  | _ => none

/-- The text of the file at a path. -/
def readText (d : Directory Content) (path : Path) : Except IoCause String := do
  match ← d.find? path with
  | .file (.text text) => return text
  | .file .binary => throw .notText
  | .directory _ => throw .isDirectory

/-! ### Writing -/

/-- Make the directory that components lead to from `place`, and those above it. -/
def makeFrom (d : Directory α) : (place : List FileName) → List Path.Component →
    Except IoCause (Directory α)
  | _, [] => .ok d
  | _, .root :: _ => .error .notFound
  | place, .current :: components => d.makeFrom place components
  | place, .parent :: components =>
    if place.isEmpty then .error .notFound else d.makeFrom place.dropLast components
  | place, .name name :: components =>
    let place := place ++ [.ofText name]
    if nameLimit < name.utf8ByteSize then .error .tooLong
    else
      match d.node? place with
      | some (.directory _) => d.makeFrom place components
      | some (.file _) => .error (if components.isEmpty then .present else .notDirectory)
      | none => makeFrom (d.put (.directory []) place) place components

/-- Make the directory of a path and those above it.  It may exist already. -/
def makeDirectories (d : Directory α) (path : Path) : Except IoCause (Directory α) := do
  path.check .nullCharacter
  d.makeFrom [] path.components

/-- Put a complete file in the place of the file at a path, which may exist already.  Its directory
has to exist, and the path has to end in a name. -/
def replaceFile (d : Directory α) (path : Path) (content : α) : Except IoCause (Directory α) := do
  path.check .invalidName
  let backwards := (Text.fields '/' path.text.toList).reverse
  let slashes := backwards.takeWhile (·.isEmpty)
  match backwards.drop slashes.length with
  | [] => throw .notFound
  | last :: above =>
    let place ← d.follow [] above.reverse
    match d.node? place with
    | some (.directory entries) =>
      match Path.component? last with
      | some (.name name) =>
        match ← lookUp? name entries, slashes with
        | _, _ :: _ => throw .notDirectory
        | some (.directory _), [] => throw .isDirectory
        | _, [] => return d.put (.file content) (place ++ [.ofText name])
      | _ => throw .busy
    | _ => throw .notDirectory

end Directory

end PolicyEditor
