import PolicyEditor.Text.Pieces

/-!
# File paths

A path is kept as it was written, and compared by its components: repeated slashes, a slash at the
end and dots inside a path make no difference.

## Main definitions

* `Path` : a path as it was written.
* `Path.components` : what a path is compared by.
* `Path.join`, `Path.parent?` : the paths below and above a path.
* `Path.isInside` : the path names a file below the directory that it is relative to.
-/

namespace PolicyEditor

/-- A file path as it was written. -/
structure Path where
  text : String
deriving DecidableEq, Repr, Inhabited

/-- A step of a path. -/
inductive Path.Component where
  | root
  | current
  | parent
  | name (name : String)
deriving DecidableEq, Repr

namespace Path

/-- The component of a piece between slashes; an empty piece and a dot have none. -/
def component? (piece : List Char) : Option Component :=
  if piece = [] ∨ piece = ['.'] then none
  else if piece = ['.', '.'] then some .parent
  else some (.name (String.ofList piece))

/-- The path starts at the root directory. -/
def isAbsolute (p : Path) : Bool :=
  p.text.toList.head? == some '/'

/-- The components of a path.  A dot counts only at the start of a relative path. -/
def components (p : Path) : List Component :=
  let pieces := Text.fields '/' p.text.toList
  let start :=
    if p.isAbsolute then [.root] else if pieces.head? == some ['.'] then [.current] else []
  start ++ pieces.filterMap component?

/-- The paths have the same components. -/
def same (p q : Path) : Bool :=
  p.components == q.components

/-- The path `q`, taken relative to `p`. -/
def join (p q : Path) : Path :=
  if q.isAbsolute || p.text.isEmpty then q
  else if p.text.toList.getLast? == some '/' then ⟨p.text ++ q.text⟩
  else ⟨p.text ++ "/" ++ q.text⟩

/-- The pieces of a path from last to first, without the idle ones in front: empty pieces and dots
that do not stand at the start of the path. -/
def dropIdle : List (List Char) → List (List Char)
  | piece :: next :: pieces =>
    if piece = [] ∨ piece = ['.'] then dropIdle (next :: pieces) else piece :: next :: pieces
  | pieces => pieces

/-- The path of the directory that holds the file of a path. -/
def parent? (p : Path) : Option Path :=
  match p.components.getLast? with
  | none | some .root => none
  | some _ =>
    let pieces := dropIdle (dropIdle (Text.fields '/' p.text.toList).reverse).tail
    let parent := ['/'].intercalate pieces.reverse
    some ⟨String.ofList (if parent.isEmpty && p.isAbsolute then ['/'] else parent)⟩

/-- The path names a file below the directory that it is relative to: it is not empty, and no
component leads elsewhere. -/
def isInside (p : Path) : Bool :=
  !p.text.isEmpty && p.components.all fun
    | .name _ => true
    | _ => false

end Path

end PolicyEditor
