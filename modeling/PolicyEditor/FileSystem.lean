import PolicyEditor.FileTree.Access

/-!
# File systems

A run reads and writes files through a few operations, in any monad in which they can fail with a
`PolicyError`.  One instance works on a file tree in memory.

## Main definitions

* `FileSystem` : the operations on files that a run needs.
* `FileSystem.inMemory` : the operations on a file tree.
-/

namespace PolicyEditor

/-- The operations on files that a run needs.  Directories are listed with contents of type `α`. -/
structure FileSystem (m : Type → Type) (α : Type) where
  /-- There is a file at a path. -/
  hasFile : Path → m Bool
  /-- The tree below the directory at a path, if it is one. -/
  directory? : Path → m (Option (Directory α))
  /-- The text of a file. -/
  readText : Path → m String
  /-- Write a file as a whole.  Missing directories around it are made. -/
  writeText : Path → String → m Unit

namespace FileSystem

/-- A failure at a path. -/
def failure {β : Type} (path : Path) (r : Except IoCause β) : Except PolicyError β :=
  r.mapError (.io path)

/-- The tree with the file at a path written as a whole.  Missing directories around it are made,
and stay if the file cannot be written. -/
def writeInMemory (path : Path) (text : String) : Edit (Directory Content) Unit := do
  let parent := path.parent?.getD ⟨"."⟩
  set (← Edit.ofExcept (failure parent ((← get).makeDirectories parent)))
  set (← Edit.ofExcept (failure path ((← get).replaceFile path (.text text))))

/-- The operations on a file tree in memory. -/
def inMemory : FileSystem (Edit (Directory Content)) Content where
  hasFile path := return (← get).hasFile path
  directory? path := return (← get).directory? path
  readText path := do Edit.ofExcept (failure path ((← get).readText path))
  writeText := writeInMemory

end FileSystem

end PolicyEditor
