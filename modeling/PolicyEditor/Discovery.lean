import PolicyEditor.Config
import PolicyEditor.FileTree
import PolicyEditor.Path

/-!
# Discovery of policy files

All files below the root of a policy belong to it, except those that are hidden or ignored, those
with a special meaning, and those on whose way there is a name that is no text in UTF-8.

## Main definitions

* `Path.ofPlace` : the path of a place.
* `Config.isPart` : a file or directory belongs to the policy.
* `Config.policyFiles` : the paths of the policy files.
-/

namespace PolicyEditor

/-- The path of a place whose names are texts. -/
def Path.ofPlace (place : List FileName) : Path :=
  ⟨"/".intercalate (place.filterMap FileName.text?)⟩

@[simp] theorem Path.ofPlace_map_ofText (names : List String) :
    ofPlace (names.map .ofText) = ⟨"/".intercalate names⟩ := by
  rw [ofPlace, FileName.filterMap_text?_map]

namespace Config

variable {α : Type}

/-- The name of the configuration file at the root of a policy. -/
def fileName : String := "config"

/-- The directory at the root of a policy that holds no policy files. -/
def rawName : String := "raw"

/-- A name that is left out: it is no text in UTF-8, it starts with a dot, or the configuration
ignores it. -/
def skips (config : Config) (name : FileName) : Bool :=
  match name.text? with
  | none => true
  | some text => text.toList.head? == some '.' || config.ignores text

/-- A file or directory at a place below the root belongs to the policy, if the directory around it
does. -/
def isPart (config : Config) (place : List FileName) (node : Node α) : Bool :=
  !(place.getLast?.any config.skips) &&
    place != [.ofText (if node.isFile then fileName else rawName)]

/-- The paths of the policy files below a root, relative to it. -/
def policyFiles (config : Config) (root : Directory α) : List Path :=
  (root.walk config.isPart).map fun file => .ofPlace file.1

end Config

end PolicyEditor
