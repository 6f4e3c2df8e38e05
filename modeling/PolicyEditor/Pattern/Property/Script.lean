import PolicyEditor.Pattern.Class
import PolicyEditor.Text.ScriptTable
import PolicyEditor.Text.SharedTable

/-!
# Character classes by script

Every character belongs to one script.  Some characters are used with several scripts, or with other
ones than their own.

## Main definitions

* `CharClass.ofScriptName?` : the characters that belong to a script.
* `CharClass.ofExtensionName?` : the characters that a script uses.
-/

namespace PolicyEditor

/-- The script of a name. -/
def Text.ScriptEntry.ofName? (name : String) : Option Text.ScriptEntry :=
  Text.scripts.find? (·.names.contains name)

/-- The ranges of the shared characters that a script uses. -/
def Text.ScriptEntry.sharedRanges (script : Text.ScriptEntry) : List (Nat × Nat) :=
  (Text.sharedEntries.filter fun entry => entry.scripts.any script.names.contains).map
    fun entry => (entry.first, entry.last)

namespace CharClass

/-- The characters that belong to some scripts, given by their names. -/
def ofScripts (names : List String) : CharClass :=
  ofRanges ((names.filterMap Text.ScriptEntry.ofName?).flatMap (·.ranges))

/-- The characters that belong to a script. -/
def ofScriptName? (name : String) : Option CharClass :=
  (Text.ScriptEntry.ofName? name).map fun script => ofRanges script.ranges

/-- The characters that a script uses: those that belong to it and are not shared, and the shared
ones for which it is listed. -/
def ofExtensionName? (name : String) : Option CharClass :=
  (Text.ScriptEntry.ofName? name).map fun script =>
    ((ofRanges script.ranges).difference (ofRanges Text.sharedRanges)).union
      (ofRanges script.sharedRanges)

end CharClass

end PolicyEditor
