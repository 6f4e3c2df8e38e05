import PolicyEditor.Definition
import PolicyEditor.Json.Fault
import PolicyEditor.Path
import PolicyEditor.Text.Position
import PolicyEditor.Token.Cursor

/-!
# Errors

Every failure of loading, editing or writing a policy is a `PolicyError`, which tells its cause.
The wording of all causes is in this file.

## Main definitions

* `PolicyError` : the failures, by kind.
* `PolicyError.message` : the wording of a failure.
* `Edit` : a change of a state that may fail and then leaves the state as far as it came.
* `Edit.focus`, `Edit.atIndex` : edits of parts of a state.
-/

namespace PolicyEditor

/-- The service or rule that an edit was about. -/
inductive Context where
  | service (name : String)
  | rule (number : Int) (service : String)
deriving DecidableEq, Repr

/-- The wording of a context. -/
def Context.describe : Context → String
  | service name => name
  | rule number name => s!"rule {number} of {name}"

/-- What could not be found. -/
inductive Missing where
  | definition (name : String)
  | rule (number : Int) (service : String) (count : Nat)
  | element (element : Element) (role : Role) (context : Context)
  | protocol (text : String) (context : Context)
  /-- The objects of a text, on both sides of a rule. -/
  | server (objects : String) (context : Context)
  | networkWithAddress (address : String)
  | directory (root : Path)

/-- The wording of something missing. -/
def Missing.describe : Missing → String
  | definition name => name
  | rule number service count =>
    (Context.rule number service).describe ++
      s!": invalid rule_num {number}, have {count} rules"
  | element e role context => s!"{e.render} in '{role.keyword}' of {context.describe}"
  | protocol text context => s!"'{text}' in 'prt' of {context.describe}"
  | server objects context => s!"{objects} in {context.describe}"
  | networkWithAddress address => s!"network with 'ip = {address}'"
  | directory root => s!"policy directory {root.text}"

/-- What exists already. -/
inductive Duplicate where
  | definition (name : String)
  | host (host network : String)
deriving DecidableEq, Repr

/-- The wording of something that exists already. -/
def Duplicate.describe : Duplicate → String
  | definition name => name
  | host name network => s!"{name} in {network}"

/-- An argument of a job that cannot be used. -/
inductive BadArgument where
  | definitionCount (count : Nat)
  | unknownMethod (name : String)
  | params (method : String) (mismatch : Json.Mismatch)
  | action (text : String)
  | userSide (text : String)
  | address (text : String)
  | mask (text : String)
  | fileName (path : Path)
  | hostWithoutBlock (host : String)
  | protocolsNotList (context : Context)
  /-- The caller of an edit refuses to go on. -/
  | refused (reason : String)

/-- The wording of an argument that cannot be used. -/
def BadArgument.describe : BadArgument → String
  | definitionCount count => s!"Expected exactly one definition, got {count}"
  | unknownMethod name => s!"Unknown method '{name}'"
  | params method mismatch => s!"Invalid params of '{method}': {mismatch.message}"
  | action text => s!"Invalid 'action': '{text}'"
  | userSide text => s!"Invalid 'user': '{text}'"
  | address text => s!"Invalid IP address: '{text}'"
  | mask text => s!"Invalid IP mask: '{text}'"
  | fileName path =>
    s!"Invalid file name '{path.text}', must be a relative path inside the policy"
  | hostWithoutBlock host => s!"{host} has no attribute block"
  | protocolsNotList context => s!"'prt' of {context.describe} is not a value list"
  | refused reason => reason

/-- What the file system refuses to do. -/
inductive IoCause where
  | notFound
  | busy
  | present
  | notDirectory
  | isDirectory
  | notText
  /-- A name or a whole path is too long. -/
  | tooLong
  /-- A null character does not let a path be read, nor a directory be made there. -/
  | nullCharacter
  /-- A file cannot get a name with a null character. -/
  | invalidName
  /-- Any other reason, in the words of the system. -/
  | other (text : String)
deriving DecidableEq, Repr

/-- The wording of the file system. -/
def IoCause.describe : IoCause → String
  | notFound => "No such file or directory (os error 2)"
  | busy => "Device or resource busy (os error 16)"
  | present => "File exists (os error 17)"
  | notDirectory => "Not a directory (os error 20)"
  | isDirectory => "Is a directory (os error 21)"
  | notText => "stream did not contain valid UTF-8"
  | tooLong => "File name too long (os error 36)"
  | nullCharacter => "file name contained an unexpected NUL byte"
  | invalidName => "Invalid argument (os error 22)"
  | other text => text

/-- What is wrong with a configuration file. -/
inductive BadConfig where
  | line (text : String)
  | pattern
deriving DecidableEq, Repr

/-- The wording of a fault of a configuration file. -/
def BadConfig.describe : BadConfig → String
  | line text => s!"Expected 'key = value;', got '{text}'"
  | pattern => "Invalid regex for ignore_files"

/-- A failure of loading, editing or writing a policy. -/
inductive PolicyError where
  /-- A text is not in the policy language. -/
  | parse (file : String) (place : Position) (cause : Cursor.Cause)
  | notFound (what : Missing)
  | alreadyExists (what : Duplicate)
  /-- A definition has another kind than the edit needs. -/
  | typeMismatch (name : String) (wanted found : Kind)
  | invalidArgument (what : BadArgument)
  /-- A job file does not hold a job. -/
  | json (file : Path) (text : String) (fault : Json.Fault)
  | io (path : Path) (cause : IoCause)
  | config (cause : BadConfig)

/-- The wording of a failure. -/
def PolicyError.message : PolicyError → String
  | parse file place cause => s!"{file}:{place.line}:{place.column}: {cause.message}"
  | notFound what => s!"Can't find {what.describe}"
  | alreadyExists what => s!"Duplicate definition of {what.describe}"
  | typeMismatch name wanted found =>
    s!"{name} is {found.describe}, expected {wanted.describe}"
  | invalidArgument what => what.describe
  | json file text fault => s!"In JSON file {file.text}: {fault.message text.toList}"
  | io path cause => s!"{path.text}: {cause.describe}"
  | config cause => s!"Invalid config: {cause.describe}"

/-- The failure of reading `text`, which messages call `file`. -/
def Cursor.Fault.locate (file : String) (text : List Char) (fault : Cursor.Fault) : PolicyError :=
  .parse file ((LineIndex.ofText text).position fault.offset) fault.cause

/-- A change of a state that yields a value or fails.  A failed change leaves the state as far as it
came. -/
abbrev Edit (σ : Type) := EStateM PolicyError σ

/-- The edit that changes nothing and yields what `r` yields. -/
def Edit.ofExcept {σ α : Type} (r : Except PolicyError α) : Edit σ α :=
  match r with
  | .ok a => pure a
  | .error e => throw e

/-- An edit of a part of a state. -/
def Edit.focus {σ τ α : Type} (get : σ → τ) (set : σ → τ → σ) (edit : Edit τ α) : Edit σ α :=
  fun s =>
    match edit (get s) with
    | .ok a t => .ok a (set s t)
    | .error e t => .error e (set s t)

/-- An edit of the item at an index of a list, which fails with `missing` behind its end. -/
def Edit.atIndex {σ α : Type} (missing : PolicyError) (edit : Edit σ α) : Nat → Edit (List σ) α
  | _, [] => .error missing []
  | 0, s :: ss =>
    match edit s with
    | .ok a s => .ok a (s :: ss)
    | .error e s => .error e (s :: ss)
  | i + 1, s :: ss =>
    match Edit.atIndex missing edit i ss with
    | .ok a ss => .ok a (s :: ss)
    | .error e ss => .error e (s :: ss)

end PolicyEditor
