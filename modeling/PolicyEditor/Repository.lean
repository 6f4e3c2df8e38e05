import PolicyEditor.Definition.Order
import PolicyEditor.Definition.Printer
import PolicyEditor.Source

/-!
# Repositories

A repository holds all policy files of a directory, and an index from the names of definitions to
the files that hold them.  If files define a name more than once, the index keeps the first one.
Edits change the forests in memory and mark the files that have to be written.

## Main definitions

* `PolicyFile`, `Repository` : the files and their index.
* `Repository.ofSources` : the repository of the given texts.
* `Repository.lookup` : the definition of a name.
* `Repository.modifyNamed`, `Repository.modifyMatching` : edit definitions in place.
* `Repository.create`, `Repository.delete` : add and remove definitions.
* `Repository.renderDirty` : the texts to be written.
-/

namespace PolicyEditor

/-- A policy file that was loaded or is new. -/
structure PolicyFile where
  /-- The path below the root of the policy. -/
  path : Path
  /-- The text from which the forest was parsed, empty for a new file. -/
  source : String := ""
  forest : Forest := {}
  /-- The forest was edited. -/
  dirty : Bool := false

/-- The text of a file. -/
def PolicyFile.render (f : PolicyFile) : String :=
  f.forest.render f.source

/-- The policy files below a root directory. -/
structure Repository where
  root : Path
  /-- The files in the order in which they were loaded or made. -/
  files : List PolicyFile := []
  /-- The path of the file that holds the definition of a name. -/
  index : List (String × Path) := []

/-- A body of a certain kind, as a part of any body. -/
structure Variant (β : Type) where
  kind : Kind
  get? : Body → Option β
  set : β → Body

namespace Variant

/-- Structured definitions. -/
def struct : Variant Block where
  kind := .struct
  get? | .struct block => some block | _ => none
  set := .struct

/-- Networks. -/
def network : Variant Block where
  kind := .network
  get? | .network block => some block | _ => none
  set := .network

/-- Element lists. -/
def group : Variant Group where
  kind := .group
  get? | .group g => some g | _ => none
  set := .group

/-- Protocol definitions. -/
def protocol : Variant (List Value) where
  kind := .protocol
  get? | .protocol values => some values | _ => none
  set := .protocol

/-- Services. -/
def service : Variant Service where
  kind := .service
  get? | .service s => some s | _ => none
  set := .service

end Variant

namespace Repository

/-! ### Loading -/

/-- The index with the definitions of one more file; names that are known already stay. -/
def extendIndex (index : List (String × Path)) (path : Path) : List Definition →
    List (String × Path)
  | [] => index
  | d :: ds =>
    if index.any (·.1 == d.name) then extendIndex index path ds
    else extendIndex (index ++ [(d.name, path)]) path ds

/-- The files with one more file, which replaces a file of the same path. -/
def putFile (file : PolicyFile) : List PolicyFile → List PolicyFile
  | [] => [file]
  | f :: fs => if f.path.same file.path then file :: fs else f :: putFile file fs

/-- The repository with the file `path` of the given text. -/
def addFile (repo : Repository) (path : Path) (source : String) :
    Except PolicyError Repository := do
  let forest ← parseFile source path.text
  return { repo with
    index := extendIndex repo.index path forest.definitions
    files := putFile { path, source, forest } repo.files }

/-- The repository with the files of the given texts. -/
def addFiles (repo : Repository) : List (Path × String) → Except PolicyError Repository
  | [] => .ok repo
  | (path, source) :: files => do (← repo.addFile path source).addFiles files

/-- The repository of the given texts. -/
def ofSources (root : Path) (files : List (Path × String)) : Except PolicyError Repository :=
  addFiles { root } files

/-! ### Looking up -/

/-- The file of a path. -/
def file? (repo : Repository) (path : Path) : Option PolicyFile :=
  repo.files.find? (·.path.same path)

/-- All definitions in the order of files. -/
def definitions (repo : Repository) : List Definition :=
  repo.files.flatMap (·.forest.definitions)

/-- The path of the file that holds the definition of a name, according to the index. -/
def location? (repo : Repository) (name : String) : Option Path :=
  (repo.index.find? (·.1 == name)).map (·.2)

/-- The index knows a definition of the name. -/
def contains (repo : Repository) (name : String) : Bool :=
  (repo.location? name).isSome

/-- The definition of a name. -/
def lookup (repo : Repository) (name : String) : Except PolicyError Definition :=
  match ((repo.location? name).bind repo.file?).bind (·.forest.find? name) with
  | some d => .ok d
  | none => .error (.notFound (.definition name))

/-- The body of a definition, which has to be of the kind of `variant`. -/
def lookupAs {β : Type} (repo : Repository) (variant : Variant β) (name : String) :
    Except PolicyError β := do
  let d ← repo.lookup name
  match variant.get? d.body with
  | some body => return body
  | none => throw (.typeMismatch name variant.kind d.kind)

/-! ### Editing definitions in place -/

/-- An edit of every definition for which `p` holds.  It yields whether there is any. -/
def editMatching (p : Definition → Bool) (edit : Edit Definition Unit) :
    List Definition → EStateM.Result PolicyError (List Definition) Bool
  | [] => .ok false []
  | d :: ds =>
    if p d then
      match edit d with
      | .error e d => .error e (d :: ds)
      | .ok () d =>
        match editMatching p edit ds with
        | .error e ds => .error e (d :: ds)
        | .ok _ ds => .ok true (d :: ds)
    else
      match editMatching p edit ds with
      | .error e ds => .error e (d :: ds)
      | .ok hit ds => .ok hit (d :: ds)

/-- The file with its definitions edited.  It becomes dirty if all edits of it succeed. -/
def editFile (p : Definition → Bool) (edit : Edit Definition Unit) (f : PolicyFile) :
    EStateM.Result PolicyError PolicyFile Bool :=
  match editMatching p edit f.forest.definitions with
  | .error e ds => .error e { f with forest := { f.forest with definitions := ds } }
  | .ok hit ds =>
    .ok hit { f with forest := { f.forest with definitions := ds }, dirty := f.dirty || hit }

/-- An edit of every definition of some files for which `p` holds.  It yields the number of files
that hold such definitions, and ends with the first edit that fails. -/
def editFiles (p : Definition → Bool) (edit : Edit Definition Unit) :
    List PolicyFile → EStateM.Result PolicyError (List PolicyFile) Nat
  | [] => .ok 0 []
  | f :: fs =>
    match editFile p edit f with
    | .error e f => .error e (f :: fs)
    | .ok hit f =>
      match editFiles p edit fs with
      | .error e fs => .error e (f :: fs)
      | .ok touched fs => .ok (if hit then touched + 1 else touched) (f :: fs)

/-- Edit every definition for which `p` holds, and yield the number of files that hold any. -/
def modifyMatching (p : Definition → Bool) (edit : Edit Definition Unit) : Edit Repository Nat :=
  Edit.focus Repository.files (fun repo files => { repo with files }) (editFiles p edit)

/-- An edit of a definition that has to be of the kind of `variant`. -/
def editBody {β α : Type} (variant : Variant β) (edit : Edit β α) : Edit Definition α :=
  fun d =>
    match variant.get? d.body with
    | none => .error (.typeMismatch d.name variant.kind d.kind) d
    | some body =>
      match edit body with
      | .ok a body => .ok a { d with body := variant.set body }
      | .error e body => .error e { d with body := variant.set body }

/-- An edit of the first definition of the given name. -/
def editNamed {α : Type} (name : String) (edit : Edit Definition α) :
    List Definition → EStateM.Result PolicyError (List Definition) α
  | [] => .error (.notFound (.definition name)) []
  | d :: ds =>
    if d.name = name then
      match edit d with
      | .ok a d => .ok a (d :: ds)
      | .error e d => .error e (d :: ds)
    else
      match editNamed name edit ds with
      | .ok a ds => .ok a (d :: ds)
      | .error e ds => .error e (d :: ds)

/-- An edit of the definitions of a file, which becomes dirty if it succeeds. -/
def editDefinitions {α : Type} (edit : Edit (List Definition) α) : Edit PolicyFile α :=
  fun f =>
    match edit f.forest.definitions with
    | .ok a ds => .ok a { f with forest := { f.forest with definitions := ds }, dirty := true }
    | .error e ds => .error e { f with forest := { f.forest with definitions := ds } }

/-- An edit of the file `path`; without such a file the definition `name` is missing. -/
def editPath {α : Type} (path : Path) (name : String) (edit : Edit PolicyFile α) :
    List PolicyFile → EStateM.Result PolicyError (List PolicyFile) α
  | [] => .error (.notFound (.definition name)) []
  | f :: fs =>
    if f.path.same path then
      match edit f with
      | .ok a f => .ok a (f :: fs)
      | .error e f => .error e (f :: fs)
    else
      match editPath path name edit fs with
      | .ok a fs => .ok a (f :: fs)
      | .error e fs => .error e (f :: fs)

/-- Edit the definitions of the file that holds the definition `name` according to the index. -/
def editHolder {α : Type} (name : String) (edit : Edit (List Definition) α) :
    Edit Repository α := do
  match (← get).location? name with
  | none => throw (.notFound (.definition name))
  | some path =>
    Edit.focus Repository.files (fun repo files => { repo with files })
      (editPath path name (editDefinitions edit))

/-- Edit the definition `name`, which has to be of the kind of `variant`. -/
def modifyNamed {β α : Type} (variant : Variant β) (name : String) (edit : Edit β α) :
    Edit Repository α :=
  editHolder name (editNamed name (editBody variant edit))

/-! ### Adding and removing definitions -/

/-- The definitions with a new one at its sorted place. -/
def insertDefinition (d : Definition) (ds : List Definition) : List Definition :=
  ds.insertIdx (d.insertionIndex ds) d

/-- The file with a new definition at its sorted place. -/
def insertInto (d : Definition) (f : PolicyFile) : PolicyFile :=
  let forest := { f.forest with definitions := insertDefinition d f.forest.definitions }
  { f with forest, dirty := true }

/-- The files with a new definition in the file `path`, which is made if it does not exist. -/
def insertAt (path : Path) (d : Definition) : List PolicyFile → List PolicyFile
  | [] => [insertInto d { path }]
  | f :: fs => if f.path.same path then insertInto d f :: fs else f :: insertAt path d fs

/-- Insert a new definition into the file `path` at its sorted place. -/
def create (path : Path) (d : Definition) : Edit Repository Unit := do
  let repo ← get
  if !path.isInside then throw (.invalidArgument (.fileName path))
  else if repo.contains d.name then throw (.alreadyExists (.definition d.name))
  else
    set { repo with
      files := insertAt path d repo.files
      index := repo.index ++ [(d.name, path)] }

/-- Remove the first definition of the given name from a list, and yield it. -/
def removeNamed (name : String) : Edit (List Definition) Definition := fun ds =>
  match ds.find? (·.name == name) with
  | some d => .ok d (ds.eraseP (·.name == name))
  | none => .error (.notFound (.definition name)) ds

/-- Remove the definition `name` from the file that holds it, and yield it. -/
def delete (name : String) : Edit Repository Definition := do
  let d ← editHolder name (removeNamed name)
  modifyGet fun repo => (d, { repo with index := repo.index.filter (·.1 != name) })

/-! ### Results -/

/-- The files that were edited. -/
def dirtyFiles (repo : Repository) : List PolicyFile :=
  repo.files.filter (·.dirty)

/-- The paths of the files that were edited. -/
def dirtyPaths (repo : Repository) : List Path :=
  repo.dirtyFiles.map (·.path)

/-- The texts of the files that were edited. -/
def renderDirty (repo : Repository) : List (Path × String) :=
  repo.dirtyFiles.map fun f => (f.path, f.render)

end Repository

end PolicyEditor
