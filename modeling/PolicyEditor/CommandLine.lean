import PolicyEditor.Run
import PolicyEditor.Text.Pieces

/-!
# Command line

The command line is `[--root DIR] [--dry-run] JOB...`.  Options may follow jobs, and each may be
given once; behind `--` everything is a job.

## Main definitions

* `Invocation` : what the command line asks for.
* `Invocation.parse?` : the meaning of the arguments.
* `Invocation.execute` : the run that is asked for.
* `Outcome` : how the command ends, with its exit code and its texts.
-/

namespace PolicyEditor

/-- What the command line asks for. -/
structure Invocation where
  root : Path
  dryRun : Bool
  jobs : List Path
deriving DecidableEq, Repr

namespace Invocation

/-- The root directory if no other one is given. -/
def defaultRoot : Path := ⟨"netspoc"⟩

/-- What has been read of the arguments. -/
structure Arguments where
  root : Option Path := none
  dryRun : Bool := false
  jobs : List Path := []

namespace Arguments

/-- The arguments with a root directory.  Its name is not empty, and it is given once. -/
def addRoot? (a : Arguments) (value : String) : Option Arguments :=
  if a.root.isSome || value.isEmpty then none else some { a with root := some ⟨value⟩ }

/-- The arguments for a dry run.  This is asked for once. -/
def addDryRun? (a : Arguments) : Option Arguments :=
  if a.dryRun then none else some { a with dryRun := true }

/-- The arguments with a job, whose name is not empty. -/
def addJob? (a : Arguments) (name : String) : Option Arguments :=
  if name.isEmpty then none else some { a with jobs := a.jobs ++ [⟨name⟩] }

/-- The arguments with jobs. -/
def addJobs? (a : Arguments) : List String → Option Arguments
  | [] => some a
  | name :: names => (a.addJob? name).bind (·.addJobs? names)

end Arguments

/-- The argument is an option.  A dash alone is none. -/
def isOption (arg : String) : Bool :=
  match arg.toList with
  | '-' :: _ :: _ => true
  | _ => false

/-- The value that follows an option with an equals sign. -/
def attached? (option arg : String) : Option String :=
  match Text.cutAt? '=' arg.toList with
  | some (name, value) => if name = option.toList then some (String.ofList value) else none
  | none => none

/-- The arguments behind those that were read.  With `wanted` the next one is the value of the root
option. -/
def read? : (wanted : Bool) → List String → Arguments → Option Arguments
  | true, [], _ => none
  | false, [], a => some a
  | true, arg :: args, a => if isOption arg then none else (a.addRoot? arg).bind (read? false args)
  | false, arg :: args, a =>
    if !isOption arg then (a.addJob? arg).bind (read? false args)
    else if arg = "--" then a.addJobs? args
    else if arg = "--dry-run" then a.addDryRun?.bind (read? false args)
    else if arg = "--root" then read? true args a
    else ((attached? "--root" arg).bind a.addRoot?).bind (read? false args)

/-- The meaning of the arguments.  At least one job is needed. -/
def parse? (args : List String) : Option Invocation :=
  match read? false args {} with
  | some { root, dryRun, jobs := job :: jobs } =>
    some { root := root.getD defaultRoot, dryRun, jobs := job :: jobs }
  | _ => none

end Invocation

/-- How the command ends. -/
inductive Outcome where
  /-- The arguments have no meaning. -/
  | usage
  | failed (e : PolicyError)
  /-- The run came to its end; a dry run lists the files. -/
  | done (listed : List Path)

namespace Outcome

/-- The exit code of the command. -/
def exitCode : Outcome → Nat
  | done _ => 0
  | failed _ => 1
  | usage => 2

/-- The text on standard output. -/
def output : Outcome → String
  | done listed => String.join (listed.map fun path => path.text ++ "\n")
  | _ => ""

/-- The text on standard error. -/
def errors : Outcome → String
  | done _ => ""
  | failed e => s!"Error: {e.message}\n"
  | usage => "Usage: netspoc-worker [--root <DIR>] [--dry-run] <JOBS>...\n"

end Outcome

variable {m : Type → Type} [Monad m] [MonadExceptOf PolicyError m] {α : Type}

/-- The run that is asked for. -/
def Invocation.execute (fs : FileSystem m α) (i : Invocation) : m Outcome :=
  tryCatch
    (do
      let changed ← run fs i.root i.jobs i.dryRun
      return .done (if i.dryRun then changed else []))
    (fun e => return .failed e)

/-- The command with the given arguments. -/
def execute (fs : FileSystem m α) (args : List String) : m Outcome :=
  match Invocation.parse? args with
  | some i => i.execute fs
  | none => return .usage

end PolicyEditor
