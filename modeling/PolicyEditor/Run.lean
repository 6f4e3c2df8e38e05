import PolicyEditor.Discovery
import PolicyEditor.FileSystem
import PolicyEditor.Job.Apply

/-!
# Runs

A run loads a policy, applies the jobs of job files one after the other in memory, and writes the
files that were edited.  The first failure ends it; before the first file is written, the policy
on disk is unchanged.

## Main definitions

* `Repository.load` : the repository of a policy on disk.
* `Repository.runJobs` : apply job files.
* `Repository.save` : write the files that were edited.
* `run` : all of this.
-/

namespace PolicyEditor

variable {m : Type → Type} [Monad m] [MonadExceptOf PolicyError m] {α : Type}

/-- The configuration of the policy below a root.  Without a file for it the default is in use. -/
def Config.load (fs : FileSystem m α) (root : Path) : m Config := do
  let path := root.join ⟨fileName⟩
  if ← fs.hasFile path then MonadExcept.ofExcept (parse (← fs.readText path)) else return default

/-- The paths of the policy files below a root, relative to it. -/
def Config.findFiles (config : Config) (fs : FileSystem m α) (root : Path) : m (List Path) := do
  match ← fs.directory? root with
  | some directory => return config.policyFiles directory
  | none => throw (.notFound (.directory root))

/-- The job of a job file. -/
def Job.load (fs : FileSystem m α) (path : Path) : m Job := do
  let text ← fs.readText path
  match parse text with
  | .ok job => return job
  | .error fault => throw (.json path text fault)

namespace Repository

/-- The repository with further files of the policy. -/
def loadFiles (fs : FileSystem m α) : List Path → Repository → m Repository
  | [], repo => return repo
  | path :: paths, repo => do
    let text ← fs.readText (repo.root.join path)
    loadFiles fs paths (← MonadExcept.ofExcept (repo.addFile path text))

/-- The repository of the policy below a root. -/
def load (fs : FileSystem m α) (root : Path) : m Repository := do
  let config ← Config.load fs root
  let paths ← config.findFiles fs root
  loadFiles fs paths { root }

/-- The repository after the jobs of job files. -/
def runJobs (fs : FileSystem m α) : List Path → Repository → m Repository
  | [], repo => return repo
  | path :: paths, repo => do
    let job ← Job.load fs path
    match job.apply.run repo with
    | .ok _ repo => runJobs fs paths repo
    | .error e _ => throw e

/-- Write files one after the other. -/
def writeFiles (fs : FileSystem m α) : List (Path × String) → m Unit
  | [] => return
  | (path, text) :: files => do
    fs.writeText path text
    writeFiles fs files

/-- Write the files that were edited. -/
def save (fs : FileSystem m α) (repo : Repository) : m Unit :=
  writeFiles fs (repo.renderDirty.map fun file => (repo.root.join file.1, file.2))

end Repository

/-- Apply job files to the policy below `root`, and write the files that were edited unless the run
is a dry one.  It yields the paths of these files. -/
def run (fs : FileSystem m α) (root : Path) (jobs : List Path) (dryRun : Bool) :
    m (List Path) := do
  let repo ← Repository.runJobs fs jobs (← Repository.load fs root)
  if !dryRun then repo.save fs
  return repo.dirtyPaths.map root.join

end PolicyEditor
