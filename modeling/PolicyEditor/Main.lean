import PolicyEditor.CommandLine

/-!
# The program

This file binds the command line to the files on disk.

## Main definitions

* `onDisk` : the operations on the files on disk.
* `main` : the program.
-/

namespace PolicyEditor

/-- A program that uses the files on disk and may fail. -/
abbrev Program := EIO PolicyError

/-- The reason for which the system refuses to do something. -/
def IoCause.ofError : IO.Error → IoCause
  | .noFileOrDirectory .. => .notFound
  | .resourceBusy .. => .busy
  | .alreadyExists .. => .present
  | .inappropriateType _ 21 _ => .isDirectory
  | .inappropriateType .. => .notDirectory
  | .invalidArgument _ 36 _ => .tooLong
  | .invalidArgument .. => .invalidName
  | e => .other (toString e)

/-- An operation on a path, in which null characters are refused with the cause `null`. -/
def Program.access {α : Type} (path : Path) (action : IO α)
    (null : IoCause := .nullCharacter) : Program α := do
  match path.check null with
  | .ok _ => IO.toEIO (fun e => .io path (.ofError e)) action
  | .error cause => throw (.io path cause)

/-- The type of the file at a path, or behind a link there. -/
def fileType? (path : Path) : Program (Option IO.FS.FileType) :=
  (do
    let file ← IO.FS.realPath path.text
    return some (← file.metadata).type).catchExceptions fun _ => pure none

/-- The entries of a directory whose names are texts.  Links are not followed. -/
partial def readDirectory (path : Path) : IO (Directory Unit) := do
  let entries ← (← IO.FS.realPath path.text).readDir
  let nodes ← entries.toList.mapM fun entry => do
    match ← entry.path.symlinkMetadata.toBaseIO with
    | .ok metadata =>
      match metadata.type with
      | .file => return [⟨entry.fileName, .file ()⟩]
      | .dir => return [⟨entry.fileName, .directory (← readDirectory (path.join ⟨entry.fileName⟩))⟩]
      | _ => return []
    -- A name that is no text comes with marks in place of its bytes, and nothing has such a name.
    | .error (.noFileOrDirectory ..) => return []
    | .error e => throw e
  return nodes.flatten

/-- Write a file under another name in the same directory, and rename it. -/
def replaceOnDisk (parent path : Path) (text : String) : IO Unit := do
  let draft := (parent.join ⟨s!".draft{← IO.rand 0 1000000000}"⟩).text
  IO.FS.writeFile draft text
  try IO.FS.rename draft path.text
  catch e =>
    IO.FS.removeFile draft
    throw e

/-- The operations on the files on disk. -/
def onDisk : FileSystem Program Unit where
  hasFile path := return (← fileType? path) == some .file
  directory? path := do
    if (← fileType? path) == some .dir then
      return some (← Program.access path (readDirectory path))
    else return none
  readText path := do
    match String.fromUTF8? (← Program.access path (IO.FS.readBinFile path.text)) with
    | some text => return text
    | none => throw (.io path .notText)
  writeText path text := do
    let parent := path.parent?.getD ⟨"."⟩
    Program.access parent (IO.FS.createDirAll parent.text)
    Program.access path (replaceOnDisk parent path text) .invalidName

end PolicyEditor

open PolicyEditor

/-- Apply the job files of the command line. -/
def main (args : List String) : IO UInt32 := do
  match ← (execute onDisk args).toBaseIO with
  | .ok outcome =>
    IO.print outcome.output
    IO.eprint outcome.errors
    return outcome.exitCode.toUInt32
  | .error e =>
    IO.eprint (Outcome.failed e).errors
    return 1
