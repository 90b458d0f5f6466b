import InlineRemote.Files.Tree
import InlineRemote.Status

/-! # Saving the status file

The directory of the file is created first, and then the file is written, unless the system refuses
to.  A failure of either step leaves a warning. -/
namespace InlineRemote.Status

/-- The files with the directory above a path, and the warning if it cannot be created. -/
def makeParent (path : String) (files : FileTree) : FileTree × Option String :=
  match Path.parent? path.toList with
  | none => (files, none)
  | some parent =>
    match files.makeDirectories (String.ofList parent) with
    | .ok files => (files, none)
    | .error fault =>
      (files, some ("Failed to create directory " ++ String.ofList parent ++ ": " ++ fault.message))

def writeWarning (fault : Fault) : String :=
  "Failed to write status file: " ++ fault.message

/-- The files after the status was saved at a path, and the warning if it was not.  The fault is
that of a system that refuses to write the file. -/
def save (s : Status) (path : String) (files : FileTree) (refusal? : Option Fault := none) :
    FileTree × Option String :=
  match makeParent path files with
  | (files, some warning) => (files, some warning)
  | (files, none) =>
    match refusal?.elim (files.write path s.text) .error with
    | .ok files => (files, none)
    | .error fault => (files, some (writeWarning fault))

end InlineRemote.Status
