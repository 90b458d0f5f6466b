import InlineRemote.Shell.Session

/-! # Looking for programs

A word with a slash is the path of a program.  Any other word is looked for in the directories of
the search path. -/
namespace InlineRemote.Shell

/-- What a path leads to when it is run. -/
inductive Runnable where
  | program (name : String)
  | script (text : String)
  deriving DecidableEq, Repr

namespace Session

def runnable (s : Session) (path : String) : Except Fault Runnable :=
  match s.find path with
  | .error fault => .error fault
  | .ok (_, _, node) =>
    match node.matter with
    | .program name => if node.mode &&& 73 = 0 then .error .permissionDenied else .ok (.program name)
    | .file text => if node.mode &&& 73 = 0 then .error .permissionDenied else .ok (.script text)
    | _ => .error .permissionDenied

def fileAt? (s : Session) (path : String) : Option Bool :=
  match s.find path with
  | .ok (_, _, node) =>
    match node.matter with
    | .file _ | .program _ => some (node.mode &&& 73 ≠ 0)
    | _ => none
  | .error _ => none

def candidates (searched : String) (name : String) : List String :=
  (Host.directories searched).map fun d => if d = "" then "./" ++ name else d ++ "/" ++ name

/-- The path of a word in a search path.  A file that may not be run counts if there is no other. -/
def searched? (s : Session) (searched word : String) : Option String :=
  let there := candidates searched word
  (there.find? fun path => s.fileAt? path = some true).or
    (if s.extended then there.find? fun path => (s.fileAt? path).isSome else none)

def searchPath (s : Session) : String :=
  (s.value? "PATH").getD ""

def locate? (s : Session) (word : String) : Option String :=
  if word.toList.contains '/' then some word
  else if word = "" then none
  else
    match s.known.lookup word with
    | some path => if (s.fileAt? path).isSome then some path else s.searched? s.searchPath word
    | none => s.searched? s.searchPath word

/-- The path of the program that a word stands for to another program, which looks in two
directories if no search path is set. -/
def program? (s : Session) (word : String) : Option String :=
  if word.toList.contains '/' then some word
  else if word = "" then none
  else s.searched? ((s.value? "PATH").getD "/bin:/usr/bin") word

end Session

end InlineRemote.Shell
