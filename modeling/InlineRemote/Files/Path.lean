/-! # Paths

A path is a text whose components are separated by slashes.  Joining is textual: nothing is looked
up and nothing is simplified. -/
namespace InlineRemote.Path

def isAbsolute (p : List Char) : Bool :=
  p.head? = some '/'

def join (dir p : List Char) : List Char :=
  if isAbsolute p then p
  else if dir = [] ∨ dir.getLast? = some '/' then dir ++ p
  else dir ++ '/' :: p

/-- Drops the slashes and the pieces `.` at the end of a reversed path. -/
def dropTrailing : List Char → List Char
  | '/' :: s => dropTrailing s
  | ['.'] => ['.']
  | '.' :: '/' :: s => dropTrailing s
  | s => s

def parent? (p : List Char) : Option (List Char) :=
  match dropTrailing p.reverse with
  | [] => none
  | s =>
    let up := (dropTrailing (s.dropWhile (· ≠ '/'))).reverse
    some (if up = [] ∧ isAbsolute p then ['/'] else up)

def joinText (dir p : String) : String :=
  String.ofList (join dir.toList p.toList)

end InlineRemote.Path
