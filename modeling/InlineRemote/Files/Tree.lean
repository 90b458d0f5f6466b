import InlineRemote.Files.Fault
import InlineRemote.Files.Path

/-! # File trees

A file tree lists what stands at each place below the root.  A place is a list of names.  A path is
walked from the root name by name: every name but the last must be a directory, `.` stays, and `..`
goes one place up.  What a file holds is kept as text, or as the fact that it is no text.

Reading a path that ends in a slash asks for a directory and fails on a file.  Writing such a path
never creates a file, so it fails alike whether or not something is there. -/
namespace InlineRemote

/-- What stands at a place. -/
inductive FileNode where
  | text (content : String)
  /-- A file whose bytes are no text. -/
  | binary
  | directory
  deriving DecidableEq, Repr

abbrev Place := List String

/-- The nodes of a file system by their places.  The root is always a directory. -/
structure FileTree where
  nodes : List (Place × FileNode) := []
  deriving Repr

namespace FileTree

def node? (t : FileTree) (p : Place) : Option FileNode :=
  if p = [] then some .directory else t.nodes.lookup p

def isDirectory (t : FileTree) (p : Place) : Bool :=
  t.node? p = some .directory

def put (t : FileTree) (p : Place) (n : FileNode) : FileTree :=
  ⟨(p, n) :: t.nodes.filter (·.1 ≠ p)⟩

def remove (t : FileTree) (p : Place) : FileTree :=
  ⟨t.nodes.filter fun e => !p.isPrefixOf e.1⟩

/-- The names of a path; an empty name asks for a directory, as `.` does. -/
def names (path : String) : List String :=
  (path.toList.splitOn '/').map String.ofList

def isTooLong (name : String) : Bool :=
  255 < name.utf8ByteSize

/-- Why a path is not even looked at: it holds a zero, or it is longer than a path can be. -/
def refusal? (path : String) : Option Fault :=
  if path.toList.contains '\x00' then some .zeroInPath
  else if 4095 < path.utf8ByteSize then some .nameTooLong
  else none

/-- Walks from a place along names to a place where something stands. -/
def walk (t : FileTree) (p : Place) : List String → Except Fault Place
  | [] => .ok p
  | n :: ns =>
    if !t.isDirectory p then .error .notDirectory
    else if n = "" ∨ n = "." then t.walk p ns
    else if n = ".." then t.walk p.dropLast ns
    else if isTooLong n then .error .nameTooLong
    else if (t.node? (p ++ [n])).isNone then .error .notFound
    else t.walk (p ++ [n]) ns

def resolve (t : FileTree) (path : String) : Except Fault Place :=
  match refusal? path with
  | some fault => .error fault
  | none => if path = "" then .error .notFound else t.walk [] (names path)

def isThere (t : FileTree) (path : String) : Bool :=
  (t.resolve path).isOk

def read (t : FileTree) (path : String) : Except Fault String :=
  match t.resolve path with
  | .error fault => .error fault
  | .ok p =>
    match t.node? p with
    | some (.text content) => .ok content
    | some .binary => .error .notText
    | some .directory => .error .isDirectory
    | none => .error .notFound

/-- The place of the file that a name stands for in a directory; no file is named `.` or `..`. -/
def filePlace (t : FileTree) (p : Place) (name : String) : Except Fault Place :=
  if !t.isDirectory p then .error .notDirectory
  else if name = "." ∨ name = ".." then .error .isDirectory
  else if isTooLong name then .error .nameTooLong
  else if t.isDirectory (p ++ [name]) then .error .isDirectory
  else .ok (p ++ [name])

/-- The place of the file that writing to a path creates or replaces. -/
def target (t : FileTree) (path : String) : Except Fault Place :=
  match refusal? path, (names path).reverse with
  | some fault, _ => .error fault
  | none, [] | none, [""] => .error .notFound
  | none, "" :: upper =>
    match t.walk [] ((upper.dropWhile (· = "")).drop 1).reverse with
    | .error fault => .error fault
    | .ok p => .error (if t.isDirectory p then .isDirectory else .notDirectory)
  | none, last :: upper =>
    match t.walk [] upper.reverse with
    | .error fault => .error fault
    | .ok p => t.filePlace p last

def write (t : FileTree) (path content : String) : Except Fault FileTree :=
  match t.target path with
  | .error fault => .error fault
  | .ok p => .ok (t.put p (.text content))

/-- Creates the directories along names that are not there yet. -/
def makeAlong (t : FileTree) (p : Place) : List String → Except Fault FileTree
  | [] => .ok t
  | n :: ns =>
    if !t.isDirectory p then .error .notDirectory
    else if n = "" ∨ n = "." then t.makeAlong p ns
    else if n = ".." then t.makeAlong p.dropLast ns
    else if isTooLong n then .error .nameTooLong
    else
      match t.node? (p ++ [n]) with
      | none => (t.put (p ++ [n]) .directory).makeAlong (p ++ [n]) ns
      | some .directory => t.makeAlong (p ++ [n]) ns
      | some _ => if ns = [] then .error .alreadyExists else .error .notDirectory

def makeDirectories (t : FileTree) (path : String) : Except Fault FileTree :=
  match refusal? path with
  | some fault => .error fault
  | none => t.makeAlong [] (names path)

def placeOf (path : String) : Place :=
  (names path).filter fun n => n ≠ "" ∧ n ≠ "."

def withDirectories (t : FileTree) (p : Place) : FileTree :=
  (List.range (p.length + 1)).foldl
    (fun t n => if t.isDirectory (p.take n) then t else t.put (p.take n) .directory) t

/-- Lays a node down at a path, with the directories above it; `none` clears the path. -/
def lay (t : FileTree) (path : String) (n : Option FileNode) : FileTree :=
  let p := placeOf path
  match n with
  | none => t.remove p
  | some .directory => t.withDirectories p
  | some n => ((t.remove p).withDirectories p.dropLast).put p n

end FileTree

end InlineRemote
