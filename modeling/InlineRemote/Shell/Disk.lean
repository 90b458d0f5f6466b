import InlineRemote.Files.Fault
import InlineRemote.Files.Tree

/-! # Disks

A disk has names for numbered nodes: files, directories, links and devices.  Several names may stand
for one node, and a node lasts while something uses it.  A path is walked from the root name by
name; a link on the way leads on from where it stands. -/
namespace InlineRemote.Shell

/-- A device. -/
inductive Device where
  /-- It has nothing to read, and loses what is written. -/
  | nothing
  /-- It can take nothing. -/
  | full
  | zeros
  | noise
  /-- The terminal, which is not there. -/
  | terminal
  /-- A stream of the program that opens it. -/
  | stream (n : Nat)
  deriving DecidableEq, Repr

/-- What a node is. -/
inductive Matter where
  | file (content : String)
  /-- A program of the system, by its name. -/
  | program (name : String)
  | directory
  | link (target : String)
  | device (d : Device)
  /-- What was written to it and not read yet. -/
  | pipe (content : String)
  deriving DecidableEq, Repr

/-- A node of a disk: what it is, who may use it how, and when it changed, in microseconds. -/
structure Node where
  matter : Matter
  mode : Nat
  time : Nat := 0
  deriving DecidableEq, Repr

/-- A disk. -/
structure Disk where
  /-- The numbers of the nodes that places stand for. -/
  names : List (Place × Nat)
  nodes : List (Nat × Node)
  /-- A number that no node has, nor any after it. -/
  free : Nat
  deriving Repr

/-- Where a path leads: the place, and the node that stands there, if there is one. -/
structure Site where
  place : Place
  node? : Option Nat
  deriving DecidableEq, Repr

namespace Disk

def empty : Disk :=
  { names := [([], 0)], nodes := [(0, { matter := .directory, mode := 493 })], free := 1 }

def at? (d : Disk) (p : Place) : Option Nat :=
  d.names.lookup p

def node? (d : Disk) (i : Nat) : Option Node :=
  d.nodes.lookup i

def matter? (d : Disk) (p : Place) : Option Matter :=
  ((d.at? p).bind d.node?).map Node.matter

def isDirectory (d : Disk) (p : Place) : Bool :=
  d.matter? p = some .directory

/-- Walks from a place along names, in at most so many steps and through at most so many links.  A
link at the end is followed if wanted; the last name may be new. -/
def walk (d : Disk) (follow : Bool) : Nat → Nat → Place → List String → Except Fault Site
  | 0, _, _, _ => .error .tooManyLinks
  | _ + 1, _, p, [] => .ok ⟨p, d.at? p⟩
  | n + 1, links, p, name :: rest =>
    if !d.isDirectory p then .error .notDirectory
    else if name = "" ∨ name = "." then d.walk follow n links p rest
    else if name = ".." then d.walk follow n links p.dropLast rest
    else if FileTree.isTooLong name then .error .nameTooLong
    else
      let q := p ++ [name]
      match d.at? q with
      | none => if rest.all (· = "") then .ok ⟨q, none⟩ else .error .notFound
      | some i =>
        match (d.node? i).map Node.matter, follow || rest ≠ [] with
        | some (.link target), true =>
          match links with
          | 0 => .error .tooManyLinks
          | links + 1 =>
            let start := if target.toList.head? = some '/' then [] else p
            d.walk follow n links start (FileTree.names target ++ rest)
        | _, _ => d.walk follow n links q rest

def site (d : Disk) (follow : Bool) (directory : Place) (path : String) : Except Fault Site :=
  if path = "" then .error .notFound
  else if 4095 < path.utf8ByteSize then .error .nameTooLong
  else
    let start := if path.toList.head? = some '/' then [] else directory
    d.walk follow 10000 40 start (FileTree.names path)

def find (d : Disk) (follow : Bool) (directory : Place) (path : String) :
    Except Fault (Place × Nat × Node) :=
  match d.site follow directory path with
  | .error fault => .error fault
  | .ok ⟨p, some i⟩ =>
    match d.node? i with
    | some node => .ok (p, i, node)
    | none => .error .notFound
  | .ok ⟨_, none⟩ => .error .notFound

def change (d : Disk) (i : Nat) (f : Node → Node) : Disk :=
  { d with nodes := d.nodes.map fun (j, node) => if j = i then (j, f node) else (j, node) }

def create (d : Disk) (p : Place) (node : Node) : Nat × Disk :=
  (d.free,
    { names := (p, d.free) :: d.names, nodes := (d.free, node) :: d.nodes, free := d.free + 1 })

def link (d : Disk) (p : Place) (i : Nat) : Disk :=
  { d with names := (p, i) :: d.names }

def unlink (d : Disk) (p : Place) : Disk :=
  { d with names := d.names.filter (·.1 ≠ p) }

def prune (d : Disk) (p : Place) : Disk :=
  { d with names := d.names.filter fun e => !p.isPrefixOf e.1 }

def move (d : Disk) (p q : Place) : Disk :=
  { d with names := d.names.map fun (r, i) =>
      if p.isPrefixOf r then (q ++ r.drop p.length, i) else (r, i) }

def links (d : Disk) (i : Nat) : Nat :=
  (d.names.filter (·.2 = i)).length

def list (d : Disk) (p : Place) : List String :=
  let names := d.names.filterMap fun (q, _) =>
    if q.length = p.length + 1 ∧ p.isPrefixOf q then q.getLast? else none
  names.mergeSort (· ≤ ·)

def lay (matter : Matter) (mode : Nat) (d : Disk) (path : String) : Disk :=
  (d.create (FileTree.placeOf path) { matter, mode }).2

end Disk

end InlineRemote.Shell
