import InlineRemote.Shell.Course

/-! # Opening files

A path is opened for reading or writing; what is then open is shared by all streams that lead to it.
A device may stand for a stream of the process itself. -/
namespace InlineRemote.Shell

def Fault.words (f : Fault) : String :=
  f.reason.1

namespace Act

def openNew (x : Stream) : Act (Except Fault Nat) := do
  let (i, s) := (← get).openStream x
  set s
  return .ok i

def openDevice (d : Device) : Act (Except Fault Nat) := do
  match d with
  | .nothing => openNew .nothing
  | .full => openNew .full
  | .zeros => openNew .zeros
  | .noise => openNew .noise
  | .terminal => return .error .noDevice
  | .stream n =>
    match (← get).descriptors.lookup n with
    | some i => return .ok i
    | none => return .error .notFound

def hasWriter (node : Nat) (s : Session) : Bool :=
  s.processes.any fun p =>
    p.exit.isNone && p.number ≠ s.current && p.holds.any fun i =>
      match s.streams.lookup i with
      | some (.file n _ _ writes _) => n = node && writes
      | _ => false

def openPipe (node : Nat) : Act (Except Fault Nat) := do
  await none fun s => s.content node ≠ "" && !hasWriter node s
  let s ← get
  set { s with disk := s.disk.change node fun x => { x with matter := .pipe "" } }
  openNew (.text (s.content node).toList)

def openNode (d : Direction) (i : Nat) (node : Node) : Act (Except Fault Nat) := do
  let s ← get
  let reads : Bool := d = .input || d = .both
  let writes : Bool := d ≠ .input
  let appends : Bool := d = .append || d = .all true
  match node.matter with
  | .device d => openDevice d
  | .directory => if writes then return .error .isDirectory else openNew .nothing
  | .pipe _ => if reads then openPipe i else openNew (.file i 0 false true true)
  | .link _ => return .error .tooManyLinks
  | .file _ | .program _ =>
    if d = .output false ∧ s.has 'C' then return .error .alreadyExists
    match d with
    | .output _ | .all false =>
      set { s with disk := s.disk.change i fun x => { x with matter := .file "", time := s.time } }
    | _ => pure ()
    openNew (.file i 0 reads writes appends)

def rights (full mask : Nat) : Nat :=
  full - (full &&& mask)

/-- Opens what a path leads to; a file that is written to is made if it is not there. -/
def openPath (d : Direction) (path : String) : Act (Except Fault Nat) := do
  let s ← get
  match s.disk.site true s.directory path with
  | .error fault => return .error fault
  | .ok ⟨p, none⟩ =>
    if d = .input then return .error .notFound
    if path.toList.getLast? = some '/' then return .error .isDirectory
    let node : Node := { matter := .file "", mode := rights 438 s.mask, time := s.time }
    let (i, disk) := s.disk.create p node
    set { s with disk }
    openNew (.file i 0 (d = .both) true (d = .append || d = .all true))
  | .ok ⟨_, some i⟩ =>
    match s.disk.node? i with
    | some node => openNode d i node
    | none => return .error .notFound

def readPath (path : String) : Act (Except Fault (List Char)) := do
  let s ← get
  match s.disk.find true s.directory path with
  | .error fault => return .error fault
  | .ok (_, _, node) =>
    if node.matter = .directory then return .error .isDirectory
    match ← openPath .input path with
    | .error fault => return .error fault
    | .ok i =>
      let before := (← get).descriptors
      modify (·.lead 255 (some i))
      let text ← readAll 255
      modify ({ · with descriptors := before })
      return .ok text

/-- Writes a text to a file in the stead of what it holds; an error is a fault. -/
def writePath (d : Direction) (path text : String) : Act (Except Fault Unit) := do
  match ← openPath d path with
  | .error fault => return .error fault
  | .ok i =>
    let before := (← get).descriptors
    modify (·.lead 255 (some i))
    let _ ← writeTo 255 text
    modify ({ · with descriptors := before })
    return .ok ()

end Act

end InlineRemote.Shell
