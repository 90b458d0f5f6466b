import InlineRemote.Files.Fault
import InlineRemote.Shell.Schedule

/-! # Starting commands on a system

A system starts the program of an invocation with the command as its argument.  Starting it may
fail; once started, it runs to its end. -/
namespace InlineRemote.Shell

def depth : Nat := 2000

def turns : Nat := 1000000000

def byteText (s : String) : String :=
  String.ofList (s.toUTF8.toList.map fun b => Char.ofNat b.toNat)

/-- The state in which a program starts that was not started from a shell.  What it writes is kept. -/
def Host.session (h : Host) : Session where
  disk := h.disk
  streams := [(0, .nothing), (1, .collector ""), (2, .nothing)]
  freeStream := 3
  time := h.time
  processes := [{ number := h.process }]
  lastProcess := h.process
  host := h
  name := ""
  bindings := h.environment.map fun (x, v) =>
    (x, { value := some (.text (byteText v)), exported := true })
  directory := h.directory
  path := pathOf h.directory
  descriptors := [(0, 0), (1, 1), (2, 2)]
  process := h.process
  current := h.process
  parent := h.process - 1

def Host.course (h : Host) (path : String) (words : List String) : Course Exit :=
  let start : Act Exit := do
    match ← (Worker.tower depth).execute false 40 path path words with
    | .ok status => return .code status
    | .error fault => return .code (Worker.missing false fault)
  start h.session

def Host.run (h : Host) (path : String) (words : List String) : Exit × String :=
  let (exit, world) :=
    Schedule.run (Worker.tower depth).runJob h.process turns h.process (h.course path words) []
  let written := match world.streams.lookup 1 with
    | some (.collector t) => t
    | _ => ""
  (exit.getD (.code 2), written)

def wordLimit : Nat := 131071

/-- The path of the program that a word stands for.  A file that may not be run is a reason of its own,
if no other directory has the program. -/
def Session.startable (s : Session) (word : String) : Except Fault String :=
  if word.toList.contains '/' then (s.runnable word).map fun _ => word
  else if FileTree.isTooLong word then .error .nameTooLong
  else
    let found := (Session.candidates s.searchPath word).map fun path => (path, s.runnable path)
    match found.find? fun (_, r) => r.toOption.isSome with
    | some (path, _) => .ok path
    | none =>
      let isDenied (e : String × Except Fault Runnable) : Bool :=
        match e.2 with
        | .error .permissionDenied => true
        | _ => false
      .error (if found.any isDenied then .permissionDenied else .notFound)

def launch (host : Host) (i : Invocation) (command : String) : Except Fault Exit :=
  if (command.toList ++ i.program.toList).contains '\x00' then .error .zeroInArgument
  else
    let text := byteText command
    match host.session.startable (byteText i.program) with
    | .error fault => .error fault
    | .ok path =>
      if wordLimit < text.length then .error .argumentsTooLong
      else .ok (host.run path [i.flag, text]).1

end InlineRemote.Shell
