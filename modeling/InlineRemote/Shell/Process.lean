import InlineRemote.Shell.Builtin.Signals

/-! # Processes

A process runs inside another one that waits for it, or beside others.  It is a copy of its shell, or
a program that gets little more than the exported variables.  What it leaves behind is the world; all
else is as it was before. -/
namespace InlineRemote.Shell

namespace Session

def deaf (s : Session) : List Nat :=
  s.ignored ++ (s.traps.filter fun (n, action) => n ≠ 0 && action = "").map Prod.fst

/-- The traps of the shell while it waits for a process: one of the extended dialect leaves an
interruption to that process. -/
def waiting (s : Session) : Traps :=
  if s.extended then (2, "") :: s.guarded else s.guarded

/-- The session of a new process that this one waits for, or in the other case reads from. -/
def inside (patient : Bool) (s : Session) : Session :=
  let number := s.lastProcess + 1
  let s := s.jobNumber.2
  { s with
    lastProcess := number
    processes := { number } :: s.processes
    current := number
    parent := s.current
    above := (s.current, if patient then s.waiting else s.guarded) :: s.above
    pending := [] }

def resumed (patient : Bool) (before after : Session) : Session :=
  let number := before.lastProcess + 1
  let before := before.jobNumber.2
  let heard (n : Notice) : Bool :=
    !(patient && before.extended && n.process = before.current && n.signal = 2 && !before.isTrapped 2)
  { before with
    toWorld := { after.toWorld with
      processes := after.processes.filter (·.number ≠ number)
      notices := after.notices.filter heard } }

/-- The traps that a copy of a shell keeps: those that ignore a signal, and in the extended dialect
those for events that are to be passed on. -/
def keptTraps (s : Session) : Traps :=
  s.traps.filter fun (n, action) =>
    (n ≠ 0 && n < 65 && action = "") || (n = 66 && s.has 'E') || ((n = 65 || n = 67) && s.has 'T')

def copied (s : Session) : Session :=
  { s with
    traps := s.keptTraps
    shownTraps := if s.extended then some (s.shownTraps.getD s.traps) else none
    pending := []
    interrupted := none
    jobs := if s.extended then s.jobs.map ({ · with foreign := true }) else []
    loops := if s.extended then 0 else s.loops
    nesting := s.nesting + 1 }

def asProgram (s : Session) : Session :=
  let exported := s.bindings.filter fun (_, v) => v.exported
  { s with
    extended := false
    options := []
    ignored := s.deaf
    traps := []
    pending := []
    known := []
    bindings := if s.extended then exported else (byRow exported.reverse).reverse }

def isHeld (s : Session) (i : Nat) : Bool :=
  s.processes.any fun p =>
    p.exit.isNone && !s.chain.contains p.number && p.holds.contains i

def written (s : Session) (i : Nat) : String :=
  match s.streams.lookup i with
  | some (.collector t) => t
  | _ => ""

def closeStream (s : Session) (i : Nat) : Session :=
  { s with streams := withKey s.streams i none }

end Session

namespace Act

/-- Acts as a process that the one before waits for, or in the other case reads from. -/
def inside (patient : Bool) (change : Session → Session) (a : Act Exit) : Act Exit := fun before =>
  let number := before.lastProcess + 1
  (a (change (before.inside patient))).bind fun r after =>
    let s := before.resumed patient after
    match r with
    | .ok exit => (do collect; return exit : Act Exit) s
    | .error (.killed n) =>
      if n.process = number then (do collect; return .signal n.signal : Act Exit) s
      else .ended (.error (.killed n)) s
    | .error _ => (do collect; return .code (after.status % 256) : Act Exit) s

/-- Acts with a stream that keeps what is written to some numbers; the answer comes with the text,
once nothing can be written any more. -/
def collecting {α : Type} (numbers : List Nat) (a : Act α) : Act (α × String) := do
  let before ← get
  let (i, s) := before.openStream (.collector "")
  let s := numbers.foldl (fun s n => s.lead n (some i)) s
  set { s with kept := before.descriptors.map Prod.snd ++ s.kept }
  let x ← Act.after a fun _ s =>
    { s with descriptors := before.descriptors, kept := before.kept }
  await none fun s => !s.isHeld i
  let s ← get
  set (s.closeStream i)
  return (x, s.written i)

end Act

namespace Worker

/-- Runs the commands of a script, line by line, at most so many; the answer is whether there are
any, or `none` if the script is not well formed.  Some lines may be the last thing that their process
does, which a function is given to run. -/
def runLines (run : Bool → Command → Act Unit) : Nat → Bool → Source → Act (Option Bool)
  | 0, any, _ => return some any
  | n + 1, any, source => do
    let s ← get
    let aliases := if !s.extended || s.feature? "expand_aliases" then s.aliases else []
    match nextLine { source with extended := s.extended, groups := s.style.groups, aliases } with
    | .ended => return some any
    | .mistaken .plain => return none
    | .mistaken .within => Act.fail "Syntax error" 127
    | .command c rest =>
      let last := rest.rest.all fun c => c = ' ' || c = '\n' || c = '\t'
      tryCatch (run last c) fun e => if e = .discard then pure () else throw e
      runLines run n true rest

def runText (run : Bool → Command → Act Unit) (text : String) : Act Bool := do
  match ← runLines run (text.length + 1) false (Source.ofText text.toList 1) with
  | some any => return any
  | none => Act.fail "Syntax error" 2

def runString (w : Worker) (tested : Bool) (text : String) : Act Bool :=
  runText (fun _ => w.run tested) text

def runHook (w : Worker) (event : Nat) : Act Unit := do
  let s ← get
  match s.traps.lookup event with
  | none | some "" => return
  | some action =>
    set { s with traps := s.traps.filter (·.1 ≠ event) }
    let _ ← w.runString true action
    modify fun t => { t with
      status := s.status
      traps := if (t.traps.lookup event).isSome then t.traps else (event, action) :: t.traps }

def runTraps (w : Worker) : Act Unit := do
  let s ← get
  if s.pending ≠ [] then
    set { s with pending := [], interrupted := some s.status }
    for n in s.pending do
      let _ ← w.runString false ((s.traps.lookup n).getD "")
    modify ({ · with status := s.status, interrupted := s.interrupted })

/-- Runs the trap for the end of a shell; the answer is the status in the end. -/
def runLastTrap (w : Worker) (status : Nat) : Act Nat := do
  let s ← get
  match s.traps.lookup 0 with
  | none => return status
  | some action =>
    set { s with status, interrupted := some status, traps := s.traps.filter (·.1 ≠ 0) }
    tryCatch (do let _ ← w.runString false action; return status) fun e =>
      match e with
      | .exit => do return (← get).status
      | .fault n => return if s.extended then status else n
      | .killed n => throw (.killed n)
      | _ => return status

def finish (w : Worker) (r : Except Stop Unit) : Act Exit := do
  let s ← get
  match r with
  | .error (.killed n) =>
    if n.process ≠ s.current then throw (.killed n)
    if s.extended && n.signal ≠ 9 then
      let _ ← w.runLastTrap (128 + n.signal)
    return .signal n.signal
  | .error (.fault n) =>
    let n := if s.extended ∧ n = 127 ∧ (s.nesting ≠ 0 ∨ s.has 'e') then 1 else n
    return .code ((← w.runLastTrap n) % 256)
  | _ => return .code ((← w.runLastTrap s.status) % 256)

def asShell (w : Worker) (a : Act Unit) : Act Exit :=
  Act.afterwards a fun _ r => w.finish r

/-- Acts in a copy of the shell, which waits for it, or in the other case reads from it. -/
def apart (w : Worker) (patient : Bool) (change : Session → Session) (a : Act Unit) : Act Exit :=
  Act.inside patient (fun s => change s.copied) (w.asShell a)

def onlyInput? : Command → Option (List Piece)
  | .simple _ [] [] [.mk 0 none .input ps] => some ps
  | _ => none

/-- Runs a command in a copy of the shell, for what it writes, without the line ends at the end. -/
def capture (w : Worker) (c : Command) : Act (List Char) := do
  let s ← get
  let strict (t : Session) : Session :=
    if t.extended && !t.feature? "inherit_errexit" then
      { t with options := t.options.filter (· ≠ 'e') }
    else t
  let a : Act Unit :=
    match s.extended, onlyInput? c with
    | true, some ps => do
      match ← Act.readPath (← w.expandWhole ps) with
      | .ok t => Act.print (String.ofList t)
      | .error fault =>
        Act.report (Fault.words fault)
        Act.leave 1
    | _, _ => w.runLast false false c
  let (exit, text) ← Act.collecting [1] (w.apart false strict a)
  modify fun s => { s with
    substituted := exit.status, status := if s.extended then exit.status else s.status }
  return ((text.toList.filter (· ≠ '\x00')).reverse.dropWhile (· = '\n')).reverse

def pipeSize : Nat := 65536

/-- Runs commands in copies of the shell, each of which reads what the one before it writes.  A part
that has more to write than is read and held in the pipe is ended by a signal. -/
def pipe (w : Worker) (tested : Bool) : List (Command × Bool) → Act (List Exit)
  | [] => return []
  | [(c, _)] => do
    let s ← get
    if s.extended && s.feature? "lastpipe" then
      w.run tested c
      return [.code (← get).status]
    return [← w.apart true id (w.runLast tested true c)]
  | (c, along) :: cs => do
    let (exit, text) ←
      Act.collecting (if along then [1, 2] else [1]) (w.apart true id (w.runLast tested true c))
    let before ← get
    let (i, s) := before.openStream (.text text.toList)
    set ({ s with kept := before.descriptors.map Prod.snd ++ s.kept }.lead 0 (some i))
    let exits ← Act.after (pipe w tested cs) fun _ s =>
      { s with descriptors := before.descriptors, kept := before.kept }
    let s ← get
    let left := match s.streams.lookup i with
      | some (.text t) => t.length
      | _ => 0
    set (s.closeStream i)
    return (if pipeSize < left then .signal 13 else exit) :: exits

end Worker

end InlineRemote.Shell
