import InlineRemote.Shell.Machine

/-! # Processes beside each other

Several processes share one world.  One of them runs until it waits; then the next one that is ready
runs, and if none is, the time comes at which the first one goes on.  All is over when the first
process has come to its end. -/
namespace InlineRemote.Shell

/-- A process that waits. -/
structure Sleeper where
  process : Nat
  alarm : Option Nat
  ready : Session → Bool
  session : Session
  go : Session → Course Exit

namespace Sleeper

def inWorld (x : Sleeper) (world : World) : Session :=
  { x.session with toWorld := world }

def canGoOn (world : World) (x : Sleeper) : Bool :=
  x.alarm.any (· ≤ world.time) || x.ready (x.inWorld world)

end Sleeper

def World.holding (world : World) (process : Nat) (s : Session) : World :=
  let holds := s.descriptors.map Prod.snd ++ s.kept
  { world with
    processes := world.processes.map fun p => if p.number = process then { p with holds } else p }

def World.without (world : World) (process : Nat) (exit : Exit) : World :=
  { world with
    processes := world.processes.map fun p =>
      if p.number = process then { p with exit := some exit, holds := [] } else p
    notices := world.notices.filter (·.process ≠ process) }

def World.with (world : World) (child : Session) : World :=
  let holds := child.descriptors.map Prod.snd
  { world with
    lastProcess := max world.lastProcess child.current
    processes := { number := child.current, holds } :: world.processes }

def startTime : Nat := 500

namespace Schedule

def next? (world : World) (sleepers : List Sleeper) : Option (Sleeper × List Sleeper × World) :=
  let (before, rest) := sleepers.span (!·.canGoOn world)
  match rest with
  | x :: after => some (x, before ++ after, world)
  | [] =>
    match (sleepers.filterMap Sleeper.alarm).min? with
    | none => none
    | some time =>
      let world := { world with time := max world.time time }
      let (before, rest) := sleepers.span (!·.canGoOn world)
      match rest with
      | x :: after => some (x, before ++ after, world)
      | [] => none

/-- Runs processes in turn, in at most so many turns, until the first one ends; `none` if they wait for
each other. -/
def run (job : Command → Act Exit) (first : Nat) :
    Nat → Nat → Course Exit → List Sleeper → Option Exit × World
  | 0, _, c, _ =>
    match c with
    | .ended _ s | .waiting _ _ s _ | .starting _ _ s _ => (none, s.toWorld)
  | n + 1, process, c, sleepers =>
    let goOn (world : World) (sleepers : List Sleeper) : Option Exit × World :=
      match next? world sleepers with
      | some (x, others, world) => run job first n x.process (x.go (x.inWorld world)) others
      | none => (none, world)
    match c with
    | .ended r s =>
      let exit := match r with
        | .ok exit => exit
        | .error (.killed k) => .signal k.signal
        | .error _ => .code (s.status % 256)
      if process = first then (some exit, s.toWorld)
      else goOn (s.toWorld.without process exit) sleepers
    | .waiting alarm ready s go =>
      goOn (s.toWorld.holding process s) (sleepers ++ [⟨process, alarm, ready, s, go⟩])
    | .starting c child s go =>
      let world := s.toWorld.with child
      let begun : Sleeper :=
        ⟨child.current, some (world.time + startTime), fun _ => false, child, job c⟩
      run job first n process (go { s with toWorld := world }) (sleepers ++ [begun])

end Schedule

end InlineRemote.Shell
