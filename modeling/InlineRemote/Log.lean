import InlineRemote.Command
import InlineRemote.Key
import InlineRemote.Mode.Change

/-! # The log

The log lists, oldest first, the calls that the collaborators received and the lines that were
written. -/
namespace InlineRemote

/-- One call or line. -/
inductive LogEntry where
  /-- An injector that records received a stroke. -/
  | inject (stroke : Stroke)
  /-- A runner that records received a command. -/
  | run (command : String)
  /-- A recording observer was told of a change, with the modes then active. -/
  | observed (observer : Nat) (change : ModeChange) (modes : List ModeId)
  | warn (text : String)
  | error (text : String)
  /-- A tone was played for a change. -/
  | cue (change : ModeChange)
  /-- An injector that only logs accepted a stroke of so many transitions. -/
  | typed (stroke : Stroke) (events : Nat)
  /-- A command exited. -/
  | exited (exit : Exit)
  deriving DecidableEq, Repr

/-- Whether an entry is a call to a collaborator or an observer, and not a line. -/
def LogEntry.isCall : LogEntry → Bool
  | warn _ | error _ => false
  | _ => true

abbrev Log := List LogEntry

def Log.calls (log : Log) : Log :=
  log.filter LogEntry.isCall

end InlineRemote
