import InlineRemote.Table

/-! # The window of pending presses

Presses are collected until they complete a trigger or can no longer do so.  A pending sequence
lives for the timeout after its first press.  It is stale once more than that has passed; the time
between two instants is zero when the later one reads less.  A press that finds a stale sequence
starts a new one. -/
namespace InlineRemote

/-- The pending presses, oldest first, and the timeout in nanoseconds. -/
structure Window where
  presses : List Press := []
  timeout : Nat
  deriving DecidableEq, Repr

namespace Window

def sequence (w : Window) : Trigger :=
  w.presses.map (·.button)

def isEmpty (w : Window) : Bool :=
  w.presses.isEmpty

def started? (w : Window) : Option Nat :=
  w.presses.head?.map (·.time)

def isStale (w : Window) (now : Nat) : Bool :=
  match w.started? with
  | none => false
  | some first => w.timeout < now - first

/-- The earliest instant at which the pending sequence is stale. -/
def deadline? (w : Window) : Option Nat :=
  w.started?.map (· + w.timeout + 1)

def clear (w : Window) : Window :=
  { w with presses := [] }

def withTimeout (w : Window) (timeout : Nat) : Window :=
  { w.clear with timeout }

/-- What a press makes of the pending sequence. -/
inductive Outcome where
  | matched (sequence : Trigger) (action : Action)
  | pending (sequence : Trigger)
  | dropped
  deriving DecidableEq, Repr

def fresh (w : Window) (now : Nat) : Window :=
  if w.isStale now then w.clear else w

/-- Adds a press and resolves the sequence under the active modes. -/
def append (w : Window) (p : Press) (t : Table) (modes : ModeStack) : Window × Outcome :=
  let live : Window := { w with presses := (w.fresh p.time).presses ++ [p] }
  match t.resolve modes live.sequence with
  | .fire a => (w.clear, .matched live.sequence a)
  | .wait => (live, .pending live.sequence)
  | .discard => (w.clear, .dropped)

def expire (w : Window) (now : Nat) : Window × Bool :=
  (w.fresh now, w.isStale now)

end Window

end InlineRemote
