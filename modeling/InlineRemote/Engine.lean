import InlineRemote.Dispatch
import InlineRemote.Table.Unreachable
import InlineRemote.Window

/-! # The engine

The engine holds the table in force, the pending presses and the active modes.  Presses, timer ticks
and reloads reach it one after the other.  A reload first builds the new table; when that fails
nothing changes. -/
namespace InlineRemote

/-- The table in force, the pending presses, and the active modes. -/
structure Engine where
  table : Table
  window : Window
  modes : ModeStack
  deriving Repr

/-- What a reload changed. -/
structure ReloadSummary where
  entries : Nat
  /-- A pending sequence was dropped. -/
  discardedPending : Bool
  droppedModes : Nat
  deriving DecidableEq, Repr

namespace Engine

variable {ω : Type}

def start (t : Table) (timeout : Nat) : Engine :=
  ⟨t, { timeout }, .empty⟩

/-- Takes one press, and dispatches the action that it completes. -/
def press (e : Engine) (d : Dispatcher ω) (p : Press) (w : ω) :
    Option DispatchResult × Engine × ω :=
  match e.window.append p e.table e.modes with
  | (window, .matched _ a) =>
    let (result, modes, w') := d.dispatch a e.modes w
    (some result, { e with window, modes }, w')
  | (window, _) => (none, { e with window }, w)

def expire (e : Engine) (now : Nat) : Bool × Engine :=
  ((e.window.expire now).2, { e with window := (e.window.expire now).1 })

def deadline? (e : Engine) : Option Nat :=
  e.window.deadline?

/-- Puts a table in force: the pending sequence is dropped, and so is every mode that the table
does not declare. -/
def adopt (e : Engine) (t : Table) (timeout : Nat) : Engine :=
  ⟨t, e.window.withTimeout timeout, e.modes.retain t.declares⟩

/-- Replaces the table and the timeout.  The warnings on the new table come first; then the
dropped modes are told, innermost first, with the stack that remains. -/
def reload (e : Engine) (d : Dispatcher ω) (set : MappingSet) (timeout : Nat) (w : ω) :
    Except TableError (ReloadSummary × Engine × ω) :=
  match Table.build set with
  | .error fault => .error fault
  | .ok t =>
    let e' := e.adopt t timeout
    let dropped := e.modes.dropped t.declares
    let w' := dropped.foldl (fun w m => d.notify (.deactivated m) e'.modes w)
      (d.warnAll t.warnings w)
    .ok (⟨t.size, !e.window.isEmpty, dropped.length⟩, e', w')

end Engine

end InlineRemote
