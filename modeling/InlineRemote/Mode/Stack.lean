import InlineRemote.Mode

/-! # The stack of active modes

Modes are stacked in the order of their activation.  An active mode is not stacked again, and a
mode may leave from any depth without moving the others. -/
namespace InlineRemote

/-- The active modes, innermost last. -/
structure ModeStack where
  active : List ModeId
  deriving DecidableEq, Repr

namespace ModeStack

def empty : ModeStack := ⟨[]⟩

def contains (s : ModeStack) (m : ModeId) : Bool :=
  s.active.contains m

def push? (s : ModeStack) (m : ModeId) : Option ModeStack :=
  if s.contains m then none else some ⟨s.active ++ [m]⟩

def pop? (s : ModeStack) (m : ModeId) : Option ModeStack :=
  if s.contains m then some ⟨s.active.filter (· ≠ m)⟩ else none

def retain (s : ModeStack) (keep : ModeId → Bool) : ModeStack :=
  ⟨s.active.filter keep⟩

def dropped (s : ModeStack) (keep : ModeId → Bool) : List ModeId :=
  (s.active.filter (!keep ·)).reverse

end ModeStack

end InlineRemote
