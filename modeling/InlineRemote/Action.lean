import InlineRemote.Key
import InlineRemote.Mode
import InlineRemote.Trigger

/-! # Actions and mapping sets

A mapping set lists modes and entries as they were written; nothing is checked yet.  The built-in
set gives the buttons the media keys that they usually have. -/
namespace InlineRemote

/-- What happens when a trigger completes. -/
inductive Action where
  /-- Tap each stroke in order. -/
  | type (strokes : List Stroke)
  /-- Run a shell command. -/
  | run (command : String)
  | activate (mode : ModeId)
  | deactivate (mode : ModeId)
  deriving DecidableEq, Repr

def Action.target? : Action → Option ModeId
  | activate m => some m
  | deactivate m => some m
  | _ => none

/-- A trigger with its action, visible in one scope. -/
structure Entry where
  scope : Scope
  trigger : Trigger
  action : Action
  deriving DecidableEq, Repr

/-- Declared modes, and entries that may belong to them or switch them. -/
structure MappingSet where
  modes : List ModeId := []
  entries : List Entry := []
  deriving DecidableEq, Repr

namespace MappingSet

def append (a b : MappingSet) : MappingSet :=
  ⟨a.modes ++ b.modes, a.entries ++ b.entries⟩

instance : Append MappingSet := ⟨append⟩

def builtin : MappingSet :=
  let media (b : Button) (k : MediaKey) : Entry := ⟨.global, [b], .type [.plain (.media k)]⟩
  ⟨[], [media .up .volumeUp, media .play .play, media .down .volumeDown]⟩

end MappingSet

end InlineRemote
