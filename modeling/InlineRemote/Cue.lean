import InlineRemote.Mode.Change

/-! # Audible cues

A change of mode is heard as a short tone, high for an activation and low for a deactivation.  This
build plays no sound. -/
namespace InlineRemote

/-- A tone by its frequency in hertz and its length in milliseconds. -/
structure Cue where
  frequency : Nat
  duration : Nat
  deriving DecidableEq, Repr

def ModeChange.cue : ModeChange → Cue
  | activated _ => ⟨880, 120⟩
  | deactivated _ => ⟨440, 120⟩

def audioSupported : Bool := false

def audioWarning : String :=
  "audio = true but this build has no audio support (enable the `audio` feature)"

end InlineRemote
