import InlineRemote.Mode.Stack
import InlineRemote.Toml.Document
import InlineRemote.Toml.Writer

/-! # The status file

The status tells status bars and scripts which modes are active and what went wrong last.  It is
written as a TOML document whose absent parts are left out, and reads back as it was. -/
namespace InlineRemote

/-- Whether any mode is active. -/
inductive DaemonState where
  | idle
  | mode
  deriving DecidableEq, Repr

def DaemonState.word : DaemonState → String
  | idle => "idle"
  | mode => "mode"

/-- What the status file tells. -/
structure Status where
  version : String := "0.1.0"
  state : DaemonState := .idle
  /-- Innermost last. -/
  activeModes : List String := []
  lastModeChange : Option String := none
  error : Option String := none
  deriving DecidableEq, Repr

namespace Status

def withModes (s : Status) (modes : ModeStack) : Status :=
  { s with
    activeModes := modes.active.map (·.name)
    state := if modes.active = [] then .idle else .mode }

def writeOptional (key : List Char) : Option String → List Char
  | none => []
  | some text => Toml.writeLine key (Toml.writeString text)

def letters (s : Status) : List Char :=
  Toml.writeLine "version".toList (Toml.writeString s.version) ++
    Toml.writeLine "state".toList (Toml.writeString s.state.word) ++
    (if s.activeModes = [] then []
      else Toml.writeLine "active_modes".toList (Toml.writeStrings s.activeModes)) ++
    writeOptional "last_mode_change".toList s.lastModeChange ++
    writeOptional "error".toList s.error

def text (s : Status) : String :=
  String.ofList s.letters

def stateOfWord? (word : String) : Option DaemonState :=
  if word = "idle" then some .idle else if word = "mode" then some .mode else none

def isVoid : Toml.Value → Bool
  | .table _ [] => true
  | .array [] => true
  | _ => false

/-- The state that a value names: by its word, or by a table with the word as its only key and
nothing under it. -/
def readState : Toml.Value → Option DaemonState
  | .string word => stateOfWord? word
  | .table _ [(word, v)] => if isVoid v then stateOfWord? word else none
  | _ => none

def readStrings : List Toml.Value → Option (List String)
  | [] => some []
  | .string s :: vs => (readStrings vs).map (s :: ·)
  | _ :: _ => none

def readModes (es : Toml.Entries) : Option (List String) :=
  match es.get? "active_modes" with
  | none => some []
  | some (.array vs) => readStrings vs
  | some _ => none

def readOptional (es : Toml.Entries) (key : String) : Option (Option String) :=
  match es.get? key with
  | none => some none
  | some (.string s) => some (some s)
  | some _ => none

def ofEntries (es : Toml.Entries) : Option Status := do
  let version ← (← readOptional es "version")
  let state ← (es.get? "state").bind readState
  let activeModes ← readModes es
  let lastModeChange ← readOptional es "last_mode_change"
  let error ← readOptional es "error"
  return { version, state, activeModes, lastModeChange, error }

def read (text : String) : Option Status :=
  (Toml.read text).bind ofEntries

end Status

end InlineRemote
