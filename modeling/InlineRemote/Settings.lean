import InlineRemote.Files.Path
import InlineRemote.Toml.Document

/-! # Settings

The settings file is a TOML document.  Settings that it does not name have defaults, names that are
not settings are ignored, and a setting of a wrong type is refused.  The window of the engine is the
timeout kept within bounds. -/
namespace InlineRemote

/-- What the settings file sets. -/
structure Settings where
  /-- The timeout that was asked for, in milliseconds. -/
  timeoutMs : Nat := 500
  /-- The mapping file that was asked for. -/
  mappingsFile : Option String := none
  /-- Whether changes of mode are to be heard. -/
  audio : Bool := false
  deriving DecidableEq, Repr

namespace Settings

def effectiveMs (s : Settings) : Nat :=
  min (max s.timeoutMs 50) 5000

def timeout (s : Settings) : Nat :=
  s.effectiveMs * 1000000

/-- The mapping file: the one asked for, below the configuration directory unless it is absolute,
or else the default one. -/
def mappingsPath (s : Settings) (dir default : String) : String :=
  match s.mappingsFile with
  | none => default
  | some file => Path.joinText dir file

def readTimeout (es : Toml.Entries) : Option Nat :=
  match es.get? "timeout_ms" with
  | none => some ({} : Settings).timeoutMs
  | some (.integer n) => if 0 ≤ n then some n.toNat else none
  | some _ => none

def readMappingsFile (es : Toml.Entries) : Option (Option String) :=
  match es.get? "mappings_file" with
  | none => some none
  | some (.string file) => some (some file)
  | some _ => none

def readAudio (es : Toml.Entries) : Option Bool :=
  match es.get? "audio" with
  | none => some false
  | some (.boolean b) => some b
  | some _ => none

def ofEntries (es : Toml.Entries) : Option Settings := do
  let timeoutMs ← readTimeout es
  let mappingsFile ← readMappingsFile es
  let audio ← readAudio es
  return { timeoutMs, mappingsFile, audio }

def read (text : String) : Option Settings :=
  (Toml.read text).bind ofEntries

end Settings

end InlineRemote
