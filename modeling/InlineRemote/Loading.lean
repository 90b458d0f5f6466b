import InlineRemote.Files.Tree
import InlineRemote.Locations
import InlineRemote.Log
import InlineRemote.Mapping.File
import InlineRemote.Settings
import InlineRemote.Table.Unreachable

/-! # Loading settings and mappings

The settings name the mapping file.  A file that is not there stands for its defaults.  A strict
load fails with the first error.  A load at startup always succeeds: bad settings give way to the
default ones, a bad mapping file to the built-in mappings, and each problem is kept.  What is said
of the text of a settings file that is no TOML, or does not fit, is a parameter, `describe`. -/
namespace InlineRemote

/-- Why a file could not be loaded. -/
inductive LoadError where
  | unreadableSettings (path : String) (fault : Fault)
  | malformedSettings (path cause : String)
  | unreadableMappings (path : String) (fault : Fault)
  | malformedMappings (path : String) (error : Mapping.Error)
  deriving DecidableEq, Repr

namespace LoadError

def context : LoadError → String
  | unreadableSettings path _ => "Failed to read config file: " ++ path
  | malformedSettings path _ => "Failed to parse config file: " ++ path
  | unreadableMappings path _ => "Failed to read mapping file: " ++ path
  | malformedMappings path _ => "Failed to parse mapping file: " ++ path

def cause : LoadError → String
  | unreadableSettings _ fault => fault.message
  | malformedSettings _ cause => cause
  | unreadableMappings _ fault => fault.message
  | malformedMappings _ error => error.message

/-- The whole chain: what was being done, and what went wrong. -/
def message (e : LoadError) : String :=
  e.context ++ ": " ++ e.cause

end LoadError

def Settings.load (describe : String → String) (files : FileTree) (path : String) :
    Except LoadError Settings :=
  if !files.isThere path then .ok {}
  else
    match files.read path with
    | .error fault => .error (.unreadableSettings path fault)
    | .ok text =>
      match read text with
      | none => .error (.malformedSettings path (describe text))
      | some s => .ok s

/-- The warning that the built-in mappings stand in for a file that is not there. -/
def MappingSet.absenceWarning (path : String) : String :=
  "No mapping file found at '" ++ path ++ "'. Using default mappings."

/-- Loads the mapping file at a path, and logs its absence. -/
def MappingSet.load (files : FileTree) (path : String) : Log × Except LoadError MappingSet :=
  if !files.isThere path then ([.warn (absenceWarning path)], .ok builtin)
  else
    match files.read path with
    | .error fault => ([], .error (.unreadableMappings path fault))
    | .ok text =>
      match Mapping.read text.toList with
      | .error e => ([], .error (.malformedMappings path e))
      | .ok set => ([], .ok set)

def Table.builtin : Table :=
  match build .builtin with
  | .ok t => t
  | .error _ => blank []

theorem Table.build_builtin : build .builtin = .ok builtin := rfl

namespace Locations

def mappingsOf (l : Locations) (s : Settings) : String :=
  s.mappingsPath l.directory l.mappings

/-- Loads the settings and the mapping file that they name.  The first error fails the load. -/
def load (l : Locations) (describe : String → String) (files : FileTree) :
    Log × Except LoadError (Settings × MappingSet) :=
  match Settings.load describe files l.settings with
  | .error e => ([], .error e)
  | .ok s =>
    match MappingSet.load files (l.mappingsOf s) with
    | (log, .error e) => (log, .error e)
    | (log, .ok set) => (log, .ok (s, set))

end Locations

/-- What was loaded at startup: every problem that made something fall back is kept in order. -/
structure Startup where
  settings : Settings
  table : Table
  problems : List String
  log : Log
  deriving Repr

namespace Startup

def summary (s : Startup) : Option String :=
  if s.problems = [] then none else some ("; ".intercalate s.problems)

/-- The settings at a path or the default ones, the problems, and the log. -/
def loadSettings (describe : String → String) (files : FileTree) (path : String) :
    Settings × List String × Log :=
  match Settings.load describe files path with
  | .ok s => (s, [], [])
  | .error e => ({}, [e.message], [.error (e.message ++ " (using default settings)")])

def tableProblem (e : TableError) : String :=
  "Invalid mappings: " ++ e.message

/-- The table of the mapping file at a path or the built-in one, the problems, and the log. -/
def loadTable (files : FileTree) (path : String) : Table × List String × Log :=
  match MappingSet.load files path with
  | (log, .error e) =>
    (.builtin, [e.message], log ++ .error (e.message ++ " (using built-in mappings)") ::
      Table.builtin.warnings.map .warn)
  | (log, .ok set) =>
    match Table.build set with
    | .ok t => (t, [], log ++ t.warnings.map .warn)
    | .error e =>
      (.builtin, [tableProblem e], log ++ .error (tableProblem e ++ " (using built-in mappings)") ::
        Table.builtin.warnings.map .warn)

def load (l : Locations) (describe : String → String) (files : FileTree) : Startup :=
  let (settings, problems, log) := loadSettings describe files l.settings
  let (table, problems', log') := loadTable files (l.mappingsOf settings)
  ⟨settings, table, problems ++ problems', log ++ log'⟩

end Startup

end InlineRemote
