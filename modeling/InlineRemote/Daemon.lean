import InlineRemote.Collaborators
import InlineRemote.Cue
import InlineRemote.Engine
import InlineRemote.Loading
import InlineRemote.Status.Save

/-! # The daemon

The daemon runs the engine, keeps the status file, and plays cues.  Its observers are told of a
change in a fixed order: those that record, then the one that saves the status, then the
one that plays a cue if audio is on.  A reload follows the audio setting only when the new table has
been accepted. -/
namespace InlineRemote

/-- What stays the same while the daemon runs. -/
structure Setup where
  locations : Locations
  /-- What is said of the text of a settings file that cannot be taken. -/
  describe : String → String
  injector : Injector
  runner : Runner
  /-- The number of recording observers. -/
  recorders : Nat := 0
  /-- The time of a change of mode, when so many were noted before. -/
  clock : Nat → String
  /-- Whether the system refuses to write the status file, when it was saved so many times. -/
  statusFault : Nat → Option Fault := fun _ => none

/-- What the daemon acts on: the log, the files, the status as it was last set, and the audio
switch. -/
structure World where
  log : Log
  files : FileTree
  status : Status
  audio : Bool
  /-- How many changes of mode were noted in the status. -/
  changes : Nat := 0
  /-- How often the status was saved, or was to be saved. -/
  saves : Nat := 0
  deriving Repr

namespace World

def onLog {α : Type} (f : Log → α × Log) (w : World) : α × World :=
  let (a, log) := f w.log
  (a, { w with log })

def note (w : World) (entries : Log) : World :=
  { w with log := w.log ++ entries }

/-- Writes the status file; a failure is logged. -/
def saveStatus (w : World) (s : Setup) : World :=
  match w.status.save s.locations.status w.files (s.statusFault w.saves) with
  | (files, none) => { w with files, saves := w.saves + 1 }
  | (files, some warning) => { w with files, saves := w.saves + 1 }.note [.warn warning]

def report (w : World) (s : Setup) (error : Option String) : World :=
  { w with status := { w.status with error } }.saveStatus s

def warnAudio (w : World) : World :=
  if w.audio && !audioSupported then w.note [.warn audioWarning] else w

end World

namespace Setup

/-- Notes a change in the status, with its time, and saves it. -/
def observeStatus (s : Setup) (_ : ModeChange) (modes : ModeStack) (w : World) : World :=
  let status := { w.status.withModes modes with lastModeChange := some (s.clock w.changes) }
  { w with status, changes := w.changes + 1 }.saveStatus s

def observeAudio (c : ModeChange) (_ : ModeStack) (w : World) : World :=
  if w.audio then w.note [.cue c] else w

def lift (observe : ModeChange → ModeStack → Log → Log) (c : ModeChange) (modes : ModeStack)
    (w : World) : World :=
  { w with log := observe c modes w.log }

def dispatcher (s : Setup) : Dispatcher World where
  inject stroke := World.onLog (s.injector.inject stroke)
  run command := World.onLog (s.runner.run command)
  warn text w := w.note [.warn text]
  observers :=
    (List.range s.recorders).map (fun n => lift (recorder n)) ++ [s.observeStatus, observeAudio]

end Setup

/-- The daemon between two events. -/
structure Daemon where
  engine : Engine
  world : World
  deriving Repr

/-- Why a reload failed. -/
inductive ReloadError where
  | load (error : LoadError)
  | table (error : TableError)
  deriving DecidableEq, Repr

def ReloadError.message : ReloadError → String
  | load e => e.message
  | table e => e.message

/-- What happens to the daemon. -/
inductive Event where
  | press (p : Press)
  /-- A timer tick. -/
  | expire (now : Nat)
  | reload
  /-- Somebody else changes a file. -/
  | edit (path : String) (node : Option FileNode)
  deriving DecidableEq, Repr

/-- What came of an event. -/
inductive Response where
  | pressed (result : Option DispatchResult)
  | expired (dropped : Bool)
  | reloaded (summary : ReloadSummary)
  | notReloaded (error : ReloadError)
  | edited
  deriving DecidableEq, Repr

/-- The lines that tell of a failure. -/
def Response.lines : Response → Log
  | pressed (some (.injected strokes failed)) =>
    if failed = 0 then []
    else [.warn (toString failed ++ " of " ++ toString strokes ++ " key strokes were not injected")]
  | notReloaded e => [.error ("Reload failed, keeping previous mappings: " ++ e.message)]
  | _ => []

namespace Daemon

/-- Starts the daemon: loads what can be loaded, writes the first status, and warns if audio
cannot be played. -/
def start (s : Setup) (files : FileTree) : Startup × Daemon :=
  let startup := Startup.load s.locations s.describe files
  let world : World :=
    { log := startup.log, files, status := { error := startup.summary }
      audio := startup.settings.audio }
  (startup,
    { engine := .start startup.table startup.settings.timeout
      world := (world.saveStatus s).warnAudio })

/-- Loads the files and puts their table in force; the audio switch follows at the end. -/
def tryReload (d : Daemon) (s : Setup) : World × Except ReloadError (ReloadSummary × Daemon) :=
  let (log, loaded) := s.locations.load s.describe d.world.files
  let world := d.world.note log
  match loaded with
  | .error e => (world, .error (.load e))
  | .ok (settings, set) =>
    match d.engine.reload s.dispatcher set settings.timeout world with
    | .error e => (world, .error (.table e))
    | .ok (summary, engine, world) =>
      (world, .ok (summary, ⟨engine, { world with audio := settings.audio }⟩))

/-- Takes one event, and logs the lines of the response. -/
def step (d : Daemon) (s : Setup) : Event → Response × Daemon
  | .press p =>
    let (result, engine, world) := d.engine.press s.dispatcher p d.world
    (.pressed result, ⟨engine, world.note (Response.pressed result).lines⟩)
  | .expire now =>
    let (dropped, engine) := d.engine.expire now
    (.expired dropped, { d with engine })
  | .reload =>
    match d.tryReload s with
    | (_, .ok (summary, d)) =>
      (.reloaded summary, { d with world := d.world.warnAudio.report s none })
    | (world, .error e) =>
      (.notReloaded e,
        { d with
          world := (world.note (Response.notReloaded e).lines).report s
            (some ("Reload failed: " ++ e.message)) })
  | .edit path node =>
    (.edited, { d with world := { d.world with files := d.world.files.lay path node } })

/-- Takes events one after the other: the responses, and the daemon at the end. -/
def run (d : Daemon) (s : Setup) : List Event → List Response × Daemon
  | [] => ([], d)
  | e :: es =>
    let (response, d') := d.step s e
    let (responses, d'') := d'.run s es
    (response :: responses, d'')

end Daemon

end InlineRemote
