import InlineRemote.Action
import InlineRemote.Mode.Change
import InlineRemote.Mode.Stack

/-! # Dispatching actions

A dispatcher acts on a world through collaborators: a key injector, a command runner, a log of
warnings, and observers of the modes.  Injection and commands may fail; a failure is a warning and
has no other effect.  A mode action changes the stack before the observers hear of it. -/
namespace InlineRemote

/-- The collaborators, as functions on a world.  The injector and the runner tell why they
failed, if they did. -/
structure Dispatcher (ω : Type) where
  inject : Stroke → ω → Option String × ω
  run : String → ω → Option String × ω
  warn : String → ω → ω
  /-- In the order in which they are told of a change. -/
  observers : List (ModeChange → ModeStack → ω → ω)

/-- What came of an action. -/
inductive DispatchResult where
  /-- So many strokes were handed to the injector, of which so many failed. -/
  | injected (strokes failed : Nat)
  | commandStarted
  | commandFailed
  | modeChanged (change : ModeChange)
  /-- An active mode was to be activated, or an inactive one deactivated. -/
  | modeUnchanged
  deriving DecidableEq, Repr

def Stroke.injectionWarning (s : Stroke) (reason : String) : String :=
  "could not inject " ++ s.text ++ ": " ++ reason

def commandWarning (command reason : String) : String :=
  "command '" ++ command ++ "' failed to start: " ++ reason

namespace Dispatcher

variable {ω : Type}

/-- Injects every stroke in order, and counts those that failed. -/
def injectAll (d : Dispatcher ω) : List Stroke → ω → Nat × ω
  | [], w => (0, w)
  | s :: ss, w =>
    match d.inject s w with
    | (none, w') => d.injectAll ss w'
    | (some reason, w') =>
      let (failed, w'') := d.injectAll ss (d.warn (s.injectionWarning reason) w')
      (failed + 1, w'')

def notify (d : Dispatcher ω) (c : ModeChange) (modes : ModeStack) (w : ω) : ω :=
  d.observers.foldl (fun w observe => observe c modes w) w

def warnAll (d : Dispatcher ω) (texts : List String) (w : ω) : ω :=
  texts.foldl (fun w text => d.warn text w) w

/-- Performs an action: its result, the stack after it, and the world. -/
def dispatch (d : Dispatcher ω) (a : Action) (modes : ModeStack) (w : ω) :
    DispatchResult × ModeStack × ω :=
  match a with
  | .type strokes =>
    let (failed, w') := d.injectAll strokes w
    (.injected strokes.length failed, modes, w')
  | .run command =>
    match d.run command w with
    | (none, w') => (.commandStarted, modes, w')
    | (some reason, w') => (.commandFailed, modes, d.warn (commandWarning command reason) w')
  | .activate m =>
    match modes.push? m with
    | none => (.modeUnchanged, modes, w)
    | some modes' => (.modeChanged (.activated m), modes', d.notify (.activated m) modes' w)
  | .deactivate m =>
    match modes.pop? m with
    | none => (.modeUnchanged, modes, w)
    | some modes' => (.modeChanged (.deactivated m), modes', d.notify (.deactivated m) modes' w)

end Dispatcher

end InlineRemote
