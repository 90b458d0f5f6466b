import InlineRemote.Proofs.Daemon.Sight
import InlineRemote.Proofs.Engine.Failures

/-! # Failures of the daemon's outputs

Strokes that are not injected, commands that are not started and a status file that is not written
leave warnings.  Nothing else of the daemon depends on them, so two daemons that fail differently
do the same. -/
namespace InlineRemote

open FileTree

/-- The status but for the time of the last change. -/
def Status.untimed (s : Status) : Status :=
  { s with lastModeChange := s.lastModeChange.map fun _ => "" }

namespace Status

theorem untimed_error {s s' : Status} (h : s.untimed = s'.untimed) (error : Option String) :
    ({ s with error } : Status).untimed = ({ s' with error } : Status).untimed := by
  have hsame := congrArg (fun status : Status => { status with error }) h
  exact hsame

theorem untimed_change {s s' : Status} (h : s.untimed = s'.untimed) (modes : ModeStack)
    (time time' : String) :
    ({ s.withModes modes with lastModeChange := some time } : Status).untimed =
      ({ s'.withModes modes with lastModeChange := some time' } : Status).untimed := by
  have hsame := congrArg (fun status : Status =>
    ({ status.withModes modes with lastModeChange := some "" } : Status)) h
  exact hsame

end Status

/-- Whether an entry tells of a change of mode. -/
def LogEntry.isNotice : LogEntry → Bool
  | .observed .. | .cue _ => true
  | _ => false

/-- Whether an entry is a call of the injector or of the runner. -/
def LogEntry.isRequest : LogEntry → Bool
  | .inject _ | .run _ => true
  | _ => false

/-- A line tells of no change, and asks for nothing. -/
theorem LogEntry.kinds_of_line {entry : LogEntry} (h : entry.isCall = false) :
    entry.isNotice = false ∧ entry.isRequest = false := by
  cases entry with
  | warn text => exact ⟨rfl, rfl⟩
  | error text => exact ⟨rfl, rfl⟩
  | _ => cases h

/-- What an action asks of the injector and the runner. -/
def Action.requests : Action → Log
  | .type strokes => strokes.map .inject
  | .run command => [.run command]
  | _ => []

/-- The response to an event, whatever failed in it. -/
def Response.anyhow : Response → Response
  | .pressed result => .pressed (result.map .anyhow)
  | response => response

/-- The injector and the runner note every call. -/
structure Setup.Records (s : Setup) : Prop where
  injector : ∃ fault, s.injector = .recording fault
  runner : ∃ fault, s.runner = .recording fault

/-- Two setups serve the same files and observers.  Their injectors and runners may fail
differently, as long as they log alike what is looked at. -/
structure Setup.Twins (keep : LogEntry → Bool) (upper : List String) (s s' : Setup) : Prop where
  together : s.locations.Together upper
  locations : s'.locations = s.locations
  describe : s'.describe = s.describe
  recorders : s'.recorders = s.recorders
  keep_line : ∀ entry : LogEntry, entry.isCall = false → keep entry = false
  inject : ∀ stroke {log log' : Log}, log.filter keep = log'.filter keep →
    (s.injector.inject stroke log).2.filter keep = (s'.injector.inject stroke log').2.filter keep
  run : ∀ command {log log' : Log}, log.filter keep = log'.filter keep →
    (s.runner.run command log).2.filter keep = (s'.runner.run command log').2.filter keep

namespace Setup

variable {keep : LogEntry → Bool} {upper : List String} {s s' : Setup}

namespace Twins

def sight (h : s.Twins keep upper s') : Sight :=
  ⟨keep, Status.untimed, h.keep_line, fun error hs => Status.untimed_error hs error⟩

abbrev Worlds (h : s.Twins keep upper s') : World → World → Prop :=
  World.LookAlike h.sight s.locations.status upper

theorem status_eq (h : s.Twins keep upper s') : s'.locations.status = s.locations.status :=
  congrArg Locations.status h.locations

theorem observeStatus (h : s.Twins keep upper s') (c : ModeChange) (modes : ModeStack)
    {w w' : World} (hw : h.Worlds w w') :
    h.Worlds (s.observeStatus c modes w) (s'.observeStatus c modes w') := by
  have hstatus := Status.untimed_change hw.status modes (s.clock w.changes) (s'.clock w'.changes)
  have hchanged : h.Worlds
      { w with
        status := { w.status.withModes modes with lastModeChange := some (s.clock w.changes) }
        changes := w.changes + 1 }
      { w' with
        status := { w'.status.withModes modes with lastModeChange := some (s'.clock w'.changes) }
        changes := w'.changes + 1 } :=
    ⟨hw.log, hw.files, hstatus, hw.audio, congrArg (· + 1) hw.changes⟩
  exact hchanged.saveStatus h.together.status rfl h.status_eq

theorem dispatcher (h : s.Twins keep upper s') :
    s.dispatcher.Twins s'.dispatcher h.Worlds where
  inject stroke w w' hw := ⟨h.inject stroke hw.log, hw.files, hw.status, hw.audio, hw.changes⟩
  run command w w' hw := ⟨h.run command hw.log, hw.files, hw.status, hw.audio, hw.changes⟩
  warn_left text w w' hw := hw.note_left rfl
  warn_right text w w' hw := (hw.symm.note_left rfl).symm
  observe := by
    rw [Setup.dispatcher, Setup.dispatcher, h.recorders]
    refine List.rel_append (List.forall₂_same.mpr fun o ho c modes w w' hw => ?_)
      (.cons (fun c modes w w' hw => h.observeStatus c modes hw)
        (.cons (fun c modes w w' hw => hw.observeAudio c modes) .nil))
    obtain ⟨n, -, rfl⟩ := List.mem_map.mp ho
    exact hw.note [.observed n c modes.active]

variable {d d' : Daemon}

/-- Two daemons of twins look the same. -/
abbrev Daemons (h : s.Twins keep upper s') : Daemon → Daemon → Prop :=
  Daemon.LookAlike h.sight s.locations.status upper

theorem step_alike (h : s.Twins keep upper s') (hd : h.Daemons d d') (e : Event)
    (hspare : e = .reload → s'.SparesStatus d'.world.files) :
    (d.step s e).1.anyhow = (d'.step s' e).1.anyhow ∧
      h.Daemons (d.step s e).2 (d'.step s' e).2 := by
  cases e with
  | press p =>
    obtain ⟨engine, w⟩ := d
    obtain ⟨engine', w'⟩ := d'
    obtain ⟨rfl, hw⟩ := hd
    have hp := h.dispatcher.press engine p hw
    exact ⟨congrArg Response.pressed hp.1, hp.2.fst,
      hp.2.snd.note_both (Response.calls_lines _) (Response.calls_lines _)⟩
  | expire now =>
    exact ⟨congrArg Response.anyhow (hd.expire now).1, (hd.expire now).2⟩
  | reload =>
    rw [Setup.SparesStatus, h.locations, h.describe] at hspare
    have hstep := hd.reload h.together h.locations h.describe h.dispatcher.tellAlike (hspare rfl)
    exact ⟨congrArg Response.anyhow hstep.1, hstep.2⟩
  | edit path node => exact ⟨rfl, (hd.edit path node).2⟩

theorem run_alike (h : s.Twins keep upper s') (hd : h.Daemons d d') (es : List Event)
    (hspare : d'.SparesStatus s' es) :
    (d.run s es).1.map Response.anyhow = (d'.run s' es).1.map Response.anyhow ∧
      h.Daemons (d.run s es).2 (d'.run s' es).2 := by
  induction es generalizing d d' with
  | nil => exact ⟨rfl, hd⟩
  | cons e es ih =>
    obtain ⟨hspare, hrest⟩ := hspare
    have hstep := h.step_alike hd e hspare
    have hrun := ih hstep.2 hrest
    exact ⟨congrArg₂ List.cons hstep.1 hrun.1, hrun.2⟩

theorem start_alike (h : s.Twins keep upper s') (files : FileTree) :
    (Daemon.start s files).1 = (Daemon.start s' files).1 ∧
      h.Daemons (Daemon.start s files).2 (Daemon.start s' files).2 := by
  rw [Daemon.start, Daemon.start, h.locations, h.describe]
  exact ⟨rfl, rfl,
    ((World.LookAlike.refl s upper _).saveStatus h.together.status rfl h.status_eq).warnAudio⟩

end Twins

theorem Records.twins (h : s.Records) (h' : s'.Records) (hl : s.locations.Together upper)
    (hlocations : s'.locations = s.locations) (hdescribe : s'.describe = s.describe)
    (hrecorders : s'.recorders = s.recorders) : s.Twins LogEntry.isCall upper s' := by
  obtain ⟨⟨fault, hinjector⟩, ⟨refusal, hrunner⟩⟩ := h
  obtain ⟨⟨fault', hinjector'⟩, ⟨refusal', hrunner'⟩⟩ := h'
  refine ⟨hl, hlocations, hdescribe, hrecorders, fun _ h => h, fun stroke log log' hlog => ?_,
    fun command log log' hlog => ?_⟩
  · simp only [hinjector, hinjector', Injector.inject, List.filter_append, hlog]
  · simp only [hrunner, hrunner', Runner.run, List.filter_append, hlog]

theorem injector_notices (i : Injector) (stroke : Stroke) (log : Log) :
    (i.inject stroke log).2.filter LogEntry.isNotice = log.filter LogEntry.isNotice := by
  cases i with
  | recording fault => simp [Injector.inject, LogEntry.isNotice]
  | logging =>
    rw [Injector.inject]
    split <;> simp [LogEntry.isNotice]

theorem runner_notices (r : Runner) (command : String) (log : Log) :
    (r.run command log).2.filter LogEntry.isNotice = log.filter LogEntry.isNotice := by
  cases r with
  | recording fault => simp [Runner.run, LogEntry.isNotice]
  | shell invocation start =>
    rw [Runner.run]
    split <;> simp [LogEntry.isNotice]

theorem twins_notices (hl : s.locations.Together upper)
    (hlocations : s'.locations = s.locations) (hdescribe : s'.describe = s.describe)
    (hrecorders : s'.recorders = s.recorders) : s.Twins LogEntry.isNotice upper s' where
  together := hl
  locations := hlocations
  describe := hdescribe
  recorders := hrecorders
  keep_line _ h := (LogEntry.kinds_of_line h).1
  inject stroke log log' h := by rw [injector_notices, injector_notices, h]
  run command log log' h := by rw [runner_notices, runner_notices, h]

end Setup

-- What is asked of the injector and the runner.

/-- The calls of the injector and the runner. -/
def Log.requests (log : Log) : Log :=
  log.filter LogEntry.isRequest

@[simp] theorem Log.requests_append (a b : Log) :
    Log.requests (a ++ b) = a.requests ++ b.requests :=
  List.filter_append a b

theorem Log.requests_of_calls {log : Log} (h : log.calls = []) : log.requests = [] :=
  filter_eq_nil_of_calls (fun _ h => (LogEntry.kinds_of_line h).2) h

@[simp] theorem Log.requests_warnings (texts : List String) :
    Log.requests (texts.map .warn) = [] :=
  requests_of_calls (calls_warnings texts)

namespace World

@[simp] theorem requests_saveStatus (w : World) (s : Setup) :
    (w.saveStatus s).log.requests = w.log.requests := by
  obtain ⟨texts, h⟩ := w.saveStatus_eq s
  simp [h]

@[simp] theorem requests_report (w : World) (s : Setup) (error : Option String) :
    (w.report s error).log.requests = w.log.requests :=
  requests_saveStatus _ s

@[simp] theorem requests_note_lines (w : World) (r : Response) :
    (w.note r.lines).log.requests = w.log.requests := by
  rw [World.note, Log.requests_append, Log.requests_of_calls r.calls_lines, List.append_nil]

@[simp] theorem requests_warnAudio (w : World) : w.warnAudio.log.requests = w.log.requests := by
  obtain ⟨texts, h⟩ := w.warnAudio_eq
  simp [h]

end World

namespace Setup

variable {s : Setup}

theorem tellAlike_requests (s : Setup) (asked : Log) :
    s.dispatcher.TellAlike s.dispatcher fun w w' => w = w' ∧ w.log.requests = asked := by
  have hnote (entry : LogEntry) (hentry : Log.requests [entry] = []) (w : World)
      (h : w.log.requests = asked) : (w.note [entry]).log.requests = asked := by
    rw [World.note, Log.requests_append, hentry, List.append_nil, h]
  refine .of_kept (fun text w h => hnote (.warn text) rfl w h) fun o ho c modes w h => ?_
  rcases List.mem_append.mp ho with ho | ho
  · obtain ⟨n, -, rfl⟩ := List.mem_map.mp ho
    exact hnote (.observed n c modes.active) rfl w h
  · rcases List.mem_cons.mp ho with rfl | ho
    · exact (World.requests_saveStatus _ s).trans h
    · obtain rfl := List.mem_singleton.mp ho
      rw [observeAudio]
      split
      · exact hnote (.cue c) rfl w h
      · exact h

theorem requests_settle (s : Setup) (warning : String → String) (a : Option String × World) :
    (s.dispatcher.settle warning a).log.requests = a.2.log.requests := by
  obtain ⟨fault, w⟩ := a
  cases fault with
  | none => rfl
  | some reason =>
    exact ((s.tellAlike_requests w.log.requests).warn (warning reason) ⟨rfl, rfl⟩).2

theorem Records.requests_attempt (h : s.Records) (stroke : Stroke) (w : World) :
    (s.dispatcher.attempt stroke w).log.requests = w.log.requests ++ [.inject stroke] := by
  obtain ⟨fault, hinjector⟩ := h.injector
  rw [Dispatcher.attempt, requests_settle]
  simp only [Setup.dispatcher, World.onLog, hinjector, Injector.inject, Log.requests_append]
  rfl

theorem Records.requests_injectAll (h : s.Records) (strokes : List Stroke) (w : World) :
    (s.dispatcher.injectAll strokes w).2.log.requests =
      w.log.requests ++ strokes.map .inject := by
  induction strokes generalizing w with
  | nil => exact (List.append_nil _).symm
  | cons stroke strokes ih =>
    rw [Dispatcher.injectAll_cons]
    simp only
    rw [ih, h.requests_attempt, List.append_assoc, List.map_cons, List.singleton_append]

theorem Records.requests_dispatch (h : s.Records) (a : Action) (modes : ModeStack) (w : World) :
    (s.dispatcher.dispatch a modes w).2.2.log.requests = w.log.requests ++ a.requests := by
  have htell := s.tellAlike_requests w.log.requests
  cases a with
  | type strokes => exact h.requests_injectAll strokes w
  | run command =>
    obtain ⟨refusal, hrunner⟩ := h.runner
    rw [Dispatcher.dispatch_run]
    refine (s.requests_settle _ _).trans ?_
    simp only [Setup.dispatcher, World.onLog, hrunner, Runner.run, Log.requests_append]
    rfl
  | activate m =>
    refine Eq.trans ?_ (List.append_nil _).symm
    rw [Dispatcher.dispatch]
    cases modes.push? m with
    | none => rfl
    | some modes' => exact (htell.notify (.activated m) modes' ⟨rfl, rfl⟩).2
  | deactivate m =>
    refine Eq.trans ?_ (List.append_nil _).symm
    rw [Dispatcher.dispatch]
    cases modes.pop? m with
    | none => rfl
    | some modes' => exact (htell.notify (.deactivated m) modes' ⟨rfl, rfl⟩).2

end Setup

namespace Daemon

/-- What an event asks of the injector and the runner: the press that completes a trigger asks what
its action asks. -/
def requests (d : Daemon) : Event → Log
  | .press p =>
    match d.engine.table.lookup d.engine.modes.active (d.engine.window.extended p) with
    | .exact a => a.requests
    | _ => []
  | _ => []

theorem requests_reload (d : Daemon) (s : Setup) :
    (d.step s .reload).2.world.log.requests = d.world.log.requests := by
  obtain ⟨texts, hlog⟩ := s.locations.load_log s.describe d.world.files
  have hnote : (d.world.note (s.locations.load s.describe d.world.files).1).log.requests =
      d.world.log.requests := by
    simp [World.note, hlog]
  cases ha : s.locations.accept s.describe d.world.files with
  | error e =>
    rw [step_reload_of_error ha]
    exact ((World.requests_report _ s _).trans (World.requests_note_lines _ _)).trans hnote
  | ok a =>
    rw [step_reload_of_ok ha]
    simp only [World.requests_warnAudio, World.requests_report]
    have htell := s.tellAlike_requests d.world.log.requests
    exact (htell.notifyDropped _ _ (htell.warnAll _ ⟨rfl, hnote⟩)).2

theorem requests_step {s : Setup} (hs : s.Records) (d : Daemon) (e : Event) :
    (d.step s e).2.world.log.requests = d.world.log.requests ++ d.requests e := by
  cases e with
  | press p =>
    have hlines : (d.step s (.press p)).2.world.log.requests =
        (d.engine.press s.dispatcher p d.world).2.2.log.requests :=
      World.requests_note_lines _ _
    rw [hlines, requests]
    rcases d.engine.press_cases s.dispatcher p d.world with
      ⟨a, hl, hp⟩ | ⟨hl, hp⟩ | ⟨hl, hp⟩ <;> rw [hp, hl]
    · exact hs.requests_dispatch a d.engine.modes d.world
    · exact (List.append_nil _).symm
    · exact (List.append_nil _).symm
  | expire now => exact (List.append_nil _).symm
  | reload => exact (d.requests_reload s).trans (List.append_nil _).symm
  | edit path node => exact (List.append_nil _).symm

/-- The response to a press that types strokes tells how many of them failed. -/
theorem step_type {d : Daemon} {p : Press} {strokes : List Stroke} (s : Setup)
    (h : d.engine.table.lookup d.engine.modes.active (d.engine.window.extended p) =
      .exact (.type strokes)) :
    (d.step s (.press p)).1 = .pressed (some (.injected strokes.length
      ((List.range strokes.length).countP (s.dispatcher.failsAt strokes d.world)))) := by
  rcases d.engine.press_cases s.dispatcher p d.world with
    ⟨a, hl, hp⟩ | ⟨hl, -⟩ | ⟨hl, -⟩
  · obtain rfl : Action.type strokes = a := by
      rw [h] at hl
      exact Table.Lookup.exact.inj hl
    rw [step, hp, ← Dispatcher.injectAll_fst]
    rfl
  · rw [h] at hl
    cases hl
  · rw [h] at hl
    cases hl

/-- **Failures change nothing else.**  Two daemons start from the same files, with the same reader
of settings and the same observers, and the same happens to them; their injectors, runners, clocks
and systems differ, so that strokes, commands and status files may fail at any call of one and not
of the other.  As long as no reload of one of them takes the status file for the mapping file, they
load the same, respond alike but for what failed, and have the same engine, the same audio switch,
the same status but for the time of the last change, and the same changes told.  If their calls are
noted, they make the same calls in the same order: an event asks of the injector and the runner what
its action asks, each stroke once and in order.  The response to strokes tells how many of them
failed. -/
theorem failures_contained {dir : String} {s s' : Setup} (hs : s.locations = .within dir)
    (hs' : s'.locations = .within dir) (hdescribe : s'.describe = s.describe)
    (hrecorders : s'.recorders = s.recorders) :
    (∀ (files : FileTree) (es : List Event), (start s' files).2.SparesStatus s' es →
      let responses (s : Setup) := ((start s files).2.run s es).1
      let last (s : Setup) := ((start s files).2.run s es).2
      (start s files).1 = (start s' files).1 ∧
        (responses s).map Response.anyhow = (responses s').map Response.anyhow ∧
        (last s).engine = (last s').engine ∧
        (last s).world.audio = (last s').world.audio ∧
        (last s).world.status.untimed = (last s').world.status.untimed ∧
        (last s).world.log.filter LogEntry.isNotice =
          (last s').world.log.filter LogEntry.isNotice ∧
        (s.Records → s'.Records → (last s).world.log.calls = (last s').world.log.calls)) ∧
    (s.Records → ∀ (d : Daemon) (e : Event),
      (d.step s e).2.world.log.requests = d.world.log.requests ++ d.requests e) ∧
    ∀ (d : Daemon) (p : Press) (strokes : List Stroke),
      d.engine.table.lookup d.engine.modes.active (d.engine.window.extended p) =
        .exact (.type strokes) →
      (d.step s (.press p)).1 = .pressed (some (.injected strokes.length
        ((List.range strokes.length).countP (s.dispatcher.failsAt strokes d.world)))) := by
  obtain ⟨upper, hl⟩ := Locations.exists_together dir
  rw [← hs] at hl
  have hlocations : s'.locations = s.locations := hs'.trans hs.symm
  refine ⟨fun files es hspare => ?_, fun h d e => requests_step h d e,
    fun d p strokes h => step_type s h⟩
  have htwins := Setup.twins_notices hl hlocations hdescribe hrecorders
  obtain ⟨hstartup, hstart⟩ := htwins.start_alike files
  obtain ⟨hresponses, hrun⟩ := htwins.run_alike hstart es hspare
  refine ⟨hstartup, hresponses, hrun.engine, hrun.world.audio, hrun.world.status, hrun.world.log,
    fun h h' => ?_⟩
  have hcalls := h.twins h' hl hlocations hdescribe hrecorders
  exact (hcalls.run_alike (hcalls.start_alike files).2 es hspare).2.world.log

/-- A setup in which every other stroke, every command and every other status file fails, or
nothing does. -/
def flaky (fails : Bool) : Setup where
  locations := .within "c"
  describe _ := badSettingsCause
  injector := .recording fun calls _ => if fails ∧ calls.length % 2 = 0 then some "busy" else none
  runner := .recording fun _ _ => if fails then some "busy" else none
  clock n := if fails then toString n else "noon"
  statusFault n := if fails ∧ n % 2 = 0 then some .permissionDenied else none

/-- Its files: a command and three strokes are mapped. -/
def flakyFiles : FileTree :=
  (⟨[]⟩ : FileTree).lay "c/mappings.ekmap" (some (.text "cmd <Up> x\nmap <Down> abc"))

def flakyEvents : List Event :=
  [.press ⟨.down, 0⟩, .reload, .press ⟨.up, 1⟩]

def flakyRun (fails : Bool) : List Response × Daemon :=
  (start (flaky fails) flakyFiles).2.run (flaky fails) flakyEvents

theorem failures_contained_flaky :
    let first := (start (flaky true) flakyFiles).2
    let strokes : List Stroke := [.plain (.char 'a'), .plain (.char 'b'), .plain (.char 'c')]
    (start (flaky false) flakyFiles).2.SparesStatus (flaky false) flakyEvents ∧
      (flakyRun true).1 = [.pressed (some (.injected 3 2)), .reloaded ⟨2, false, 0⟩,
        .pressed (some .commandFailed)] ∧
      (flakyRun false).1 = [.pressed (some (.injected 3 0)), .reloaded ⟨2, false, 0⟩,
        .pressed (some .commandStarted)] ∧
      (flakyRun true).2.world.log.calls = (flakyRun false).2.world.log.calls ∧
      (first.step (flaky true) (.press ⟨.down, 0⟩)).2.world.log.requests =
        first.world.log.requests ++ strokes.map .inject ∧
      (first.step (flaky true) (.press ⟨.down, 0⟩)).1 = .pressed (some (.injected 3
        ((List.range 3).countP ((flaky true).dispatcher.failsAt strokes first.world)))) := by
  intro first strokes
  have hspare : (start (flaky false) flakyFiles).2.SparesStatus (flaky false) flakyEvents := by
    refine ⟨nofun, fun _ settings h => ?_, nofun, trivial⟩
    have hload : (Settings.load (flaky false).describe ((start (flaky false) flakyFiles).2.run
        (flaky false) (flakyEvents.take 1)).2.world.files "c/config.toml").toOption = some {} := by
      decide +kernel
    obtain rfl := Option.some.inj (hload.symm.trans (congrArg Except.toOption h))
    decide +kernel
  have hrecords (fails : Bool) : (flaky fails).Records := ⟨⟨_, rfl⟩, ⟨_, rfl⟩⟩
  have hlookup : first.engine.table.lookup first.engine.modes.active
      (first.engine.window.extended ⟨.down, 0⟩) = .exact (.type strokes) := by
    decide +kernel
  have hrequests : first.requests (.press ⟨.down, 0⟩) = strokes.map .inject := by
    rw [requests, hlookup]
    rfl
  obtain ⟨hrun, hstep, htype⟩ := @failures_contained "c" (flaky true) (flaky false) rfl rfl rfl rfl
  refine ⟨hspare, ?_, ?_, ?_, ?_, ?_⟩
  · decide +kernel
  · decide +kernel
  · exact (hrun flakyFiles flakyEvents hspare).2.2.2.2.2.2 (hrecords true) (hrecords false)
  · rw [hstep (hrecords true), hrequests]
  · exact htype first ⟨.down, 0⟩ strokes hlookup

end Daemon

end InlineRemote
