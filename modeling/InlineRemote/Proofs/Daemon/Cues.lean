import InlineRemote.Proofs.Daemon.Accepted
import InlineRemote.Proofs.Daemon.Failures
import InlineRemote.Proofs.Daemon.Invisible
import InlineRemote.Proofs.Engine.Notices

/-! # Cues

The audio switch is read whenever a change of mode is told.  A press leaves it alone.  An accepted
reload turns it last, when the modes that it drops have been told; a failed one never gets so far.
So in every run a change is cued if audio was on in the load that was in force before its event, and
a reload that fails, whatever it asks for, is as good as none. -/
namespace InlineRemote

/-- The change for which an entry is the cue. -/
def LogEntry.cue? : LogEntry → Option ModeChange
  | .cue c => some c
  | _ => none

namespace Log

/-- The changes for which a cue was played, oldest first. -/
def cues (log : Log) : List ModeChange :=
  log.filterMap LogEntry.cue?

@[simp] theorem cues_append (a b : Log) : cues (a ++ b) = cues a ++ cues b :=
  List.filterMap_append

theorem cues_of_calls {log : Log} (h : log.calls = []) : log.cues = [] := by
  rw [calls, List.filter_eq_nil_iff] at h
  refine List.filterMap_eq_nil_iff.mpr fun entry hentry => ?_
  cases entry with
  | cue c => exact absurd rfl (h _ hentry)
  | _ => rfl

@[simp] theorem cues_warnings (texts : List String) : cues (texts.map .warn) = [] :=
  cues_of_calls (calls_warnings texts)

theorem cues_filter_isNotice (log : Log) : cues (log.filter LogEntry.isNotice) = log.cues := by
  rw [cues, List.filterMap_filter, cues]
  refine congrArg (log.filterMap ·) (funext fun entry => ?_)
  cases entry <;> rfl

end Log

theorem Startup.cues_load (l : Locations) (describe : String → String) (files : FileTree) :
    (Startup.load l describe files).log.cues = [] := by
  have hsettings : (loadSettings describe files l.settings).2.2.cues = [] := by
    rw [loadSettings]
    split <;> rfl
  have hset (path : String) : (MappingSet.load files path).1.cues = [] := by
    rw [MappingSet.load]
    repeat' split
    all_goals rfl
  have htable (path : String) : (loadTable files path).2.2.cues = [] := by
    have hlog := hset path
    rw [loadTable]
    generalize MappingSet.load files path = a at hlog ⊢
    obtain ⟨log, loaded⟩ := a
    have herror (text : String) (texts : List String) :
        Log.cues (log ++ .error text :: texts.map .warn) = [] := by
      rw [List.append_cons]
      simp only [Log.cues_append, Log.cues_warnings, hlog]
      rfl
    cases loaded with
    | error e => exact herror _ _
    | ok set =>
      simp only
      split
      · simp only [Log.cues_append, Log.cues_warnings, hlog, List.append_nil]
      · exact herror _ _
  simp only [load, Log.cues_append, hsettings, htable, List.append_nil]

namespace World

/-- Between two worlds cues are played for changes if the audio switch is on, and the switch is not
turned. -/
structure Plays (w w' : World) (cs : List ModeChange) : Prop where
  audio : w'.audio = w.audio
  cues : w'.log.cues = w.log.cues ++ if w.audio then cs else []

namespace Plays

variable {w v u : World} {cs cs' : List ModeChange}

theorem silent (haudio : v.audio = w.audio) (hcues : v.log.cues = w.log.cues) : w.Plays v [] :=
  ⟨haudio, by rw [hcues, ite_self, List.append_nil]⟩

theorem note {entry : LogEntry} (h : entry.cue? = none) : w.Plays (w.note [entry]) [] := by
  refine silent rfl ?_
  simp [World.note, Log.cues, h]

theorem trans (h : w.Plays v cs) (h' : v.Plays u cs') : w.Plays u (cs ++ cs') := by
  refine ⟨h'.audio.trans h.audio, ?_⟩
  rw [h'.cues, h.cues, h.audio, List.append_assoc]
  by_cases haudio : w.audio <;> simp [haudio]

end Plays

@[simp] theorem cues_saveStatus (w : World) (s : Setup) :
    (w.saveStatus s).log.cues = w.log.cues := by
  obtain ⟨texts, h⟩ := w.saveStatus_eq s
  simp [h]

@[simp] theorem cues_report (w : World) (s : Setup) (error : Option String) :
    (w.report s error).log.cues = w.log.cues :=
  cues_saveStatus _ s

@[simp] theorem cues_note_lines (w : World) (r : Response) :
    (w.note r.lines).log.cues = w.log.cues := by
  rw [World.note, Log.cues_append, Log.cues_of_calls r.calls_lines, List.append_nil]

@[simp] theorem cues_warnAudio (w : World) : w.warnAudio.log.cues = w.log.cues := by
  obtain ⟨texts, h⟩ := w.warnAudio_eq
  simp [h]

end World

namespace Setup

variable (s : Setup) (w : World)

theorem plays_warnAll (texts : List String) : w.Plays (s.dispatcher.warnAll texts w) [] := by
  refine List.foldlRecOn (motive := fun v => w.Plays v []) texts _ (.silent rfl rfl)
    fun v hv text _ => ?_
  exact hv.trans (.note rfl)

theorem plays_settle (warning : String → String) (fault : Option String) :
    w.Plays (s.dispatcher.settle warning (fault, w)) [] := by
  cases fault with
  | none => exact .silent rfl rfl
  | some reason => exact s.plays_warnAll w [warning reason]

theorem plays_attempt (stroke : Stroke) : w.Plays (s.dispatcher.attempt stroke w) [] := by
  have hinject : w.Plays (s.dispatcher.inject stroke w).2 [] := by
    refine .silent rfl ?_
    change (s.injector.inject stroke w.log).2.cues = w.log.cues
    rw [← Log.cues_filter_isNotice, injector_notices, Log.cues_filter_isNotice]
  exact hinject.trans (s.plays_settle _ _ _)

theorem plays_injectAll (strokes : List Stroke) :
    w.Plays (s.dispatcher.injectAll strokes w).2 [] := by
  induction strokes generalizing w with
  | nil => exact .silent rfl rfl
  | cons stroke strokes ih =>
    rw [Dispatcher.injectAll_cons]
    exact (s.plays_attempt w stroke).trans (ih _)

theorem plays_run (command : String) :
    w.Plays (s.dispatcher.settle (commandWarning command) (s.dispatcher.run command w)) [] := by
  have hrun : w.Plays (s.dispatcher.run command w).2 [] := by
    refine .silent rfl ?_
    change (s.runner.run command w.log).2.cues = w.log.cues
    rw [← Log.cues_filter_isNotice, runner_notices, Log.cues_filter_isNotice]
  exact hrun.trans (s.plays_settle _ _ _)

theorem plays_notify (c : ModeChange) (modes : ModeStack) :
    w.Plays (s.dispatcher.notify c modes w) [c] := by
  have hrecorded : w.Plays (((List.range s.recorders).map fun n => lift (recorder n)).foldl
      (fun w observe => observe c modes w) w) [] := by
    refine List.foldlRecOn (motive := fun v => w.Plays v []) _ _ (.silent rfl rfl)
      fun v hv o ho => ?_
    obtain ⟨n, -, rfl⟩ := List.mem_map.mp ho
    exact hv.trans (.note rfl)
  have hstatus (v : World) : v.Plays (s.observeStatus c modes v) [] :=
    .silent (World.audio_saveStatus _ s) (World.cues_saveStatus _ s)
  have haudio (v : World) : v.Plays (observeAudio c modes v) [c] := by
    by_cases h : v.audio
    · refine ⟨by simp [observeAudio, h, World.note], ?_⟩
      simp only [observeAudio, h, if_true, World.note, Log.cues_append]
      rfl
    · exact ⟨by simp [observeAudio, h], by simp [observeAudio, h]⟩
  rw [Dispatcher.notify, dispatcher, List.foldl_append, List.foldl_cons, List.foldl_cons,
    List.foldl_nil]
  exact (hrecorded.trans (hstatus _)).trans (haudio _)

theorem plays_notifyDropped (dropped : List ModeId) (modes : ModeStack) :
    w.Plays (dropped.foldl (fun w m => s.dispatcher.notify (.deactivated m) modes w) w)
      (dropped.map .deactivated) := by
  induction dropped generalizing w with
  | nil => exact .silent rfl rfl
  | cons m dropped ih => exact (s.plays_notify w (.deactivated m) modes).trans (ih _)

theorem plays_dispatch (a : Action) {modes : ModeStack} (hmodes : modes.active.Nodup) :
    w.Plays (s.dispatcher.dispatch a modes w).2.2 (modes.changesTo (modes.after a)) := by
  cases a with
  | type strokes =>
    change w.Plays (s.dispatcher.injectAll strokes w).2 (modes.changesTo modes)
    rw [ModeStack.changesTo_self]
    exact s.plays_injectAll w strokes
  | run command =>
    change w.Plays _ (modes.changesTo modes)
    rw [ModeStack.changesTo_self, Dispatcher.dispatch_run]
    exact s.plays_run w command
  | activate m =>
    rw [Dispatcher.dispatch, ModeStack.after]
    by_cases hm : m ∈ modes.active
    · have hpush : modes.push? m = none := by simp [ModeStack.push?, hm]
      simpa [hpush] using World.Plays.silent rfl rfl
    · have hpush : modes.push? m = some ⟨modes.active ++ [m]⟩ := by simp [ModeStack.push?, hm]
      simpa [hpush, ModeStack.changesTo_push hm] using s.plays_notify w (.activated m) _
  | deactivate m =>
    rw [Dispatcher.dispatch, ModeStack.after]
    by_cases hm : m ∈ modes.active
    · have hpop : modes.pop? m = some ⟨modes.active.filter (· ≠ m)⟩ := by
        simp only [ModeStack.pop?, ModeStack.contains_eq_true_iff, hm, if_true]
      simp only [hpop, Option.getD_some, ModeStack.changesTo_pop hmodes hm]
      exact s.plays_notify w (.deactivated m) _
    · have hpop : modes.pop? m = none := by simp [ModeStack.pop?, hm]
      simpa [hpop] using World.Plays.silent rfl rfl

end Setup

namespace Daemon

/-- What an event does to the engine and to the audio switch. -/
inductive Turn where
  | press (p : Press)
  | tick (now : Nat)
  /-- A load is accepted. -/
  | load (settings : Settings) (t : Table)

namespace Turn

def next (e : Engine) : Turn → Engine
  | press p => e.afterPress p
  | tick now => (e.expire now).2
  | load settings t => e.adopt t settings.timeout

/-- The audio switch after a turn. -/
def switch (audio : Bool) : Turn → Bool
  | load settings _ => settings.audio
  | _ => audio

/-- What turns change, as far as audio is on when they come. -/
def cues (e : Engine) (audio : Bool) : List Turn → List ModeChange
  | [] => []
  | turn :: turns =>
    (if audio then e.modes.changesTo (turn.next e).modes else []) ++
      cues (turn.next e) (turn.switch audio) turns

theorem shift (e : Engine) (turn : Turn) : e.modes.Shift (turn.next e).modes := by
  cases turn with
  | press p => exact e.next_shift (.press p)
  | tick now => exact .refl e.modes
  | load settings t => exact .filter t.declares

end Turn

variable {d : Daemon} {s : Setup}

/-- The turn that an event is.  A reload is one if its load is accepted; a failed reload is none, and
neither is an edit of a file. -/
def turn? (d : Daemon) (s : Setup) : Event → Option Turn
  | .press p => some (.press p)
  | .expire now => some (.tick now)
  | .reload => (s.locations.accept s.describe d.world.files).toOption.map fun a => .load a.1 a.2
  | .edit .. => none

def turns (d : Daemon) (s : Setup) : List Event → List Turn
  | [] => []
  | e :: es => (d.turn? s e).toList ++ (d.step s e).2.turns s es

theorem turns_append (d : Daemon) (s : Setup) (es es' : List Event) :
    d.turns s (es ++ es') = d.turns s es ++ (d.run s es).2.turns s es' := by
  induction es generalizing d with
  | nil => rfl
  | cons e es ih =>
    rw [List.cons_append, turns, ih, turns, List.append_assoc]
    rfl

theorem turn?_of_error {e : ReloadError}
    (h : s.locations.accept s.describe d.world.files = .error e) :
    d.turn? s .reload = none := by
  rw [turn?, h]
  rfl

theorem turns_eq_of_no_reload {es : List Event} (hes : .reload ∉ es) (d d' : Daemon) :
    d.turns s es = d'.turns s es := by
  induction es generalizing d d' with
  | nil => rfl
  | cons e es ih =>
    obtain ⟨he, hes⟩ := List.ne_and_not_mem_of_not_mem_cons hes
    have hturn : d.turn? s e = d'.turn? s e := by
      cases e with
      | reload => exact absurd rfl he
      | press p => rfl
      | expire now => rfl
      | edit path node => rfl
    rw [turns, turns, hturn, ih hes (d.step s e).2 (d'.step s e).2]

/-- A failed reload can be left out of a run if what comes later loads the same without it. -/
theorem turns_failed {es later : List Event} {e : ReloadError}
    (h : s.locations.accept s.describe (d.run s es).2.world.files = .error e)
    (hlater : ((d.run s es).2.step s .reload).2.turns s later = (d.run s es).2.turns s later) :
    d.turns s (es ++ .reload :: later) = d.turns s (es ++ later) := by
  rw [turns_append, turns_append, turns, turn?_of_error h, hlater]
  rfl

/-- The daemon after so many events of a run. -/
def after (d : Daemon) (s : Setup) (es : List Event) (n : Nat) : Daemon :=
  (d.run s (es.take n)).2

/-- How the event with a number changes the stack of modes. -/
def changes (d : Daemon) (s : Setup) (es : List Event) (n : Nat) : List ModeChange :=
  (d.after s es n).engine.modes.changesTo (d.after s es (n + 1)).engine.modes

theorem after_succ {es : List Event} {n : Nat} {e : Event} (h : es[n]? = some e) :
    d.after s es (n + 1) = ((d.after s es n).step s e).2 := by
  induction es generalizing d n with
  | nil => cases h
  | cons e' es ih =>
    cases n with
    | zero =>
      obtain rfl := Option.some.inj h
      rfl
    | succ n => exact ih h

theorem step_engine (d : Daemon) (s : Setup) (e : Event) :
    (d.step s e).2.engine = (d.turn? s e).elim d.engine (Turn.next d.engine) := by
  cases e with
  | press p => exact d.engine.press_engine s.dispatcher p d.world
  | expire now => rfl
  | reload =>
    rw [turn?]
    cases ha : s.locations.accept s.describe d.world.files with
    | error e => rw [step_reload_of_error ha]; rfl
    | ok a => rw [step_reload_of_ok ha]; rfl
  | edit path node => rfl

theorem step_audio (d : Daemon) (s : Setup) (e : Event) :
    (d.step s e).2.world.audio = (d.turn? s e).elim d.world.audio (Turn.switch d.world.audio) := by
  cases e with
  | press p => exact ((s.dispatcher_audio d.world.audio).press d.engine p ⟨rfl, rfl⟩).2.snd.2
  | expire now => rfl
  | reload =>
    rw [turn?]
    cases ha : s.locations.accept s.describe d.world.files with
    | error e =>
      obtain ⟨texts, texts', hworld⟩ := d.failedWorld_eq s e
      rw [step_reload_of_error ha, hworld]
      rfl
    | ok a =>
      rw [step_reload_of_ok ha]
      simp only [World.audio_warnAudio, World.audio_report]
      rfl
  | edit path node => rfl

theorem step_shift (d : Daemon) (s : Setup) (e : Event) :
    d.engine.modes.Shift (d.step s e).2.engine.modes := by
  rw [step_engine]
  cases d.turn? s e with
  | none => exact .refl d.engine.modes
  | some turn => exact turn.shift d.engine

theorem cues_failedWorld (d : Daemon) (s : Setup) (e : ReloadError) :
    (d.failedWorld s e).log.cues = d.world.log.cues := by
  obtain ⟨texts, hlog⟩ := s.locations.load_log s.describe d.world.files
  simp [failedWorld, World.note, hlog, Log.cues_of_calls (Response.calls_lines _)]

theorem plays_toldWorld (d : Daemon) (s : Setup) (t : Table) :
    d.world.Plays (d.toldWorld s t) ((d.engine.modes.dropped t.declares).map .deactivated) := by
  obtain ⟨texts, hlog⟩ := s.locations.load_log s.describe d.world.files
  have hload : d.world.Plays (d.world.note (s.locations.load s.describe d.world.files).1) [] :=
    .silent rfl (by simp [World.note, hlog])
  exact (hload.trans (s.plays_warnAll _ t.warnings)).trans (s.plays_notifyDropped _ _ _)

/-- **One event** is cued for how it changes the modes, if audio is on when it comes. -/
theorem cues_step (h : d.engine.modes.active.Nodup) (e : Event) :
    (d.step s e).2.world.log.cues = d.world.log.cues ++
      if d.world.audio then d.engine.modes.changesTo (d.step s e).2.engine.modes else [] := by
  have hsame : d.world.log.cues = d.world.log.cues ++
      if d.world.audio then d.engine.modes.changesTo d.engine.modes else [] := by simp
  cases e with
  | press p =>
    rcases d.engine.press_cases s.dispatcher p d.world with
      ⟨a, -, hp⟩ | ⟨-, hp⟩ | ⟨-, hp⟩ <;> rw [step, hp] <;> simp only [World.cues_note_lines]
    · exact (s.plays_dispatch d.world a h).cues
    · exact hsame
    · exact hsame
  | expire now => exact hsame
  | reload =>
    cases ha : s.locations.accept s.describe d.world.files with
    | error e =>
      rw [step_reload_of_error ha]
      exact (d.cues_failedWorld s e).trans hsame
    | ok a =>
      obtain ⟨settings, t⟩ := a
      have hchanges : d.engine.modes.changesTo (d.engine.adopt t settings.timeout).modes =
          (d.engine.modes.dropped t.declares).map .deactivated :=
        d.engine.modes.changesTo_retain t.declares
      rw [step_reload_of_ok ha]
      simp only [World.cues_warnAudio, World.cues_report, hchanges]
      exact (d.plays_toldWorld s t).cues
  | edit path node => exact hsame

theorem cues_run (h : d.engine.modes.active.Nodup) (es : List Event) :
    (d.run s es).2.world.log.cues =
      d.world.log.cues ++ Turn.cues d.engine d.world.audio (d.turns s es) := by
  induction es generalizing d with
  | nil => exact (List.append_nil _).symm
  | cons e es ih =>
    -- What comes after an event depends on the engine and the switch that it leaves, so that an
    -- event that is no turn drops out.
    have hstep := cues_step (s := s) h e
    have hrest := ih ((d.step_shift s e).nodup h)
    have hengine := d.step_engine s e
    have haudio := d.step_audio s e
    rw [hstep] at hrest
    rw [run, turns]
    refine hrest.trans ?_
    cases ht : d.turn? s e with
    | none => simp [hengine, haudio, ht]
    | some turn => simp [hengine, haudio, ht, Turn.cues]

theorem cues_run_eq_flatMap (h : d.engine.modes.active.Nodup) (es : List Event) :
    (d.run s es).2.world.log.cues = d.world.log.cues ++ (List.range es.length).flatMap fun n =>
      if (d.after s es n).world.audio then d.changes s es n else [] := by
  induction es generalizing d with
  | nil => exact (List.append_nil _).symm
  | cons e es ih =>
    have hrest := ih ((d.step_shift s e).nodup h)
    rw [cues_step h e, List.append_assoc] at hrest
    rw [List.length_cons, List.range_succ_eq_map, List.flatMap_cons, List.flatMap_map]
    exact hrest

theorem cues_start (s : Setup) (files : FileTree) : (start s files).2.world.log.cues = [] := by
  simp only [start, World.cues_warnAudio, World.cues_saveStatus, Startup.cues_load]

/-- The audio setting of the load that was accepted last, after so many events from the start. -/
def audioSetting (s : Setup) (files : FileTree) (es : List Event) (n : Nat) : Bool :=
  let (startup, d) := start s files
  (d.accepted s (startup.settings, startup.table) (es.take n)).1.audio

theorem audio_after (s : Setup) (files : FileTree) (es : List Event) (n : Nat) :
    ((start s files).2.after s es n).world.audio = audioSetting s files es n :=
  ((inForce_start s files).run (es.take n)).audio

/-- **Cues follow the accepted setting.**  After every run from the start the cues are the changes of
mode, event by event, of those events before which the load that was accepted last, at the start or
by a reload, had audio on.  An accepted reload cues the modes that it drops, innermost first, by the
setting from before it, and its own setting holds from then on.  A failed reload plays nothing and
leaves the setting and the engine.  Whatever failed reloads there are in a run, and whatever
they ask for, it has the cues of any other run with the same presses, ticks and accepted loads. -/
theorem cues_follow_setting (s : Setup) (files : FileTree) (es : List Event) :
    let d := (start s files).2
    let audio := audioSetting s files es
    (d.run s es).2.world.log.cues =
        (List.range es.length).flatMap (fun n => if audio n then d.changes s es n else []) ∧
      (∀ (n : Nat) (settings : Settings) (t : Table), es[n]? = some .reload →
        s.locations.accept s.describe (d.after s es n).world.files = .ok (settings, t) →
          (d.after s es (n + 1)).world.log.cues = (d.after s es n).world.log.cues ++
            (if audio n then ((d.after s es n).engine.modes.dropped t.declares).map .deactivated
              else []) ∧
          audio (n + 1) = settings.audio) ∧
      (∀ (n : Nat) (e : ReloadError), es[n]? = some .reload →
        s.locations.accept s.describe (d.after s es n).world.files = .error e →
          (d.after s es (n + 1)).world.log.cues = (d.after s es n).world.log.cues ∧
          audio (n + 1) = audio n ∧
          (d.after s es (n + 1)).engine = (d.after s es n).engine) ∧
      ∀ es' : List Event, d.turns s es' = d.turns s es →
        (d.run s es').2.world.log.cues = (d.run s es).2.world.log.cues := by
  intro d audio
  have haudio (n : Nat) : (d.after s es n).world.audio = audio n := audio_after s files es n
  have hnodup : d.engine.modes.active.Nodup := List.nodup_nil
  refine ⟨?_, fun n settings t hn ha => ?_, fun n e hn ha => ?_, fun es' hturns => ?_⟩
  · have hrun := cues_run_eq_flatMap (s := s) hnodup es
    simp only [haudio] at hrun
    rw [hrun, cues_start, List.nil_append]
  · have htold := (d.after s es n).plays_toldWorld s t
    rw [← haudio (n + 1), ← haudio n, after_succ hn, step_reload_of_ok ha]
    simp only [World.cues_warnAudio, World.cues_report, World.audio_warnAudio, World.audio_report,
      and_true]
    exact htold.cues
  · have hcues := (d.after s es n).cues_failedWorld s e
    have hengine := (d.after s es n).step_engine s .reload
    have hsame := (d.after s es n).step_audio s .reload
    rw [turn?_of_error ha] at hengine hsame
    rw [← haudio (n + 1), ← haudio n, after_succ hn]
    refine ⟨?_, hsame, hengine⟩
    rw [step_reload_of_error ha]
    exact hcues
  · rw [cues_run hnodup es', cues_run hnodup es, hturns]

/-- Two modes are declared, and audio is on. -/
def cuedFiles : FileTree :=
  ((⟨[]⟩ : FileTree).lay "c/config.toml" (some (.text "audio = true"))).lay "c/mappings.ekmap"
    (some (.text "mode <Up> \x7b\nmap <Play> x\n\x7d\nmode <Down> \x7b\nmap <Play> y\n\x7d"))

/-- Both are activated, and dropped by a reload that turns audio off.  Then another mode is
activated, audio is asked for, and the mapping file is spoilt. -/
def cuedEvents : List Event :=
  [.press ⟨.up, 0⟩, .press ⟨.down, 1⟩,
    .edit "c/config.toml" (some (.text "audio = false")),
    .edit "c/mappings.ekmap" (some (.text "mode <Play> \x7b\nmap <Up> x\n\x7d")),
    .reload, .press ⟨.play, 2⟩,
    .edit "c/config.toml" (some (.text "audio = true")),
    .edit "c/mappings.ekmap" (some (.text "?"))]

theorem cues_follow_setting_failed :
    let later : List Event := [.press ⟨.play, 3⟩]
    let es := cuedEvents ++ .reload :: later
    ((start quiet cuedFiles).2.run quiet es).2.world.log.cues =
        [.activated ⟨"<Up>"⟩, .activated ⟨"<Down>"⟩, .deactivated ⟨"<Down>"⟩,
          .deactivated ⟨"<Up>"⟩] ∧
      (start quiet cuedFiles).2.changes quiet es 5 = [.activated ⟨"<Play>"⟩] ∧
      (start quiet cuedFiles).2.changes quiet es 9 = [.deactivated ⟨"<Play>"⟩] ∧
      audioSetting quiet cuedFiles es 9 = audioSetting quiet cuedFiles es 8 ∧
      ((start quiet cuedFiles).2.run quiet (cuedEvents ++ later)).2.world.log.cues =
        ((start quiet cuedFiles).2.run quiet es).2.world.log.cues := by
  intro later es
  obtain ⟨-, -, hfailed, hsame⟩ := cues_follow_setting quiet cuedFiles es
  have hreload : quiet.locations.accept quiet.describe
      ((start quiet cuedFiles).2.run quiet cuedEvents).2.world.files =
        .error (.load (.malformedMappings "c/mappings.ekmap" (.line 1 (.malformed "?")))) :=
    notReloaded_iff.mp (by decide +kernel)
  -- No reload comes after the one that fails.
  have hturns : (start quiet cuedFiles).2.turns quiet es =
      (start quiet cuedFiles).2.turns quiet (cuedEvents ++ later) :=
    turns_failed hreload (turns_eq_of_no_reload (by decide) _ _)
  have hafter : (start quiet cuedFiles).2.after quiet es 8 =
      ((start quiet cuedFiles).2.run quiet cuedEvents).2 := by
    have htake : es.take 8 = cuedEvents := rfl
    rw [after, htake]
  rw [← hafter] at hreload
  refine ⟨?_, ?_, ?_, (hfailed 8 _ rfl hreload).2.1, hsame _ hturns.symm⟩
  · decide +kernel
  · decide +kernel
  · decide +kernel

end Daemon

end InlineRemote
