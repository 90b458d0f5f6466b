import InlineRemote.Daemon
import InlineRemote.Proofs.Engine.Worlds

/-! # What a reload does

A reload first loads the settings and the mappings and builds the table.  If any of that fails, what
is left of the reload are lines of the log, the error of the status, and the status file. -/
namespace InlineRemote

/-- The status but for its error. -/
def Status.withoutError (s : Status) : Status :=
  { s with error := none }

namespace Log

@[simp] theorem calls_warnings (texts : List String) : calls (texts.map .warn) = [] := by
  rw [calls, List.filter_eq_nil_iff]
  intro entry hentry
  obtain ⟨text, -, rfl⟩ := List.mem_map.mp hentry
  exact Bool.false_ne_true

theorem filter_eq_nil_of_calls {keep : LogEntry → Bool}
    (h : ∀ entry : LogEntry, entry.isCall = false → keep entry = false) {log : Log}
    (hlog : log.calls = []) : log.filter keep = [] := by
  rw [calls, List.filter_eq_nil_iff] at hlog
  rw [List.filter_eq_nil_iff]
  intro entry hentry
  rw [h entry (Bool.of_not_eq_true (hlog entry hentry))]
  exact Bool.false_ne_true

end Log

@[simp] theorem Response.calls_lines (r : Response) : r.lines.calls = [] := by
  fun_cases lines r <;> rfl

/-- What a load gives when all of it succeeds: the settings, and the table of the mapping file. -/
def Locations.accept (l : Locations) (describe : String → String) (files : FileTree) :
    Except ReloadError (Settings × Table) :=
  match (l.load describe files).2 with
  | .error e => .error (.load e)
  | .ok (settings, set) =>
    match Table.build set with
    | .error e => .error (.table e)
    | .ok t => .ok (settings, t)

theorem Locations.load_log (l : Locations) (describe : String → String) (files : FileTree) :
    ∃ texts : List String, (l.load describe files).1 = texts.map .warn := by
  have hset (path : String) :
      ∃ texts : List String, (MappingSet.load files path).1 = texts.map .warn := by
    rw [MappingSet.load]
    split
    · exact ⟨[MappingSet.absenceWarning path], rfl⟩
    · split
      · exact ⟨[], rfl⟩
      · split <;> exact ⟨[], rfl⟩
  rw [load]
  split
  · exact ⟨[], rfl⟩
  · next settings _ =>
    obtain ⟨texts, htexts⟩ := hset (l.mappingsOf settings)
    split
    all_goals
      next h =>
      rw [h] at htexts
      exact ⟨texts, htexts⟩

namespace World

/-- The files once the status was saved. -/
def savedFiles (w : World) (s : Setup) : FileTree :=
  (w.status.save s.locations.status w.files (s.statusFault w.saves)).1

theorem saveStatus_eq (w : World) (s : Setup) : ∃ texts : List String,
    w.saveStatus s = { w with
      files := w.savedFiles s, log := w.log ++ texts.map .warn, saves := w.saves + 1 } := by
  rw [saveStatus, savedFiles]
  generalize w.status.save s.locations.status w.files (s.statusFault w.saves) = a
  obtain ⟨files, warning⟩ := a
  cases warning with
  | none => exact ⟨[], by rw [List.map_nil, List.append_nil]⟩
  | some warning => exact ⟨[warning], rfl⟩

theorem report_eq (w : World) (s : Setup) (error : Option String) :
    ∃ texts : List String, w.report s error =
      { w with
        log := w.log ++ texts.map .warn, saves := w.saves + 1
        files := savedFiles { w with status := { w.status with error } } s
        status := { w.status with error } } :=
  saveStatus_eq { w with status := { w.status with error } } s

theorem warnAudio_eq (w : World) : ∃ texts : List String,
    w.warnAudio = { w with log := w.log ++ texts.map .warn } := by
  rw [warnAudio]
  split
  · exact ⟨[audioWarning], rfl⟩
  · exact ⟨[], by rw [List.map_nil, List.append_nil]⟩

@[simp] theorem audio_saveStatus (w : World) (s : Setup) : (w.saveStatus s).audio = w.audio := by
  obtain ⟨texts, h⟩ := w.saveStatus_eq s
  rw [h]

@[simp] theorem audio_report (w : World) (s : Setup) (error : Option String) :
    (w.report s error).audio = w.audio :=
  audio_saveStatus _ s

@[simp] theorem audio_warnAudio (w : World) : w.warnAudio.audio = w.audio := by
  obtain ⟨texts, h⟩ := w.warnAudio_eq
  rw [h]

end World

namespace Daemon

variable {d : Daemon} {s : Setup}

theorem tryReload_of_error {e : ReloadError}
    (h : s.locations.accept s.describe d.world.files = .error e) :
    d.tryReload s = (d.world.note (s.locations.load s.describe d.world.files).1, .error e) := by
  rw [Locations.accept] at h
  rw [tryReload]
  generalize s.locations.load s.describe d.world.files = a at h ⊢
  obtain ⟨log, loaded⟩ := a
  cases loaded with
  | error fault =>
    obtain rfl := Except.error.inj h
    rfl
  | ok a =>
    obtain ⟨settings, set⟩ := a
    simp only at h ⊢
    cases hb : Table.build set with
    | error fault =>
      rw [hb] at h
      obtain rfl := Except.error.inj h
      rw [Engine.reload_eq_error hb]
    | ok t =>
      rw [hb] at h
      cases h

/-- The world once the warnings on a new table were logged and the modes that it drops were told. -/
def toldWorld (d : Daemon) (s : Setup) (t : Table) : World :=
  (d.engine.modes.dropped t.declares).foldl
    (fun w m => s.dispatcher.notify (.deactivated m) (d.engine.modes.retain t.declares) w)
    (s.dispatcher.warnAll t.warnings (d.world.note (s.locations.load s.describe d.world.files).1))

/-- What the replacement of a table changes. -/
def reloadSummary (d : Daemon) (t : Table) : ReloadSummary :=
  ⟨t.size, !d.engine.window.isEmpty, (d.engine.modes.dropped t.declares).length⟩

/-- A reload that is accepted: the engine adopts the table, and the audio switch follows. -/
theorem tryReload_of_ok {settings : Settings} {t : Table}
    (h : s.locations.accept s.describe d.world.files = .ok (settings, t)) :
    d.tryReload s = (d.toldWorld s t, .ok (d.reloadSummary t,
      ⟨d.engine.adopt t settings.timeout,
        { d.toldWorld s t with audio := settings.audio }⟩)) := by
  rw [Locations.accept] at h
  rw [tryReload, toldWorld]
  generalize s.locations.load s.describe d.world.files = a at h ⊢
  obtain ⟨log, loaded⟩ := a
  cases loaded with
  | error fault => cases h
  | ok a =>
    obtain ⟨settings', set⟩ := a
    simp only at h ⊢
    cases hb : Table.build set with
    | error fault =>
      rw [hb] at h
      cases h
    | ok t' =>
      rw [hb] at h
      cases h
      rw [Engine.reload_eq_ok hb]
      rfl

/-- The world that a failed reload leaves. -/
def failedWorld (d : Daemon) (s : Setup) (e : ReloadError) : World :=
  ((d.world.note (s.locations.load s.describe d.world.files).1).note
    (Response.notReloaded e).lines).report s (some ("Reload failed: " ++ e.message))

theorem step_reload_of_error {e : ReloadError}
    (h : s.locations.accept s.describe d.world.files = .error e) :
    d.step s .reload = (.notReloaded e, { d with world := d.failedWorld s e }) := by
  simp only [step, tryReload_of_error h, failedWorld]

/-- A failed reload leaves the line that tells of it between warnings, an error of the status, and
the files in which that status was saved. -/
theorem failedWorld_eq (d : Daemon) (s : Setup) (e : ReloadError) :
    let status := { d.world.status with error := some ("Reload failed: " ++ e.message) }
    ∃ texts texts' : List String, d.failedWorld s e =
      { d.world with
        log := d.world.log ++ texts.map .warn ++
          .error ("Reload failed, keeping previous mappings: " ++ e.message) :: texts'.map .warn
        files := (status.save s.locations.status d.world.files (s.statusFault d.world.saves)).1
        status, saves := d.world.saves + 1 } := by
  intro status
  obtain ⟨texts, htexts⟩ := s.locations.load_log s.describe d.world.files
  obtain ⟨texts', h⟩ := World.report_eq
    ((d.world.note (texts.map .warn)).note (Response.notReloaded e).lines) s status.error
  refine ⟨texts, texts', ?_⟩
  rw [failedWorld, htexts]
  refine h.trans ?_
  simp only [World.note, World.savedFiles, Response.lines, List.append_assoc, List.cons_append,
    List.nil_append]
  rfl

theorem step_reload_of_ok {settings : Settings} {t : Table}
    (h : s.locations.accept s.describe d.world.files = .ok (settings, t)) :
    d.step s .reload = (.reloaded (d.reloadSummary t), ⟨d.engine.adopt t settings.timeout,
      (World.warnAudio { d.toldWorld s t with audio := settings.audio }).report s none⟩) := by
  rw [step, tryReload_of_ok h]

/-- A settings file that is refused: its timeout is no number. -/
def badSettings : String :=
  "timeout_ms = \"oops\""

def badSettingsCause : String :=
  "TOML parse error at line 1, column 14\n  |\n1 | timeout_ms = \"oops\"\n  |" ++
    "              ^^^^^^\ninvalid type: string \"oops\", expected u64\n"

/-- A setup in which no collaborator fails and the clock stands still. -/
def quiet : Setup where
  locations := .within "c"
  describe _ := badSettingsCause
  injector := .recording fun _ _ => none
  runner := .recording fun _ _ => none
  clock _ := "noon"

end Daemon

end InlineRemote
