import InlineRemote.Proofs.Daemon.Sight

/-! # Daemons alike

Two daemons are alike if they have the same engine and have made the same calls, and differ in the
lines of the log, the error of the status and the status file at most.  Collaborators heed the calls
before and no lines, so that alike daemons stay alike as long as the status file is not read as the
mapping file. -/
namespace InlineRemote

open FileTree

theorem Injector.inject_alike (i : Injector) (stroke : Stroke) {log log' : Log}
    (h : log.calls = log'.calls) : ∃ (fault : Option String) (entries : Log),
      i.inject stroke log = (fault, log ++ entries) ∧
        i.inject stroke log' = (fault, log' ++ entries) := by
  cases i with
  | recording fault =>
    refine ⟨fault log.calls stroke, [.inject stroke], rfl, ?_⟩
    rw [h]
    rfl
  | logging =>
    cases ht : stroke.transitions? with
    | none =>
      refine ⟨(logging.inject stroke log).1, [], ?_⟩
      simp only [inject, ht, List.append_nil, and_self]
    | some ts =>
      refine ⟨none, [.typed stroke ts.length], ?_⟩
      simp only [inject, ht, and_self]

theorem Runner.run_alike (r : Runner) (command : String) {log log' : Log}
    (h : log.calls = log'.calls) : ∃ (fault : Option String) (entries : Log),
      r.run command log = (fault, log ++ entries) ∧
        r.run command log' = (fault, log' ++ entries) := by
  cases r with
  | recording fault =>
    refine ⟨fault log.calls command, [.run command], rfl, ?_⟩
    rw [h]
    rfl
  | shell invocation start =>
    cases hs : start log.calls invocation command with
    | error fault =>
      refine ⟨some fault.message, [], ?_⟩
      simp only [run, ← h, hs, List.append_nil, and_self]
    | ok exit =>
      refine ⟨none, [.exited exit], ?_⟩
      simp only [run, ← h, hs, and_self]

/-- The calls, and all of the status but its error. -/
def Sight.calls : Sight :=
  ⟨LogEntry.isCall, Status.withoutError, fun _ h => h, fun _ h => h⟩

/-- Two worlds differ in the lines of the log, the error of the status and the status file at
most. -/
abbrev World.Alike (s : Setup) (upper : List String) (w w' : World) : Prop :=
  LookAlike .calls s.locations.status upper w w'

namespace World.Alike

variable {s : Setup} {upper : List String} {w w' : World}

theorem calls_eq (h : Alike s upper w w') : w.log.calls = w'.log.calls :=
  h.log

theorem withoutError_eq (h : Alike s upper w w') :
    w.status.withoutError = w'.status.withoutError :=
  h.status

theorem saveStatus_left (hl : s.locations.Together upper) (h : Alike s upper w w')
    (hthere : w.files.isThere s.locations.settings = true ∨
      w.files.isThere s.locations.mappings = true) : Alike s upper (w.saveStatus s) w' := by
  obtain ⟨texts, hw⟩ := w.saveStatus_eq s
  have hfiles : AlikeBut s.locations.status upper (w.savedFiles s) w'.files := by
    rcases hthere with hthere | hthere
    · exact h.files.save_left hl.status hl.settings hthere _ _
    · exact h.files.save_left hl.status hl.mappings hthere _ _
  have hwarn := h.note_left (Log.calls_warnings texts)
  rw [hw]
  exact ⟨hwarn.log, hfiles, h.status, h.audio, h.changes⟩

end World.Alike

theorem Setup.dispatcher_alike {s : Setup} {upper : List String}
    (hl : s.locations.Together upper) : s.dispatcher.Respects (World.Alike s upper) where
  inject stroke w w' h := by
    obtain ⟨fault, entries, hi, hi'⟩ := s.injector.inject_alike stroke h.calls_eq
    simp only [Setup.dispatcher, World.onLog, hi, hi']
    exact ⟨rfl, h.note entries⟩
  run command w w' h := by
    obtain ⟨fault, entries, hr, hr'⟩ := s.runner.run_alike command h.calls_eq
    simp only [Setup.dispatcher, World.onLog, hr, hr']
    exact ⟨rfl, h.note entries⟩
  warn text w w' h := h.note [.warn text]
  observe o ho c modes w w' h := by
    rcases List.mem_append.mp ho with ho | ho
    · obtain ⟨n, -, rfl⟩ := List.mem_map.mp ho
      exact h.note [.observed n c modes.active]
    · rcases List.mem_cons.mp ho with rfl | ho
      · rw [observeStatus, observeStatus, h.changes]
        refine World.LookAlike.saveStatus ⟨h.log, h.files, ?_, h.audio, rfl⟩ hl.status rfl rfl
        have hversion := congrArg Status.version h.withoutError_eq
        simp only [Status.withoutError] at hversion
        simp only [Status.withModes, hversion]
        rfl
      · obtain rfl := List.mem_singleton.mp ho
        exact h.observeAudio c modes

/-- Where neither the settings nor the mapping file is there, a load is accepted. -/
theorem Locations.isThere_of_accept_error {l : Locations} {describe : String → String}
    {files : FileTree} {e : ReloadError} (h : l.accept describe files = .error e) :
    files.isThere l.settings = true ∨ files.isThere l.mappings = true := by
  refine Decidable.byContradiction fun hnot => ?_
  obtain ⟨hsettings, hmappings⟩ := not_or.mp hnot
  have hload : l.load describe files =
      ([.warn (MappingSet.absenceWarning l.mappings)], .ok ({}, .builtin)) := by
    rw [load, Settings.load]
    simp only [hsettings, Bool.not_false, if_true]
    rw [MappingSet.load]
    simp only [mappingsOf, Settings.mappingsPath, hmappings, Bool.not_false, if_true]
  rw [accept, hload] at h
  simp only [Table.build_builtin] at h
  cases h

/-- Two daemons have the same engine, in worlds alike. -/
abbrev Daemon.Alike (s : Setup) (upper : List String) (d d' : Daemon) : Prop :=
  LookAlike .calls s.locations.status upper d d'

namespace Daemon.Alike

variable {s : Setup} {upper : List String} {d d' : Daemon}

theorem failed_left (hl : s.locations.Together upper) (h : Alike s upper d d') {e : ReloadError}
    (he : s.locations.accept s.describe d.world.files = .error e) :
    Alike s upper (d.step s .reload).2 d' := by
  obtain ⟨texts, hlog⟩ := s.locations.load_log s.describe d.world.files
  rw [step_reload_of_error he]
  refine ⟨h.engine, ?_⟩
  rw [failedWorld, hlog]
  have hlines := (h.world.note_left (Log.calls_warnings texts)).note_left
    (Response.calls_lines (.notReloaded e))
  exact World.Alike.saveStatus_left hl
    ⟨hlines.log, hlines.files, hlines.status, hlines.audio, hlines.changes⟩
    (Locations.isThere_of_accept_error he)

/-- Whatever happens to both of two daemons has the same response, and leaves them alike. -/
theorem step (hl : s.locations.Together upper) (h : Alike s upper d d') (e : Event)
    (hspare : e = .reload → s.SparesStatus d'.world.files) :
    (d.step s e).1 = (d'.step s e).1 ∧ Alike s upper (d.step s e).2 (d'.step s e).2 := by
  have hd := Setup.dispatcher_alike hl
  cases e with
  | press p =>
    obtain ⟨engine, w⟩ := d
    obtain ⟨engine', w'⟩ := d'
    obtain ⟨rfl, hw⟩ := h
    have hp := hd.press engine p hw
    exact ⟨congrArg Response.pressed hp.1, hp.2.fst,
      hp.2.snd.note_both (Response.calls_lines _) (Response.calls_lines _)⟩
  | expire now => exact h.expire now
  | reload => exact h.reload hl rfl rfl hd.tellAlike (hspare rfl)
  | edit path node => exact h.edit path node

end Daemon.Alike

end InlineRemote
