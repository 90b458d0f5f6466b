import InlineRemote.Proofs.Daemon.Reload
import InlineRemote.Proofs.Files.Saving

/-! # Worlds that look the same

Two worlds are compared by some entries of their logs, by a part of the status, by the audio switch,
by how often the modes changed, and by all files but the status file.  Lines are never looked at, so
that worlds go on looking the same whatever becomes of the status file. -/
namespace InlineRemote

open FileTree

/-- What is looked at: some entries of a log, no line among them, and a part of the status in
which nothing follows from the error but the error. -/
structure Sight where
  keep : LogEntry → Bool
  part : Status → Status
  keep_line : ∀ entry : LogEntry, entry.isCall = false → keep entry = false
  part_error : ∀ {status status' : Status} (error : Option String), part status = part status' →
    part { status with error } = part { status' with error }

/-- The entries of a log that are looked at. -/
def Sight.entries (v : Sight) (log : Log) : Log :=
  log.filter v.keep

namespace Sight

variable (v : Sight)

@[simp] theorem entries_append (a b : Log) : v.entries (a ++ b) = v.entries a ++ v.entries b :=
  List.filter_append a b

theorem entries_of_calls {log : Log} (h : log.calls = []) : v.entries log = [] :=
  Log.filter_eq_nil_of_calls v.keep_line h

end Sight

/-- The files of the daemon stand in one directory. -/
structure Locations.Together (l : Locations) (upper : List String) : Prop where
  settings : IsFile l.settings upper "config.toml"
  mappings : IsFile l.mappings upper "mappings.ekmap"
  status : IsFile l.status upper "status.toml"

theorem Locations.exists_together (dir : String) :
    ∃ upper, (within dir).Together upper := by
  obtain ⟨upper, h⟩ := exists_isFile dir
  exact ⟨upper, h _ (by decide), h _ (by decide), h _ (by decide)⟩

/-- Two worlds look the same, and differ in the file at a path at most. -/
structure World.LookAlike (v : Sight) (path : String) (upper : List String) (w w' : World) :
    Prop where
  log : v.entries w.log = v.entries w'.log
  files : AlikeBut path upper w.files w'.files
  status : v.part w.status = v.part w'.status
  audio : w.audio = w'.audio
  changes : w.changes = w'.changes

namespace World.LookAlike

variable {v : Sight} {path : String} {upper : List String} {w w' : World}

theorem refl (s : Setup) (upper : List String) (w : World) :
    LookAlike v s.locations.status upper w w :=
  ⟨rfl, .refl _ _ _, rfl, rfl, rfl⟩

theorem symm (h : LookAlike v path upper w w') : LookAlike v path upper w' w :=
  ⟨h.log.symm, h.files.symm, h.status.symm, h.audio.symm, h.changes.symm⟩

theorem note (h : LookAlike v path upper w w') (entries : Log) :
    LookAlike v path upper (w.note entries) (w'.note entries) := by
  refine ⟨?_, h.files, h.status, h.audio, h.changes⟩
  simp only [World.note, Sight.entries_append, h.log]

theorem note_left (h : LookAlike v path upper w w') {lines : Log} (hlines : lines.calls = []) :
    LookAlike v path upper (w.note lines) w' := by
  refine ⟨?_, h.files, h.status, h.audio, h.changes⟩
  rw [World.note, Sight.entries_append, v.entries_of_calls hlines, List.append_nil, h.log]

theorem note_both (h : LookAlike v path upper w w') {lines lines' : Log}
    (hlines : lines.calls = []) (hlines' : lines'.calls = []) :
    LookAlike v path upper (w.note lines) (w'.note lines') :=
  ((h.note_left hlines).symm.note_left hlines').symm

theorem saveStatus {s s' : Setup} {name : String} (h : LookAlike v path upper w w')
    (hf : IsFile path upper name) (hs : s.locations.status = path)
    (hs' : s'.locations.status = path) :
    LookAlike v path upper (w.saveStatus s) (w'.saveStatus s') := by
  obtain ⟨texts, hw⟩ := w.saveStatus_eq s
  obtain ⟨texts', hw'⟩ := w'.saveStatus_eq s'
  have hlog := h.note_both (Log.calls_warnings texts) (Log.calls_warnings texts')
  rw [hw, hw', savedFiles, savedFiles, hs, hs']
  exact ⟨hlog.log, h.files.save hf _ _ _ _, h.status, h.audio, h.changes⟩

theorem report {s s' : Setup} {name : String} (h : LookAlike v path upper w w')
    (hf : IsFile path upper name) (hs : s.locations.status = path)
    (hs' : s'.locations.status = path) (error : Option String) :
    LookAlike v path upper (w.report s error) (w'.report s' error) := by
  have herror : LookAlike v path upper { w with status := { w.status with error } }
      { w' with status := { w'.status with error } } :=
    ⟨h.log, h.files, v.part_error error h.status, h.audio, h.changes⟩
  exact herror.saveStatus hf hs hs'

theorem warnAudio (h : LookAlike v path upper w w') :
    LookAlike v path upper w.warnAudio w'.warnAudio := by
  rw [World.warnAudio, World.warnAudio, h.audio]
  split
  · exact h.note _
  · exact h

theorem observeAudio (h : LookAlike v path upper w w') (c : ModeChange) (modes : ModeStack) :
    LookAlike v path upper (Setup.observeAudio c modes w) (Setup.observeAudio c modes w') := by
  rw [Setup.observeAudio, Setup.observeAudio, h.audio]
  split
  · exact h.note [.cue c]
  · exact h

end World.LookAlike

variable {q : Place} {files files' : FileTree}

-- Loading from two trees that agree.

theorem Settings.load_eq (describe : String → String) (h : AgreeOff q files files')
    {path : String} (hp : destination path ≠ q) :
    load describe files path = load describe files' path := by
  rw [load, load, h.isThere_eq hp]
  cases ht : files'.isThere path with
  | false => rfl
  | true => rw [h.read_eq hp ((h.isThere_eq hp).trans ht)]

theorem MappingSet.load_eq (h : AgreeOff q files files') {path : String}
    (hp : destination path ≠ q) : MappingSet.load files path = MappingSet.load files' path := by
  rw [load, load, h.isThere_eq hp]
  cases ht : files'.isThere path with
  | false => rfl
  | true => rw [h.read_eq hp ((h.isThere_eq hp).trans ht)]

/-- The settings name another mapping file than the status file. -/
def Setup.SparesStatus (s : Setup) (files : FileTree) : Prop :=
  ∀ settings, Settings.load s.describe files s.locations.settings = .ok settings →
    destination (s.locations.mappingsOf settings) ≠ destination s.locations.status

theorem Setup.load_eq {s : Setup} {upper : List String} (hl : s.locations.Together upper)
    (h : AlikeBut s.locations.status upper files files') (hspare : s.SparesStatus files') :
    s.locations.load s.describe files = s.locations.load s.describe files' := by
  have hsettings : destination s.locations.settings ≠ destination s.locations.status :=
    hl.settings.destination_ne hl.status (by decide)
  rw [Locations.load, Locations.load, Settings.load_eq s.describe h.agree hsettings]
  cases hload : Settings.load s.describe files' s.locations.settings with
  | error e => rfl
  | ok settings =>
    simp only
    rw [MappingSet.load_eq h.agree (hspare settings hload)]

/-- No reload of a run takes the status file for the mapping file. -/
def Daemon.SparesStatus (d : Daemon) (s : Setup) : List Event → Prop
  | [] => True
  | e :: es =>
    (e = .reload → s.SparesStatus d.world.files) ∧ (d.step s e).2.SparesStatus s es

/-- Two daemons have the same engine, in worlds that look the same. -/
structure Daemon.LookAlike (v : Sight) (path : String) (upper : List String) (d d' : Daemon) :
    Prop where
  engine : d.engine = d'.engine
  world : World.LookAlike v path upper d.world d'.world

namespace Daemon.LookAlike

variable {v : Sight} {path : String} {upper : List String} {s s' : Setup} {d d' : Daemon}

theorem expire (h : LookAlike v path upper d d') (now : Nat) :
    (d.step s (.expire now)).1 = (d'.step s' (.expire now)).1 ∧
      LookAlike v path upper (d.step s (.expire now)).2 (d'.step s' (.expire now)).2 := by
  rw [step, step, h.engine]
  exact ⟨rfl, rfl, h.world⟩

theorem edit (h : LookAlike v path upper d d') (edited : String) (node : Option FileNode) :
    (d.step s (.edit edited node)).1 = (d'.step s' (.edit edited node)).1 ∧
      LookAlike v path upper (d.step s (.edit edited node)).2
        (d'.step s' (.edit edited node)).2 :=
  ⟨rfl, h.engine, h.world.log, h.world.files.lay edited node, h.world.status, h.world.audio,
    h.world.changes⟩

/-- Both reloads load the same, unless they take the status file for the mapping file. -/
theorem reload (hl : s.locations.Together upper) (hlocations : s'.locations = s.locations)
    (hdescribe : s'.describe = s.describe)
    (hd : s.dispatcher.TellAlike s'.dispatcher
      (World.LookAlike v s.locations.status upper))
    (h : LookAlike v s.locations.status upper d d') (hspare : s.SparesStatus d'.world.files) :
    (d.step s .reload).1 = (d'.step s' .reload).1 ∧
      LookAlike v s.locations.status upper (d.step s .reload).2 (d'.step s' .reload).2 := by
  obtain ⟨engine, w⟩ := d
  obtain ⟨engine', w'⟩ := d'
  obtain ⟨rfl, hw⟩ := h
  have hstatus : s'.locations.status = s.locations.status := by rw [hlocations]
  rw [step, step, tryReload, tryReload, hlocations, hdescribe, Setup.load_eq hl hw.files hspare]
  generalize s.locations.load s.describe w'.files = a
  obtain ⟨log, loaded⟩ := a
  cases loaded with
  | error fault => exact ⟨rfl, rfl, ((hw.note log).note _).report hl.status rfl hstatus _⟩
  | ok a =>
    obtain ⟨settings, set⟩ := a
    rcases hd.reload engine set settings.timeout (hw.note log) with
      ⟨fault, hr, hr'⟩ | ⟨summary, e', v', v'', hr, hr', hv⟩
    · simp only [hr, hr']
      exact ⟨trivial, rfl, ((hw.note log).note _).report hl.status rfl hstatus _⟩
    · simp only [hr, hr']
      have haudio : World.LookAlike v s.locations.status upper
          { v' with audio := settings.audio } { v'' with audio := settings.audio } :=
        ⟨hv.log, hv.files, hv.status, rfl, hv.changes⟩
      exact ⟨trivial, rfl, haudio.warnAudio.report hl.status rfl hstatus none⟩

end Daemon.LookAlike

end InlineRemote
