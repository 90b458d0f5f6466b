import InlineRemote.Proofs.Daemon.Reload
import InlineRemote.Proofs.Engine.Run

/-! # The load in force

The table, the timeout and the audio switch of a daemon are always those of one load: the last that
was accepted. -/
namespace InlineRemote

variable {ω : Type}

/-- What every collaborator keeps, and the world itself, make a relation that they respect. -/
theorem Dispatcher.Respects.of_kept {d : Dispatcher ω} {P : ω → Prop}
    (inject : ∀ stroke w, P w → P (d.inject stroke w).2)
    (run : ∀ command w, P w → P (d.run command w).2)
    (warn : ∀ text w, P w → P (d.warn text w))
    (observe : ∀ observe ∈ d.observers, ∀ c modes w, P w → P (observe c modes w)) :
    d.Respects fun w w' => w = w' ∧ P w where
  inject stroke _ _ := by
    rintro ⟨rfl, h⟩
    exact ⟨rfl, rfl, inject stroke _ h⟩
  run command _ _ := by
    rintro ⟨rfl, h⟩
    exact ⟨rfl, rfl, run command _ h⟩
  warn text _ _ := by
    rintro ⟨rfl, h⟩
    exact ⟨rfl, warn text _ h⟩
  observe o ho c modes _ _ := by
    rintro ⟨rfl, h⟩
    exact ⟨rfl, observe o ho c modes _ h⟩

theorem Setup.dispatcher_audio (s : Setup) (audio : Bool) :
    s.dispatcher.Respects fun w w' => w = w' ∧ w.audio = audio := by
  refine .of_kept (fun _ _ h => h) (fun _ _ h => h) (fun _ _ h => h) fun o ho c modes w h => ?_
  rcases List.mem_append.mp ho with ho | ho
  · obtain ⟨n, -, rfl⟩ := List.mem_map.mp ho
    exact h
  · rcases List.mem_cons.mp ho with rfl | ho
    · exact (World.audio_saveStatus _ s).trans h
    · obtain rfl := List.mem_singleton.mp ho
      rw [Setup.observeAudio]
      split <;> exact h

namespace Daemon

variable {d : Daemon} {s : Setup}

/-- The table, the timeout and the audio switch are those of a load. -/
structure InForce (d : Daemon) (settings : Settings) (t : Table) : Prop where
  table : d.engine.table = t
  timeout : d.engine.window.timeout = settings.timeout
  audio : d.world.audio = settings.audio

/-- The load in force after an event: that of an accepted reload, or else the one before. -/
def acceptedBy (d : Daemon) (s : Setup) (a : Settings × Table) : Event → Settings × Table
  | .reload => (s.locations.accept s.describe d.world.files).toOption.getD a
  | _ => a

/-- The load that was accepted last, in a run of events. -/
def accepted (d : Daemon) (s : Setup) (a : Settings × Table) : List Event → Settings × Table
  | [] => a
  | e :: es => (d.step s e).2.accepted s (d.acceptedBy s a e) es

theorem inForce_start (s : Setup) (files : FileTree) :
    InForce (start s files).2 (start s files).1.settings (start s files).1.table := by
  refine ⟨rfl, rfl, ?_⟩
  simp only [start, World.audio_warnAudio, World.audio_saveStatus]

theorem InForce.press {settings : Settings} {t : Table} (h : d.InForce settings t) (p : Press) :
    (d.step s (.press p)).2.InForce settings t := by
  have hengine : (d.step s (.press p)).2.engine = d.engine.afterPress p :=
    d.engine.press_engine s.dispatcher p d.world
  have hworld := ((s.dispatcher_audio settings.audio).press d.engine p ⟨rfl, h.audio⟩).2.snd.2
  refine ⟨?_, ?_, hworld⟩
  · rw [hengine, Engine.table_afterPress, h.table]
  · rw [hengine, Engine.timeout_afterPress, h.timeout]

/-- A reload puts its load in force if it is accepted, and else leaves the one in force. -/
theorem InForce.reload {settings : Settings} {t : Table} (h : d.InForce settings t) :
    (d.step s .reload).2.InForce (d.acceptedBy s (settings, t) .reload).1
      (d.acceptedBy s (settings, t) .reload).2 := by
  rw [acceptedBy]
  cases ha : s.locations.accept s.describe d.world.files with
  | error e =>
    obtain ⟨texts, texts', hworld⟩ := d.failedWorld_eq s e
    rw [step_reload_of_error ha, hworld]
    exact ⟨h.table, h.timeout, h.audio⟩
  | ok a =>
    rw [step_reload_of_ok ha]
    refine ⟨rfl, rfl, ?_⟩
    simp only [World.audio_warnAudio, World.audio_report]
    rfl

theorem InForce.step {settings : Settings} {t : Table} (h : d.InForce settings t) (e : Event) :
    (d.step s e).2.InForce (d.acceptedBy s (settings, t) e).1
      (d.acceptedBy s (settings, t) e).2 := by
  cases e with
  | press p => exact h.press p
  | expire now => exact ⟨h.table, (d.engine.window.timeout_fresh now).trans h.timeout, h.audio⟩
  | reload => exact h.reload
  | edit path node => exact ⟨h.table, h.timeout, h.audio⟩

theorem InForce.run {settings : Settings} {t : Table} (h : d.InForce settings t)
    (es : List Event) :
    (d.run s es).2.InForce (d.accepted s (settings, t) es).1 (d.accepted s (settings, t) es).2 := by
  induction es generalizing d settings t with
  | nil => exact h
  | cons e es ih => exact ih (h.step e)

end Daemon

end InlineRemote
