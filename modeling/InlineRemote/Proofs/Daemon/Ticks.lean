import InlineRemote.Daemon
import InlineRemote.Proofs.Engine.Ticks

/-! # Ticks of the daemon

What goes unnoticed in the engine goes unnoticed in the daemon: its ticks touch neither the log nor
the files, and its presses and reloads are those of the engine. -/
namespace InlineRemote

/-- When an event comes; reloads and edits may come at any time. -/
def Event.time? : Event → Option Nat
  | .press p => some p.time
  | .expire now => some now
  | _ => none

/-- Whether an event is a timer tick. -/
def Event.isTick : Event → Bool
  | .expire _ => true
  | _ => false

/-- What came of an event, but for whether a reload dropped a pending sequence. -/
def Response.lasting : Response → Response
  | .reloaded summary => .reloaded summary.lasting
  | response => response

namespace Daemon

/-- Two daemons differ in stale presses at most, from an instant on. -/
structure AgreeFrom (now : Nat) (d d' : Daemon) : Prop where
  engine : Engine.AgreeFrom now d.engine d'.engine
  world : d.world = d'.world

namespace AgreeFrom

variable {now : Nat} {d d' : Daemon}

theorem refl (now : Nat) (d : Daemon) : AgreeFrom now d d := ⟨.refl now d.engine, rfl⟩

theorem reload (h : AgreeFrom now d d') (s : Setup) :
    (d.step s .reload).1.lasting = (d'.step s .reload).1.lasting ∧
      AgreeFrom now (d.step s .reload).2 (d'.step s .reload).2 := by
  obtain ⟨engine, w⟩ := d
  obtain ⟨engine', w'⟩ := d'
  obtain ⟨he, rfl⟩ := h
  rw [step, step, tryReload, tryReload]
  generalize s.locations.load s.describe w.files = a
  obtain ⟨log, loaded⟩ := a
  cases loaded with
  | error fault => exact ⟨rfl, he, rfl⟩
  | ok a =>
    obtain ⟨settings, set⟩ := a
    rcases he.reload s.dispatcher set settings.timeout (w.note log) with
      ⟨fault, hr, hr'⟩ | ⟨summary, summary', e'', v, hr, hr', hl⟩
    · simp only [hr, hr']
      exact ⟨trivial, he, rfl⟩
    · simp only [hr, hr', Response.lasting, hl]
      exact ⟨trivial, .refl _ _⟩

theorem step (h : AgreeFrom now d d') {e : Event} (he : e.isTick = false)
    (htime : ∀ t ∈ e.time?, now ≤ t) (s : Setup) :
    (d.step s e).1.lasting = (d'.step s e).1.lasting ∧
      AgreeFrom (e.time?.getD now) (d.step s e).2 (d'.step s e).2 := by
  cases e with
  | press p =>
    rw [Daemon.step, Daemon.step, h.engine.press_eq (htime p.time rfl), h.world]
    exact ⟨rfl, .refl _ _⟩
  | expire later => cases he
  | reload => exact h.reload s
  | edit path node =>
    rw [Daemon.step, Daemon.step, h.world]
    exact ⟨rfl, h.engine, rfl⟩

end AgreeFrom

/-- What can be told of a run: what came of every event but the ticks, with the active modes and the
world after it. -/
def course (d : Daemon) (s : Setup) : List Event → List (Response × ModeStack × World) :=
  outputs (fun d e =>
    let (response, d') := d.step s e
    ((response.lasting, d'.engine.modes, d'.world), d')) Event.isTick d

/-- The ticks of a run in the order of time can be left out. -/
theorem course_filter (d : Daemon) (s : Setup) {es : List Event}
    (horder : (es.filterMap Event.time?).Pairwise (· ≤ ·)) :
    d.course s es = d.course s (es.filter (!·.isTick)) := by
  refine outputs_filter (R := AgreeFrom) ?_ ?_ (.refl 0 d) es (fun _ _ => Nat.zero_le _) horder
  · intro now d d' e h hs htime
    cases e with
    | expire later => exact ⟨h.engine.tick_left (htime later rfl), h.world⟩
    | press p => cases hs
    | reload => cases hs
    | edit path node => cases hs
  · intro now d d' e h hs htime
    obtain ⟨hresponse, hd⟩ := h.step hs htime s
    exact ⟨Prod.ext hresponse (Prod.ext hd.engine.modes hd.world), hd⟩

/-- **Timer ticks go unnoticed.**  Of two runs in the order of time that differ in ticks alone,
every press and every reload has the same result, up to whether the reload dropped a pending
sequence, and leaves the same active modes and the same world.  A tick itself changes neither.  This
holds of the engine with any dispatcher, and of the daemon with all its files. -/
theorem ticks_unnoticed :
    (∀ {ω : Type} (d : Dispatcher ω) (e : Engine) (w : ω),
      (∀ is js : List Engine.Input,
        (is.filterMap Engine.Input.time?).Pairwise (· ≤ ·) →
        (js.filterMap Engine.Input.time?).Pairwise (· ≤ ·) →
        is.filter (!·.isTick) = js.filter (!·.isTick) → e.course d w is = e.course d w js) ∧
      ∀ now, (e.take d w (.tick now)).2.2 = w ∧ (e.take d w (.tick now)).2.1.modes = e.modes) ∧
    ∀ (s : Setup) (d : Daemon),
      (∀ es es' : List Event,
        (es.filterMap Event.time?).Pairwise (· ≤ ·) →
        (es'.filterMap Event.time?).Pairwise (· ≤ ·) →
        es.filter (!·.isTick) = es'.filter (!·.isTick) → d.course s es = d.course s es') ∧
      ∀ now, (d.step s (.expire now)).2.world = d.world ∧
        (d.step s (.expire now)).2.engine.modes = d.engine.modes := by
  refine ⟨fun d e w => ⟨fun is js his hjs hsame => ?_, fun now => ⟨rfl, rfl⟩⟩,
    fun s d => ⟨fun es es' hes hes' hsame => ?_, fun now => ⟨rfl, rfl⟩⟩⟩
  · rw [e.course_filter d w his, hsame, ← e.course_filter d w hjs]
  · rw [d.course_filter s hes, hsame, ← d.course_filter s hes']

/-- A tick drops a press that the reload after it would have dropped. -/
theorem ticks_unnoticed_reload :
    let set : MappingSet := ⟨[], [⟨.global, [.play, .down], .run "x"⟩]⟩
    let d : Dispatcher (List String) :=
      ⟨fun _ w => (none, w), fun c w => (none, w ++ [c]), fun _ w => w, []⟩
    let is : List Engine.Input := [.press ⟨.play, 0⟩, .tick 501, .reload set 500,
      .press ⟨.play, 501⟩, .tick 900, .press ⟨.down, 1001⟩]
    let js : List Engine.Input := [.press ⟨.play, 0⟩, .reload set 500,
      .press ⟨.play, 501⟩, .press ⟨.down, 1001⟩]
    let discards (r : Engine.Reply) : Bool :=
      match r with
      | .reloaded summary => summary.discardedPending
      | _ => false
    ∃ t, Table.build set = .ok t ∧
      ((Engine.start t 500).takeAll d [] is).1.any discards = false ∧
      ((Engine.start t 500).takeAll d [] js).1.any discards = true ∧
      ((Engine.start t 500).takeAll d [] is).2.2 = ["x"] ∧
      (Engine.start t 500).course d [] is = (Engine.start t 500).course d [] js := by
  intro set d is js discards
  obtain ⟨t, h⟩ : ∃ t, Table.build set = .ok t := ⟨_, rfl⟩
  have ht : t = (Table.build set).toOption.getD (.blank []) := by rw [h]; rfl
  have hcourse := (ticks_unnoticed.1 d (Engine.start t 500) []).1 is js (by decide) (by decide) rfl
  refine ⟨t, h, ?_, ?_, ?_, hcourse⟩ <;> rw [ht] <;> decide +kernel

end Daemon

end InlineRemote
