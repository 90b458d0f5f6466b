import InlineRemote.Proofs.Engine.Run
import InlineRemote.Proofs.Table.Search

/-! # What a pending sequence means

Nothing in a window says under which table, modes and timeout its presses were collected.  They
are always those in force: whatever changes one of the three also drops the presses. -/
namespace InlineRemote.Engine

/-- The pending presses were checked against the table, the modes and the timeout in force. -/
structure PendingChecked (e : Engine) : Prop where
  built : ∃ set, Table.build set = .ok e.table
  beginning : ∀ s, s ≠ [] → s <+: e.window.sequence →
    e.table.lookup e.modes.active s = .beginning
  in_time : ∀ first, e.window.started? = some first →
    ∀ p ∈ e.window.presses, p.time - first ≤ e.window.timeout

namespace PendingChecked

variable {e : Engine}

theorem of_clear (h : ∃ set, Table.build set = .ok e.table) (hw : e.window.presses = []) :
    e.PendingChecked where
  built := h
  beginning s hs hp := by
    rw [Window.sequence, hw] at hp
    exact absurd (List.prefix_nil.mp hp) hs
  in_time first hf := by simp [Window.started?, hw] at hf

theorem fresh (h : e.PendingChecked) (now : Nat) :
    PendingChecked { e with window := e.window.fresh now } := by
  rw [Window.fresh]
  split
  · exact of_clear h.built rfl
  · exact h

theorem press (h : e.PendingChecked) (p : Press) : (e.afterPress p).PendingChecked := by
  rcases e.afterPress_cases p with ⟨a, -, hp⟩ | ⟨hl, hp⟩ | ⟨-, hp⟩ <;> rw [hp]
  · exact of_clear h.built rfl
  · have hfresh := h.fresh p.time
    refine ⟨h.built, fun s hs hpre => ?_, fun first hfirst q hq => ?_⟩
    · rw [Window.sequence, List.map_append] at hpre
      rcases List.prefix_concat_iff.mp hpre with rfl | hpre
      · exact hl
      · exact hfresh.beginning s hs hpre
    · have hstale := (Window.isStale_eq_false_iff _ _).mp (e.window.isStale_fresh p.time)
      have hin := hfresh.in_time
      simp only [Window.started?, Window.timeout_fresh] at hfirst hstale hin ⊢
      cases hps : (e.window.fresh p.time).presses with
      | nil => simp_all
      | cons f fs =>
        rw [hps] at hfirst hq hstale hin
        rcases List.mem_append.mp hq with hq | hq
        · exact hin first hfirst q hq
        · rw [List.mem_singleton.mp hq]
          exact hstale first hfirst
  · exact of_clear h.built rfl

theorem next (h : e.PendingChecked) (i : Input) : (e.next i).PendingChecked := by
  cases i with
  | press p => exact h.press p
  | tick now => exact h.fresh now
  | reload set timeout =>
    rw [Engine.next]
    split
    · exact h
    · next t ht => exact of_clear ⟨set, ht⟩ rfl

theorem not_shows (h : e.PendingChecked) {set : MappingSet} (hr : e.table.Represents set)
    (p : Press) {q : Trigger} (hq : q ≠ []) (hpre : q <+: e.window.extended p)
    (hne : q ≠ e.window.extended p) : ¬ set.Shows e.modes.active q := by
  have hpending := (List.prefix_concat_iff.mp hpre).resolve_left hne
  exact hr.not_shows_of_beginning ((h.fresh p.time).beginning q hq hpending)

end PendingChecked

/-- **A pending sequence is always checked.**  After any run from the start, if presses are pending
then they and all their beginnings only begin triggers, under the table and the modes in force; all
of them came within the timeout in force after the first; and a visible trigger is longer.  There
is a deadline exactly when presses are pending. -/
theorem pending_checked {ω : Type} {set : MappingSet} {t : Table}
    (h : Table.build set = .ok t) (timeout : Nat) (d : Dispatcher ω) (w : ω) (is : List Input) :
    let e := ((Engine.start t timeout).takeAll d w is).2.1
    (e.window.presses ≠ [] →
      e.table.lookup e.modes.active e.window.sequence = .beginning ∧
      (∀ s, s ≠ [] → s <+: e.window.sequence →
        e.table.lookup e.modes.active s = .beginning) ∧
      (∀ first, e.window.started? = some first →
        ∀ p ∈ e.window.presses, p.time - first ≤ e.window.timeout) ∧
      ∃ s ∈ Scope.precedence e.modes.active, ∃ r a, e.table.find? s r = some a ∧
        e.window.sequence.length < r.length) ∧
    (e.deadline?.isSome ↔ e.window.presses ≠ []) := by
  intro e
  have he : e.PendingChecked :=
    takeAll_induction (PendingChecked.of_clear ⟨set, h⟩ rfl) (fun e i he => he.next i) d w is
  refine ⟨fun hne => ?_, ?_⟩
  · have hne : e.window.sequence ≠ [] := by simpa [Window.sequence] using hne
    have hl := he.beginning _ hne List.prefix_rfl
    refine ⟨hl, he.beginning, he.in_time, ?_⟩
    obtain ⟨set', hset'⟩ := he.built
    have hr := Table.represents_of_build hset'
    obtain ⟨-, -, s, q, hs, hq, a, ha⟩ := (hr.lookup_eq_beginning _ _).mp hl
    refine ⟨s, ((hr.sees_iff _ s).mp hs).1, _, a, (hr.find?_eq_some _ _ _).mpr ha, ?_⟩
    have := List.length_pos_iff.mpr hq
    simp only [List.length_append]
    omega
  · cases hp : e.window.presses <;> simp [deadline?, Window.deadline?, Window.started?, hp]

/-- The first press of a trigger of two is pending. -/
theorem pending_checked_first :
    let set : MappingSet := ⟨[], [⟨.global, [.play, .down], .run "x"⟩]⟩
    let d : Dispatcher Unit := ⟨fun _ w => (none, w), fun _ w => (none, w), fun _ w => w, []⟩
    ∃ t, Table.build set = .ok t ∧
      let e := ((Engine.start t 500).takeAll d () [.press ⟨.play, 7⟩]).2.1
      e.window.presses = [⟨.play, 7⟩] ∧ e.deadline?.isSome ∧
        e.table.lookup e.modes.active [.play] = .beginning := by
  intro set d
  have h : Table.build set = .ok _ := rfl
  refine ⟨_, h, rfl, rfl, ?_⟩
  exact ((pending_checked h 500 d () [.press ⟨.play, 7⟩]).1 (List.cons_ne_nil _ _)).1

end InlineRemote.Engine
