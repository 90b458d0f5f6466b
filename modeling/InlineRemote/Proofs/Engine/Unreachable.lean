import InlineRemote.Proofs.Engine.FirstCompleted

/-! # Unreachable triggers never fire

The report on a table looks at one scope at a time and at no run.  It is right for all runs all the
same: while presses are pending no visible scope binds a beginning of them, so a trigger that a
shorter one hides is never completed while its scope is visible. -/
namespace InlineRemote.Engine

variable {ω : Type}

theorem table_takeAll {e : Engine} {is : List Input}
    (his : ∀ set timeout, .reload set timeout ∈ is → ∃ fault, Table.build set = .error fault)
    (d : Dispatcher ω) (w : ω) : (e.takeAll d w is).2.1.table = e.table := by
  rw [takeAll_engine]
  refine List.foldlRecOn (motive := fun e' => e'.table = e.table) is next rfl fun e' he' i hi => ?_
  cases i with
  | press p => exact (table_afterPress e' p).trans he'
  | tick now => exact he'
  | reload set timeout =>
    obtain ⟨fault, hfault⟩ := his set timeout hi
    rw [next, hfault]
    exact he'

theorem PendingChecked.completed?_ne {e : Engine} (h : e.PendingChecked) {set : MappingSet}
    (hr : e.table.Represents set) {s : Scope} (hs : s ∈ Scope.precedence e.modes.active)
    {r q : Trigger} (hne : q ≠ r) (hq : Trigger.Shortest (set.Binds s) r q) (p : Press)
    (a : Action) : e.completed? p ≠ some (r, a) := by
  intro hcompleted
  obtain ⟨rfl, -⟩ := completed?_eq_some_iff.mp hcompleted
  refine h.not_shows hr p hq.ne_nil hq.beginning hne ⟨s, (hr.sees_iff _ s).mpr ⟨hs, ?_⟩, hq.holds⟩
  obtain ⟨b, hb⟩ := hq.holds
  exact (hr.scope?_isSome s).mpr (hr.scope_declared hb)

/-- **Reports of unreachable triggers are exact and never wrong.**  A trigger is reported for a
scope that binds it and a shorter beginning of it, once, with the shortest of these, which is not
reported itself; the warnings are the texts of the reports.  In any run from the start in which no
reload succeeds, no press completes the trigger while its scope is visible; and the global scope is
always visible. -/
theorem unreachable_never_completed {set : MappingSet} {t : Table}
    (hbuild : Table.build set = .ok t) (timeout : Nat) (d : Dispatcher ω) (w : ω) :
    (∀ s r p, (⟨s, r, p⟩ : Unreachable) ∈ t.unreachable ↔
      set.Binds s r ∧ p ≠ r ∧ Trigger.Shortest (set.Binds s) r p) ∧
    (t.unreachable.map fun u => (u.scope, u.trigger)).Nodup ∧
    (∀ s r p q, (⟨s, r, p⟩ : Unreachable) ∈ t.unreachable →
      (⟨s, p, q⟩ : Unreachable) ∉ t.unreachable) ∧
    t.warnings.Perm (t.unreachable.map Unreachable.message) ∧
    ∀ is : List Input,
      (∀ set' timeout', .reload set' timeout' ∈ is → ∃ fault, Table.build set' = .error fault) →
      let e := ((start t timeout).takeAll d w is).2.1
      (∀ s r q, (⟨s, r, q⟩ : Unreachable) ∈ t.unreachable →
        s ∈ Scope.precedence e.modes.active → ∀ p a, e.completed? p ≠ some (r, a)) ∧
      ∀ r q, (⟨.global, r, q⟩ : Unreachable) ∈ t.unreachable →
        ∀ p a, e.completed? p ≠ some (r, a) := by
  have hreports := Table.mem_unreachable hbuild
  refine ⟨hreports, Table.nodup_unreachable hbuild, fun s r p q hp hq => ?_,
    List.mergeSort_perm _ _, ?_⟩
  · obtain ⟨-, -, hp⟩ := (hreports s r p).mp hp
    obtain ⟨-, hne, hq⟩ := (hreports s p q).mp hq
    exact hp.not_of_beginning hq.ne_nil hq.beginning hne hq.holds
  · intro is his e
    have hchecked : e.PendingChecked :=
      takeAll_induction (.of_clear ⟨set, hbuild⟩ rfl) (fun e i he => he.next i) d w is
    have hr : e.table.Represents set :=
      table_takeAll (e := start t timeout) his d w ▸ Table.represents_of_build hbuild
    have hvisible : ∀ s r q, (⟨s, r, q⟩ : Unreachable) ∈ t.unreachable →
        s ∈ Scope.precedence e.modes.active → ∀ p a, e.completed? p ≠ some (r, a) := by
      intro s r q hreported hs
      obtain ⟨-, hne, hq⟩ := (hreports s r q).mp hreported
      exact hchecked.completed?_ne hr hs hne hq
    exact ⟨hvisible, fun r q hreported => hvisible .global r q hreported (by simp)⟩

/-- A mode binds a trigger of two buttons and the first of them.  After the mode was entered and a
reload was refused, that trigger is never completed. -/
theorem unreachable_never_completed_inside :
    let m : ModeId := ⟨"m"⟩
    let set : MappingSet := ⟨[m], [⟨.global, [.up], .activate m⟩,
      ⟨.mode m, [.play], .run "x"⟩, ⟨.mode m, [.play, .down], .run "y"⟩]⟩
    let bad : MappingSet := ⟨[], [⟨.global, [], .run "z"⟩]⟩
    let d : Dispatcher Unit := ⟨fun _ w => (none, w), fun _ w => (none, w), fun _ w => w, []⟩
    ∃ t, Table.build set = .ok t ∧
      (⟨.mode m, [.play, .down], [.play]⟩ : Unreachable) ∈ t.unreachable ∧
      let e := ((start t 500).takeAll d () [.press ⟨.up, 0⟩, .reload bad 9, .press ⟨.play, 1⟩]).2.1
      e.modes.active = [m] ∧ ∀ p a, e.completed? p ≠ some ([.play, .down], a) := by
  intro m set bad d
  obtain ⟨t, ht⟩ : ∃ t, Table.build set = .ok t := ⟨_, rfl⟩
  obtain rfl : t = (Table.build set).toOption.getD (.blank []) := by rw [ht]; rfl
  obtain ⟨hreports, -, -, -, hruns⟩ := unreachable_never_completed ht 500 d ()
  have hreported := (hreports (.mode m) [.play, .down] [.play]).mpr
    ⟨⟨.run "y", by decide⟩, by decide, by decide, by decide, ⟨.run "x", by decide⟩,
      fun q hq _ _ => List.length_pos_iff.mpr hq⟩
  refine ⟨_, ht, hreported, by decide +kernel, ?_⟩
  refine (hruns [.press ⟨.up, 0⟩, .reload bad 9, .press ⟨.play, 1⟩] ?_).1 _ _ _ hreported ?_
  · intro set' timeout' h
    obtain ⟨rfl, -⟩ : set' = bad ∧ timeout' = 9 := by simpa using h
    exact ⟨_, rfl⟩
  · decide +kernel

end InlineRemote.Engine
