import InlineRemote.Proofs.Engine.Completion
import InlineRemote.Proofs.Engine.Modes
import InlineRemote.Proofs.Mapping.Toggles
import InlineRemote.Proofs.Table.Unreachable

/-! # Which modes can be left

A mode of a mapping file is left by the trigger that entered it, unless a beginning of that trigger
is bound inside the mode.  Then the beginning always comes first, and the mode is active for good:
that is what the table warns of. -/
namespace InlineRemote

variable {ω : Type}

namespace ModeStack

variable {s : ModeStack} {m : ModeId}

theorem after_activate (h : m ∉ s.active) : s.after (.activate m) = ⟨s.active ++ [m]⟩ := by
  simp [after, push?, h]

theorem after_deactivate (h : m ∉ s.active) :
    (⟨s.active ++ [m]⟩ : ModeStack).after (.deactivate m) = s := by
  have hstay : s.active.filter (· ≠ m) = s.active := by
    rw [List.filter_eq_self]
    intro n hn
    simpa using ne_of_mem_of_not_mem hn h
  rw [after, pop?, if_pos (by simp), Option.getD_some, List.filter_append, hstay]
  simp

theorem mem_after {a : Action} (h : m ∈ s.active) (ha : a ≠ .deactivate m) :
    m ∈ (s.after a).active := by
  cases a with
  | type strokes => exact h
  | run command => exact h
  | activate n =>
    rw [after, push?]
    split
    · exact h
    · exact List.mem_append_left _ h
  | deactivate n =>
    rw [after, pop?]
    split
    · refine List.mem_filter.mpr ⟨h, decide_eq_true fun hn => ha ?_⟩
      rw [hn]
    · exact h

end ModeStack

namespace Dispatcher

variable {d : Dispatcher ω} {a : Action} {modes : ModeStack} {w : ω} {m : ModeId}

theorem dispatch_eq_activated (h : (d.dispatch a modes w).1 = .modeChanged (.activated m)) :
    a = .activate m ∧ m ∉ modes.active := by
  cases a with
  | type strokes => cases h
  | run command =>
    rw [dispatch] at h
    split at h <;> cases h
  | activate n =>
    rw [dispatch, ModeStack.push?] at h
    by_cases hn : modes.contains n = true
    · rw [if_pos hn] at h
      cases h
    · rw [if_neg hn] at h
      cases h
      exact ⟨rfl, by simpa using hn⟩
  | deactivate n =>
    rw [dispatch] at h
    split at h <;> cases h

theorem dispatch_eq_deactivated (h : (d.dispatch a modes w).1 = .modeChanged (.deactivated m)) :
    a = .deactivate m := by
  cases a with
  | type strokes => cases h
  | run command =>
    rw [dispatch] at h
    split at h <;> cases h
  | activate n =>
    rw [dispatch] at h
    split at h <;> cases h
  | deactivate n =>
    rw [dispatch] at h
    split at h <;> cases h
    rfl

theorem dispatch_deactivate (h : m ∈ modes.active) :
    (d.dispatch (.deactivate m) modes w).1 = .modeChanged (.deactivated m) := by
  rw [dispatch, ModeStack.pop?, if_pos ((modes.contains_eq_true_iff m).mpr h)]

end Dispatcher

namespace Table.Represents

variable {t : Table} {set : MappingSet} {active : List ModeId} {m : ModeId} {r : Trigger}

theorem lookup_deactivate (h : t.Represents set)
    (hoff : (⟨.mode m, r, .deactivate m⟩ : Entry) ∈ set.entries) :
    t.lookup (active ++ [m]) r = .exact (.deactivate m) := by
  have hbinds : set.Binds (.mode m) r := ⟨_, hoff⟩
  rw [h.lookup_eq_exact]
  refine ⟨h.trigger_ne_nil _ hoff, .mode m, ?_, hoff⟩
  exact .mode active [] m rfl (h.mem_modes_of_binds hbinds) hbinds fun n hn => absurd hn (by simp)

/-- Inside a mode a sequence that begins its trigger still does so, if the mode does not bind it. -/
theorem lookup_beginning_inside (h : t.Represents set) {p : Trigger}
    (hbinds : set.Binds (.mode m) r) (hp : p <+: r) (hne : p ≠ r)
    (hnot : ¬ set.Binds (.mode m) p) (hbegin : t.lookup active p = .beginning) :
    t.lookup (active ++ [m]) p = .beginning := by
  obtain ⟨hnil, hnone, -⟩ := (h.lookup_eq_beginning active p).mp hbegin
  obtain ⟨q, rfl⟩ := hp
  rw [h.lookup_eq_beginning]
  refine ⟨hnil, fun s hs => ?_, .mode m, q, ?_, fun hq => hne (by simp [hq]), hbinds⟩
  · rcases hs with rfl | ⟨n, hn, hd, rfl⟩
    · exact hnone _ (.inl rfl)
    · rcases List.mem_append.mp hn with hn | hn
      · exact hnone _ (.inr ⟨n, hn, hd, rfl⟩)
      · rwa [List.mem_singleton.mp hn]
  · exact .inr ⟨m, by simp, h.mem_modes_of_binds hbinds, rfl⟩

end Table.Represents

namespace Engine

variable {e : Engine} {set : MappingSet} {m : ModeId} {r : Trigger}

/-- When the buttons of its trigger activate a mode, each press but the last found a beginning. -/
theorem activated_by_trigger (hr : e.table.Represents set) (hset : Mapping.Toggles set)
    (hbuilt : ∃ set, Table.build set = .ok e.table) (hname : r.text = m.name)
    (he : e.window.presses = []) (d : Dispatcher ω) (w : ω) {ps : List Press}
    (hps : ps.map (·.button) = r)
    (hlast : (e.pressAll d w ps).1.getLast? = some (some (.modeChanged (.activated m)))) :
    (e.pressAll d w ps).2.1 = { e with modes := ⟨e.modes.active ++ [m]⟩ } ∧ m ∉ e.modes.active ∧
      ∀ s, s ≠ [] → s <+: r → s ≠ r → e.table.lookup e.modes.active s = .beginning := by
  rcases List.eq_nil_or_concat ps with rfl | ⟨ps, p, rfl⟩
  · cases hlast
  rw [List.concat_eq_append] at *
  rw [pressAll_concat] at hlast ⊢
  simp only [List.getLast?_append, List.getLast?_singleton, Option.some_or, Option.some.injEq,
    pressAll_engine] at hlast ⊢
  generalize (e.pressAll d w ps).2.2 = v at hlast ⊢
  have htable : (ps.foldl afterPress e).table = e.table :=
    List.foldlRecOn (motive := fun e' => e'.table = e.table) ps afterPress rfl
      fun e' he' p _ => (table_afterPress e' p).trans he'
  rcases (ps.foldl afterPress e).press_cases d p v with ⟨a, hl, hp⟩ | ⟨-, hp⟩ | ⟨-, hp⟩ <;>
    rw [hp] at hlast ⊢
  · obtain ⟨rfl, hm⟩ := Dispatcher.dispatch_eq_activated (Option.some.inj hlast)
    -- The last press completes the trigger of the mode, so it needs all the others.
    have hall : (ps.foldl afterPress e).window.extended p = r := by
      rw [htable] at hl
      obtain ⟨-, s, -, hentry⟩ := (hr.lookup_eq_exact _ _ _).mp hl
      exact hset.eq_of_activate hentry hname
    have hlength : ((ps.foldl afterPress e).window.extended p).length = ps.length + 1 := by
      rw [hall, ← hps]
      simp
    obtain ⟨hheld, hbegin⟩ := foldl_afterPress_of_length (.of_clear hbuilt he) he hlength
    rw [hheld] at hm ⊢
    refine ⟨?_, hm, fun s hs hpre hne => hbegin s hs ?_⟩
    · obtain ⟨t, ⟨presses, timeout⟩, modes⟩ := e
      obtain rfl : presses = [] := he
      simp only [ModeStack.after_activate hm, Window.clear]
    · rw [← hps, List.map_append, List.map_singleton] at hpre hne
      exact (List.prefix_concat_iff.mp hpre).resolve_left hne
  · cases hlast
  · cases hlast

/-- A trigger that has just activated its mode leaves it again, if no beginning of it is bound
inside. -/
theorem deactivated_by_trigger (hr : e.table.Represents set)
    (hoff : (⟨.mode m, r, .deactivate m⟩ : Entry) ∈ set.entries)
    (hreach : ∀ p, p ≠ [] → p <+: r → p ≠ r → ¬ set.Binds (.mode m) p)
    (he : e.window.presses = []) (hm : m ∉ e.modes.active)
    (hbegin : ∀ s, s ≠ [] → s <+: r → s ≠ r → e.table.lookup e.modes.active s = .beginning)
    (d : Dispatcher ω) (w : ω) {qs : List Press} (hqs : qs.map (·.button) = r)
    (htime : Window.InTime e.window.timeout qs) :
    let back := Engine.pressAll { e with modes := ⟨e.modes.active ++ [m]⟩ } d w qs
    back.1 = List.replicate (r.length - 1) none ++ [some (.modeChanged (.deactivated m))] ∧
      back.2.1 = e := by
  let inside : Engine := { e with modes := ⟨e.modes.active ++ [m]⟩ }
  have hexact : inside.table.lookup inside.modes.active (qs.map (·.button)) =
      .exact (.deactivate m) := by
    rw [hqs]
    exact hr.lookup_deactivate hoff
  have hinside : ∀ s, s ≠ [] → s <+: qs.map (·.button) → s ≠ qs.map (·.button) →
      inside.table.lookup inside.modes.active s = .beginning := by
    rw [hqs]
    intro s hs hpre hne
    exact hr.lookup_beginning_inside ⟨_, hoff⟩ hpre hne (hreach s hs hpre hne)
      (hbegin s hs hpre hne)
  have hnone : inside.window.presses = [] := he
  have hactive : m ∈ inside.modes.active := List.mem_append_right _ List.mem_cons_self
  have hback := pressAll_of_exact hnone hexact hinside htime d w
  show (inside.pressAll d w qs).1 = _ ∧ (inside.pressAll d w qs).2.1 = e
  rw [hback, ModeStack.after_deactivate hm, Dispatcher.dispatch_deactivate hactive, ← hqs,
    List.length_map]
  exact ⟨rfl, rfl⟩

theorem lookup_ne_deactivate (h : e.PendingChecked) (hr : e.table.Represents set)
    (hset : Mapping.Toggles set) (hname : r.text = m.name) (hm : m ∈ e.modes.active)
    (hhidden : ∃ p, (p ≠ [] ∧ p <+: r ∧ p ≠ r) ∧ set.Binds (.mode m) p) (p : Press) :
    e.table.lookup e.modes.active (e.window.extended p) ≠ .exact (.deactivate m) := by
  intro hl
  obtain ⟨-, s, -, hentry⟩ := (hr.lookup_eq_exact _ _ _).mp hl
  obtain ⟨q, ⟨hq, hpre, hne⟩, hbinds⟩ := hhidden
  rw [← hset.eq_of_deactivate hentry hname] at hpre hne
  -- The beginning was pending, although the mode binds it.
  exact h.not_shows hr p hq hpre hne
    ⟨.mode m, .inr ⟨m, hm, hr.mem_modes_of_binds hbinds, rfl⟩, hbinds⟩

theorem stays_active (h : e.PendingChecked) (hr : e.table.Represents set)
    (hset : Mapping.Toggles set) (hname : r.text = m.name) (hm : m ∈ e.modes.active)
    (hhidden : ∃ p, (p ≠ [] ∧ p <+: r ∧ p ≠ r) ∧ set.Binds (.mode m) p) (d : Dispatcher ω) (w : ω)
    {js : List Input}
    (hjs : ∀ set' timeout', .reload set' timeout' ∈ js → ∃ fault, Table.build set' = .error fault) :
    m ∈ (e.takeAll d w js).2.1.modes.active ∧
      .pressed (some (.modeChanged (.deactivated m))) ∉ (e.takeAll d w js).1 := by
  induction js generalizing e w with
  | nil => exact ⟨hm, List.not_mem_nil⟩
  | cons j js ih =>
    have hrest : ∀ set' timeout', .reload set' timeout' ∈ js →
        ∃ fault, Table.build set' = .error fault :=
      fun set' timeout' hj => hjs set' timeout' (List.mem_cons_of_mem j hj)
    have hnext := h.next j
    rw [← take_engine e d w j] at hnext
    have hstep : (e.take d w j).2.1.table = e.table ∧ m ∈ (e.take d w j).2.1.modes.active ∧
        (e.take d w j).1 ≠ .pressed (some (.modeChanged (.deactivated m))) := by
      cases j with
      | tick now => exact ⟨rfl, hm, Reply.noConfusion⟩
      | reload set' timeout' =>
        obtain ⟨fault, hfault⟩ := hjs set' timeout' List.mem_cons_self
        rw [take, reload_eq_error hfault]
        exact ⟨rfl, hm, Reply.noConfusion⟩
      | press p =>
        have hother := lookup_ne_deactivate h hr hset hname hm hhidden p
        rcases e.press_cases d p w with ⟨a, hl, hp⟩ | ⟨-, hp⟩ | ⟨-, hp⟩ <;> rw [take, hp]
        · have ha : a ≠ .deactivate m := by
            rintro rfl
            exact hother hl
          refine ⟨rfl, ModeStack.mem_after hm ha, fun hreply => ha ?_⟩
          exact Dispatcher.dispatch_eq_deactivated (Option.some.inj (Reply.pressed.inj hreply))
        · exact ⟨rfl, hm, by simp⟩
        · exact ⟨rfl, hm, by simp⟩
    obtain ⟨htable, hactive, hreply⟩ := hstep
    obtain ⟨hlater, hreplies⟩ := ih hnext (htable ▸ hr) hactive _ hrest
    refine ⟨hlater, fun hmem => ?_⟩
    rcases List.mem_cons.mp hmem with heq | hmem
    · exact hreply heq.symm
    · exact hreplies hmem

/-- **A mode can be left exactly when the table does not warn.**  In the table of a mapping file
every mode has its trigger.  If this is not reported as unreachable inside the mode, then pressing
it where it activates the mode with its last press, and pressing it again in one window, leaves the
mode with the last press, and the engine is as it was.  If it is reported, then the mode stays
active whatever is pressed, for as long as no reload succeeds. -/
theorem left_unless_unreachable {text : List Char} {set : MappingSet} {t : Table}
    (hread : Mapping.read text = .ok set) (hbuild : Table.build set = .ok t) {set₀ : MappingSet}
    {t₀ : Table} (h₀ : Table.build set₀ = .ok t₀) (timeout₀ : Nat) (d : Dispatcher ω) (w₀ : ω)
    (is : List Input) :
    let e := ((start t₀ timeout₀).takeAll d w₀ is).2.1
    e.table = t → ∀ m ∈ set.modes, ∃ r : Trigger, r.text = m.name ∧
      ((∀ p, (⟨.mode m, r, p⟩ : Unreachable) ∉ t.unreachable) → e.window.presses = [] →
        ∀ w ps, ps.map Press.button = r →
          (e.pressAll d w ps).1.getLast? = some (some (.modeChanged (.activated m))) →
          ∀ w' qs, qs.map Press.button = r → Window.InTime e.window.timeout qs →
            let back := (e.pressAll d w ps).2.1.pressAll d w' qs
            back.1 = List.replicate (r.length - 1) none ++
                [some (.modeChanged (.deactivated m))] ∧ back.2.1 = e) ∧
      ((∃ p, (⟨.mode m, r, p⟩ : Unreachable) ∈ t.unreachable) → m ∈ e.modes.active →
        ∀ w js, (∀ set' timeout', .reload set' timeout' ∈ js →
            ∃ fault, Table.build set' = .error fault) →
          m ∈ (e.takeAll d w js).2.1.modes.active ∧
            .pressed (some (.modeChanged (.deactivated m))) ∉ (e.takeAll d w js).1) := by
  intro e htable m hm
  have hset := Mapping.toggles_of_read hread
  obtain ⟨r, hname, -, hoff⟩ := hset.modes m hm
  have hr : e.table.Represents set := htable ▸ Table.represents_of_build hbuild
  have hunreachable := Table.mem_unreachable_iff hbuild (.mode m) r
  refine ⟨r, hname, fun hnot he w ps hps hlast w' qs hqs htime => ?_,
    fun hlisted hactive w js hjs => ?_⟩
  · have hreach : ∀ p, p ≠ [] → p <+: r → p ≠ r → ¬ set.Binds (.mode m) p := by
      intro p hp hpre hne hbinds
      obtain ⟨q, hq⟩ := hunreachable.mpr ⟨⟨_, hoff⟩, p, ⟨hp, hpre, hne⟩, hbinds⟩
      exact hnot q hq
    have hbuilt : ∃ set, Table.build set = .ok e.table := ⟨set, htable ▸ hbuild⟩
    obtain ⟨hon, hinactive, hbegin⟩ :=
      activated_by_trigger hr hset hbuilt hname he d w hps hlast
    rw [hon]
    exact deactivated_by_trigger hr hoff hreach he hinactive hbegin d w' hqs htime
  · have hchecked : e.PendingChecked :=
      takeAll_induction (PendingChecked.of_clear ⟨set₀, h₀⟩ rfl) (fun e i he => he.next i) d w₀ is
    exact stays_active hchecked hr hset hname hactive (hunreachable.mp hlisted).2 d w hjs

/-- One mode is entered and left; another one binds the first button of its trigger and stays. -/
theorem left_unless_unreachable_two :
    let text := "mode <Play> \x7b\n\x7d\nmode <Up><Down> \x7b\nmap <Up> k\n\x7d\n".toList
    let d : Dispatcher Unit := ⟨fun _ w => (none, w), fun _ w => (none, w), fun _ w => w, []⟩
    let js : List Input := [.press ⟨.up, 3⟩, .press ⟨.down, 4⟩, .tick 900, .press ⟨.down, 901⟩]
    ∃ set t, Mapping.read text = .ok set ∧ Table.build set = .ok t ∧
      (let e := start t 500
        let back := (e.pressAll d () [⟨.play, 0⟩]).2.1.pressAll d () [⟨.play, 1⟩]
        back.1 = [some (.modeChanged (.deactivated ⟨"<Play>"⟩))] ∧ back.2.1 = e) ∧
      let e := ((start t 500).takeAll d () [.press ⟨.up, 0⟩, .press ⟨.down, 1⟩]).2.1
      ⟨"<Up><Down>"⟩ ∈ (e.takeAll d () js).2.1.modes.active := by
  intro text d js
  let set : MappingSet := ⟨[⟨"<Play>"⟩, ⟨"<Up><Down>"⟩],
    [⟨.global, [.play], .activate ⟨"<Play>"⟩⟩, ⟨.mode ⟨"<Play>"⟩, [.play], .deactivate ⟨"<Play>"⟩⟩,
      ⟨.global, [.up, .down], .activate ⟨"<Up><Down>"⟩⟩,
      ⟨.mode ⟨"<Up><Down>"⟩, [.up, .down], .deactivate ⟨"<Up><Down>"⟩⟩,
      ⟨.mode ⟨"<Up><Down>"⟩, [.up], .type [.plain (.char 'k')]⟩]⟩
  have hread : Mapping.read text = .ok set := by decide +kernel
  obtain ⟨t, hbuild⟩ : ∃ t, Table.build set = .ok t := ⟨_, rfl⟩
  have ht : t = (Table.build set).toOption.getD (.blank []) := by rw [hbuild]; rfl
  refine ⟨set, t, hread, hbuild, ?_, ?_⟩
  · obtain ⟨r, hname, hleft, -⟩ := left_unless_unreachable hread hbuild hbuild 500 d () [] rfl
      ⟨"<Play>"⟩ (by decide)
    obtain rfl : r = [.play] := Trigger.text_injective hname
    refine hleft (fun p hp => ?_) rfl () [⟨.play, 0⟩] rfl ?_ () [⟨.play, 1⟩] rfl ?_
    · have hreports : ∀ u ∈ t.unreachable, u.trigger ≠ [.play] := by
        rw [ht]
        decide +kernel
      exact hreports _ hp rfl
    · rw [ht]
      decide +kernel
    · rintro _ ⟨⟩ p hp
      obtain rfl := List.mem_singleton.mp hp
      exact Nat.zero_le 500
  · have htable :
        ((start t 500).takeAll d () [.press ⟨.up, 0⟩, .press ⟨.down, 1⟩]).2.1.table = t := by
      simp [takeAll_engine, next, start]
    obtain ⟨r, hname, -, hstays⟩ := left_unless_unreachable hread hbuild hbuild 500 d ()
      [.press ⟨.up, 0⟩, .press ⟨.down, 1⟩] htable ⟨"<Up><Down>"⟩ (by decide)
    obtain rfl : r = [.up, .down] := Trigger.text_injective hname
    refine (hstays ⟨[.up], ?_⟩ ?_ () js ?_).1
    · rw [ht]
      decide +kernel
    · rw [ht]
      decide +kernel
    · intro set' timeout' h
      simp [js] at h

end Engine

end InlineRemote
