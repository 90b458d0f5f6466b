import InlineRemote.Proofs.Engine.Completion
import InlineRemote.Proofs.Table.Unreachable

/-! # The first completed trigger wins

While a trigger is pressed within one window, every beginning that no visible scope binds is kept,
and the first one that some visible scope binds fires.  So the shortest bound beginning decides what
comes of the trigger, in whichever scope it is bound. -/
namespace InlineRemote

variable {ω : Type}

/-- Of the beginnings of a trigger that some visible scope binds, the lookup finds the shortest one
that some visible scope binds; what is shorter only begins a trigger. -/
theorem Table.Represents.exists_first {t : Table} {set : MappingSet} (h : t.Represents set)
    {active : List ModeId} {r : Trigger} (hr : set.Shows active r) :
    ∃ p s a, Trigger.Shortest (set.Shows active) r p ∧ set.Decides active p s ∧
      (⟨s, p, a⟩ : Entry) ∈ set.entries ∧ t.lookup active p = .exact a ∧
      ∀ q, q ≠ [] → q <+: p → q ≠ p → t.lookup active q = .beginning := by
  have hne : r ≠ [] := by
    obtain ⟨s, -, a, ha⟩ := hr
    exact h.trigger_ne_nil _ ha
  obtain ⟨p, hp⟩ := Trigger.Shortest.exists_of_beginning hne List.prefix_rfl hr
  obtain ⟨s, a, hdecides, hentry⟩ := h.exists_decides hp.holds
  refine ⟨p, s, a, hp, hdecides, hentry, ?_, fun q hq hpre hne => ?_⟩
  · exact (h.lookup_eq_exact _ _ _).mpr ⟨hp.ne_nil, s, hdecides, hentry⟩
  · exact h.lookup_beginning_of_shows hr hq (hpre.trans hp.beginning)
      (hp.not_of_beginning hq hpre hne)

theorem Window.InTime.of_prefix {timeout : Nat} {ps qs : List Press} (h : InTime timeout ps)
    (hpre : qs <+: ps) : InTime timeout qs := by
  obtain ⟨rest, rfl⟩ := hpre
  intro first hfirst p hp
  refine h first ?_ p (List.mem_append_left rest hp)
  cases qs with
  | nil => cases hfirst
  | cons q qs => exact hfirst

theorem Window.InTime.fresh_eq {timeout : Nat} {ps : List Press} {p : Press}
    (h : InTime timeout (ps ++ [p])) : (⟨ps, timeout⟩ : Window).fresh p.time = ⟨ps, timeout⟩ := by
  refine Block.fresh_of_admits ?_
  rw [Block.admits]
  cases ps with
  | nil => rfl
  | cons first ps => exact decide_eq_true (h first rfl p (by simp))

theorem Window.InTime.extended_eq {timeout : Nat} {ps : List Press} {p : Press}
    (h : InTime timeout (ps ++ [p])) :
    (⟨ps, timeout⟩ : Window).extended p = (ps ++ [p]).map (·.button) := by
  rw [extended, h.fresh_eq, List.map_append]
  rfl

namespace Engine

/-- The sequence that a press completes, with its action. -/
def completed? (e : Engine) (p : Press) : Option (Trigger × Action) :=
  match (e.window.append p e.table e.modes).2 with
  | .matched s a => some (s, a)
  | _ => none

/-- What presses complete one after the other. -/
def completions (e : Engine) : List Press → List (Option (Trigger × Action))
  | [] => []
  | p :: ps => e.completed? p :: (e.afterPress p).completions ps

theorem completed?_eq_some_iff {e : Engine} {p : Press} {s : Trigger} {a : Action} :
    e.completed? p = some (s, a) ↔
      e.window.extended p = s ∧ e.table.lookup e.modes.active s = .exact a := by
  rw [completed?]
  rcases e.window.append_cases p e.table e.modes with ⟨b, hl, h⟩ | ⟨hl, h⟩ | ⟨hl, h⟩ <;> rw [h]
  · constructor
    · rintro ⟨⟩
      exact ⟨rfl, hl⟩
    · rintro ⟨rfl, ha⟩
      rw [hl] at ha
      cases ha
      rfl
  all_goals
    refine ⟨nofun, ?_⟩
    rintro ⟨rfl, ha⟩
    rw [hl] at ha
    cases ha

theorem completions_concat (e : Engine) (ps : List Press) (p : Press) :
    e.completions (ps ++ [p]) = e.completions ps ++ [(ps.foldl afterPress e).completed? p] := by
  induction ps generalizing e with
  | nil => rfl
  | cons q ps ih => rw [List.cons_append, completions, ih, completions, List.foldl_cons]; rfl

theorem kept_press {t : Table} {timeout : Nat} {modes : ModeStack} {ps : List Press} {p : Press}
    (htime : Window.InTime timeout (ps ++ [p]))
    (hl : t.lookup modes.active ((ps ++ [p]).map (·.button)) = .beginning) :
    afterPress ⟨t, ⟨ps, timeout⟩, modes⟩ p = ⟨t, ⟨ps ++ [p], timeout⟩, modes⟩ ∧
      completed? ⟨t, ⟨ps, timeout⟩, modes⟩ p = none := by
  have happend := (⟨ps, timeout⟩ : Window).append_cases p t modes
  rw [htime.extended_eq, htime.fresh_eq, hl] at happend
  rcases happend with ⟨a, ha, -⟩ | ⟨-, h⟩ | ⟨ha, -⟩
  · cases ha
  · exact ⟨by rw [afterPress, h], by rw [completed?, h]⟩
  · cases ha

/-- Presses in time that only begin triggers complete nothing, and all of them are kept. -/
theorem kept_presses {t : Table} {timeout : Nat} {modes : ModeStack} {ps : List Press}
    (htime : Window.InTime timeout ps)
    (hbegin : ∀ s, s ≠ [] → s <+: ps.map (·.button) → t.lookup modes.active s = .beginning) :
    ps.foldl afterPress ⟨t, ⟨[], timeout⟩, modes⟩ = ⟨t, ⟨ps, timeout⟩, modes⟩ ∧
      completions ⟨t, ⟨[], timeout⟩, modes⟩ ps = List.replicate ps.length none := by
  induction ps using List.reverseRecOn with
  | nil => exact ⟨rfl, rfl⟩
  | append_singleton ps p ih =>
    have hpre : ps <+: ps ++ [p] := List.prefix_append ps [p]
    obtain ⟨hkept, hnone⟩ :=
      ih (htime.of_prefix hpre) fun s hs hps => hbegin s hs (hps.trans (hpre.map _))
    obtain ⟨hafter, hcompleted⟩ := kept_press htime (hbegin _ (by simp) List.prefix_rfl)
    rw [List.foldl_concat, completions_concat, hkept, hnone, hafter, hcompleted, List.length_append,
      List.length_singleton, List.replicate_succ']
    exact ⟨rfl, rfl⟩

/-- Presses in time complete the trigger that they make, if nothing that begins it fires before. -/
theorem completions_of_exact {t : Table} {timeout : Nat} {modes : ModeStack} {ps : List Press}
    {a : Action} (htime : Window.InTime timeout ps)
    (hexact : t.lookup modes.active (ps.map (·.button)) = .exact a)
    (hbegin : ∀ s, s ≠ [] → s <+: ps.map (·.button) → s ≠ ps.map (·.button) →
      t.lookup modes.active s = .beginning) :
    completions ⟨t, ⟨[], timeout⟩, modes⟩ ps =
      List.replicate (ps.length - 1) none ++ [some (ps.map (·.button), a)] := by
  rcases List.eq_nil_or_concat ps with rfl | ⟨ps, p, rfl⟩
  · rw [List.map_nil, Table.lookup, if_pos rfl] at hexact
    cases hexact
  rw [List.concat_eq_append] at *
  have hpre : ps <+: ps ++ [p] := List.prefix_append ps [p]
  obtain ⟨hkept, hnone⟩ := kept_presses (htime.of_prefix hpre)
    fun s hs hps => hbegin s hs (hps.trans (hpre.map _)) fun heq => by
      have hlength := (heq ▸ hps).length_le
      simp only [List.length_map, List.length_append, List.length_singleton] at hlength
      omega
  have hlast : completed? ⟨t, ⟨ps, timeout⟩, modes⟩ p = some ((ps ++ [p]).map (·.button), a) :=
    completed?_eq_some_iff.mpr ⟨htime.extended_eq, hexact⟩
  rw [completions_concat, hkept, hnone, hlast, List.length_append, List.length_singleton,
    Nat.add_sub_cancel]

/-- A trigger that its last press completes has no shorter beginning that is visible. -/
theorem not_shows_of_completed {t : Table} {set : MappingSet} (hbuild : Table.build set = .ok t)
    {timeout : Nat} {modes : ModeStack} {ps : List Press} {a : Action}
    (h : (completions ⟨t, ⟨[], timeout⟩, modes⟩ ps).getLast? = some (some (ps.map (·.button), a)))
    {q : Trigger} (hq : q ≠ []) (hpre : q <+: ps.map (·.button)) (hne : q ≠ ps.map (·.button)) :
    ¬ set.Shows modes.active q := by
  rcases List.eq_nil_or_concat ps with rfl | ⟨ps, p, rfl⟩
  · exact absurd (List.prefix_nil.mp hpre) hq
  rw [List.concat_eq_append] at *
  rw [completions_concat, List.getLast?_concat, Option.some.injEq, completed?_eq_some_iff] at h
  have hlength := congrArg List.length h.1
  rw [List.length_map, List.length_append, List.length_singleton] at hlength
  have hchecked : PendingChecked ⟨t, ⟨[], timeout⟩, modes⟩ := .of_clear ⟨set, hbuild⟩ rfl
  obtain ⟨-, hbegin⟩ := foldl_afterPress_of_length hchecked rfl hlength
  rw [List.map_append, List.map_singleton] at hpre hne
  have hl := hbegin q hq ((List.prefix_concat_iff.mp hpre).resolve_left hne)
  exact (Table.represents_of_build hbuild).not_shows_of_beginning hl

/-- **The first completed trigger wins.**  A trigger that some visible scope binds is pressed within
one window, with nothing pending before.  Of its beginnings that some visible scope binds, the
shortest one decides: the presses before its last one do nothing, and that one completes it and
dispatches, once, the action that the innermost visible scope has for it, and leaves nothing
pending.  The trigger itself is completed by its last press exactly if no visible scope binds a
shorter beginning of it. -/
theorem first_completed_wins {set : MappingSet} {t : Table} (hbuild : Table.build set = .ok t)
    (timeout : Nat) (modes : ModeStack) {r : Trigger} (hr : set.Shows modes.active r)
    (d : Dispatcher ω) (w : ω) {ps : List Press} (hps : ps.map (·.button) = r)
    (htime : Window.InTime timeout ps) :
    let e : Engine := ⟨t, ⟨[], timeout⟩, modes⟩
    (∃ p s a, Trigger.Shortest (set.Shows modes.active) r p ∧
      set.Decides modes.active p s ∧ (⟨s, p, a⟩ : Entry) ∈ set.entries ∧
      e.completions (ps.take p.length) =
        List.replicate (p.length - 1) none ++ [some (p, a)] ∧
      e.pressAll d w (ps.take p.length) =
        (List.replicate (p.length - 1) none ++ [some (d.dispatch a modes w).1],
          { e with modes := modes.after a }, (d.dispatch a modes w).2.2)) ∧
    ((∃ a, (e.completions ps).getLast? = some (some (r, a))) ↔
      ∀ q, q ≠ [] → q <+: r → q ≠ r → ¬ set.Shows modes.active q) := by
  intro e
  obtain ⟨p, s, a, hp, hdecides, hentry, hexact, hbegin⟩ :=
    (Table.represents_of_build hbuild).exists_first hr
  have htake : (ps.take p.length).map (·.button) = p := by
    rw [List.map_take, hps]
    exact (List.prefix_iff_eq_take.mp hp.beginning).symm
  have hlength : (ps.take p.length).length = p.length := by
    rw [← List.length_map, htake]
  have hwindow : Window.InTime timeout (ps.take p.length) :=
    htime.of_prefix (List.take_prefix p.length ps)
  have hcompleted := completions_of_exact hwindow (htake.symm ▸ hexact) (htake.symm ▸ hbegin)
  have hpressed := pressAll_of_exact (e := e) rfl (htake.symm ▸ hexact) (htake.symm ▸ hbegin)
    hwindow d w
  rw [hlength] at hpressed
  rw [hlength, htake] at hcompleted
  refine ⟨⟨p, s, a, hp, hdecides, hentry, hcompleted, hpressed⟩, ?_, fun hnone => ?_⟩
  · rintro ⟨b, hb⟩ q hq hpre hne
    subst hps
    exact not_shows_of_completed hbuild hb hq hpre hne
  · obtain rfl : p = r := by_contra fun hne => hnone p hp.ne_nil hp.beginning hne hp.holds
    have hall : ps.take p.length = ps := List.take_of_length_le (by rw [← hps, List.length_map])
    rw [hall] at hcompleted
    exact ⟨a, by rw [hcompleted, List.getLast?_concat]⟩

/-- A global trigger is pressed inside a mode that binds the first two of its buttons.  The clock
goes back once, and the last press comes just in time. -/
theorem first_completed_wins_inside :
    let m : ModeId := ⟨"m"⟩
    let set : MappingSet :=
      ⟨[m], [⟨.global, [.play, .up, .down], .run "x"⟩, ⟨.mode m, [.play, .up], .deactivate m⟩]⟩
    let d : Dispatcher Unit := ⟨fun _ w => (none, w), fun _ w => (none, w), fun _ w => w, []⟩
    let ps : List Press := [⟨.play, 7⟩, ⟨.up, 3⟩, ⟨.down, 507⟩]
    ∃ t, Table.build set = .ok t ∧
      let e : Engine := ⟨t, ⟨[], 500⟩, ⟨[m]⟩⟩
      e.pressAll d () (ps.take 2) =
          ([none, some (.modeChanged (.deactivated m))], { e with modes := .empty }, ()) ∧
        e.completions (ps.take 2) = [none, some ([.play, .up], .deactivate m)] ∧
        ¬ ∃ a, (e.completions ps).getLast? = some (some ([.play, .up, .down], a)) := by
  intro m set d ps
  obtain ⟨t, ht⟩ : ∃ t, Table.build set = .ok t := ⟨_, rfl⟩
  have hshows : set.Shows [m] [.play, .up] :=
    ⟨.mode m, .inr ⟨m, by decide, by decide, rfl⟩, .deactivate m, by decide⟩
  have htime : Window.InTime 500 ps := by
    rintro _ ⟨⟩ p hp
    revert p
    decide
  obtain ⟨⟨p, s, a, hp, -, hentry, hcompleted, hpressed⟩, hall⟩ :=
    first_completed_wins ht 500 ⟨[m]⟩ (r := [.play, .up, .down])
      ⟨.global, .inl rfl, .run "x", by decide⟩ d () (rfl : ps.map (·.button) = _) htime
  have hlength : p.length ≤ 2 := hp.length_le _ (by decide) (by decide) hshows
  obtain ⟨rfl, rfl⟩ : p = [.play, .up] ∧ a = .deactivate m := by
    rcases List.mem_cons.mp hentry with heq | hentry
    · cases heq
      exact absurd hlength (by decide)
    · cases List.mem_singleton.mp hentry
      exact ⟨rfl, rfl⟩
  refine ⟨t, ht, hpressed, hcompleted, fun hlast => ?_⟩
  exact hall.mp hlast _ (by decide) (by decide) (by decide) hshows

end Engine

end InlineRemote
