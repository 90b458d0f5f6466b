import InlineRemote.Proofs.Engine.Forgetting
import InlineRemote.Proofs.Engine.Pending
import InlineRemote.Proofs.Engine.Segmentation
import Mathlib.Data.List.Induction

/-! # Completing a trigger in one window

An engine with nothing pending completes a trigger by its last press, if the trigger is what the
lookup finds, all its beginnings only begin it, and the presses come in time.  In turn, when presses
complete a sequence as long as all of them, then nothing else happened in between. -/
namespace InlineRemote

variable {ω : Type}

/-- Presses come within the timeout after the first of them. -/
def Window.InTime (timeout : Nat) (ps : List Press) : Prop :=
  ∀ first ∈ ps.head?, ∀ p ∈ ps, p.time - first.time ≤ timeout

namespace Block

theorem grow_of_exact {t : Table} {timeout : Nat} {modes : ModeStack} {a : Action}
    {block rest : List Press} (hne : block ≠ [])
    (hexact : t.lookup modes.active ((block ++ rest).map (·.button)) = .exact a)
    (hbegin : ∀ r, r <+: rest → r ≠ rest →
      t.lookup modes.active ((block ++ r).map (·.button)) = .beginning)
    (htime : ∀ p ∈ rest, admits timeout block p = true) :
    grow t timeout modes block rest = (⟨block ++ rest, .fired a⟩, []) := by
  induction rest generalizing block with
  | nil =>
    rw [List.append_nil] at hexact ⊢
    rw [grow, hexact]
  | cons p rest ih =>
    have hnow := hbegin [] List.nil_prefix (List.cons_ne_nil p rest).symm
    rw [List.append_nil] at hnow
    -- The block keeps its first press.
    have hadmits (q : Press) : admits timeout (block ++ [p]) q = admits timeout block q := by
      rw [admits, admits, List.head?_append_of_ne_nil _ hne]
    rw [grow, hnow]
    simp only [htime p List.mem_cons_self, if_true]
    rw [List.append_cons block p rest] at hexact ⊢
    refine ih (by simp) hexact (fun r hr hr' => ?_) fun q hq => ?_
    · rw [List.append_assoc]
      exact hbegin (p :: r) (List.cons_prefix_cons.mpr ⟨rfl, hr⟩) fun h => hr' (List.cons.inj h).2
    · rw [hadmits]
      exact htime q (List.mem_cons_of_mem p hq)

end Block

namespace Engine

theorem pressAll_of_exact {e : Engine} (he : e.window.presses = []) {ps : List Press} {a : Action}
    (hexact : e.table.lookup e.modes.active (ps.map (·.button)) = .exact a)
    (hbegin : ∀ s, s ≠ [] → s <+: ps.map (·.button) → s ≠ ps.map (·.button) →
      e.table.lookup e.modes.active s = .beginning)
    (htime : Window.InTime e.window.timeout ps) (d : Dispatcher ω) (w : ω) :
    e.pressAll d w ps = (List.replicate (ps.length - 1) none ++ [some (d.dispatch a e.modes w).1],
      { e with modes := e.modes.after a }, (d.dispatch a e.modes w).2.2) := by
  obtain ⟨t, ⟨presses, timeout⟩, modes⟩ := e
  obtain rfl : presses = [] := he
  cases ps with
  | nil =>
    rw [List.map_nil, Table.lookup, if_pos rfl] at hexact
    cases hexact
  | cons p ps =>
    have hgrow : Block.grow t timeout modes [p] ps = (⟨p :: ps, .fired a⟩, []) := by
      refine Block.grow_of_exact (List.cons_ne_nil p []) hexact (fun r hr hne => ?_) fun q hq => ?_
      · refine hbegin _ (List.cons_ne_nil _ _) (List.IsPrefix.map _ ?_) fun h => hne ?_
        · exact List.cons_prefix_cons.mpr ⟨rfl, hr⟩
        · have hlength := congrArg List.length h
          simp only [List.length_map, List.length_append, List.length_cons, List.length_nil,
            Nat.zero_add, Nat.add_comm 1, Nat.add_right_cancel_iff] at hlength
          exact hr.eq_of_length hlength
      · exact decide_eq_true (htime p rfl q (List.mem_cons_of_mem p hq))
    rw [Block.pressAll_ofStream, Block.ofStream, hgrow, Block.ofStream]
    simp [Block.performAll, Block.perform, Block.after, Block.waiting]

theorem pressAll_concat (e : Engine) (d : Dispatcher ω) (w : ω) (ps : List Press) (p : Press) :
    let run := e.pressAll d w ps
    e.pressAll d w (ps ++ [p]) =
      (run.1 ++ [(run.2.1.press d p run.2.2).1], (run.2.1.press d p run.2.2).2) := by
  induction ps generalizing e w with
  | nil => rfl
  | cons q ps ih => simp only [List.cons_append, pressAll, ih]

theorem pressAll_engine (e : Engine) (d : Dispatcher ω) (w : ω) (ps : List Press) :
    (e.pressAll d w ps).2.1 = ps.foldl afterPress e := by
  induction ps generalizing e w with
  | nil => rfl
  | cons p ps ih => rw [pressAll, List.foldl_cons, ← e.press_engine d p w, ih]

theorem foldl_afterPress_suffix {e : Engine} (he : e.window.presses = []) (ps : List Press) :
    (ps.foldl afterPress e).window.presses <:+ ps := by
  have h := foldl_next_suffix (he ▸ List.suffix_rfl : e.window.presses <:+ []) (ps.map .press)
  have hpresses : Input.presses (ps.map .press) = ps := by
    simp [Input.presses, List.filterMap_map]
  rwa [List.foldl_map, hpresses] at h

theorem foldl_afterPress_held {e : Engine} (he : e.window.presses = []) {ps : List Press}
    (h : (ps.foldl afterPress e).window.presses = ps) :
    ps.foldl afterPress e = { e with window := { e.window with presses := ps } } := by
  induction ps using List.reverseRecOn with
  | nil =>
    obtain ⟨t, ⟨presses, timeout⟩, modes⟩ := e
    obtain rfl : presses = [] := he
    rfl
  | append_singleton ps p ih =>
    rw [List.foldl_concat] at h ⊢
    rcases (ps.foldl afterPress e).afterPress_cases p with ⟨a, -, hp⟩ | ⟨-, hp⟩ | ⟨-, hp⟩ <;>
      rw [hp] at h ⊢
    · exact absurd h.symm (List.concat_ne_nil p ps)
    · -- The pending presses before the last one cannot be fewer than all of them.
      have hall := (List.append_inj' h rfl).1
      have hfresh := (ps.foldl afterPress e).window.fresh_suffix p.time
      rw [hall] at hfresh
      have hbefore := hfresh.eq_of_length_le (foldl_afterPress_suffix he ps).length_le
      rw [hall, ih hbefore.symm]
    · exact absurd h.symm (List.concat_ne_nil p ps)

/-- A press that completes a sequence as long as all presses finds the others pending, each of them
in its turn. -/
theorem foldl_afterPress_of_length {e : Engine} (h : e.PendingChecked) (he : e.window.presses = [])
    {ps : List Press} {p : Press}
    (hlength : ((ps.foldl afterPress e).window.extended p).length = ps.length + 1) :
    ps.foldl afterPress e = { e with window := { e.window with presses := ps } } ∧
      ∀ s, s ≠ [] → s <+: ps.map (·.button) → e.table.lookup e.modes.active s = .beginning := by
  have hpending := foldl_afterPress_suffix he ps
  have hfresh := (ps.foldl afterPress e).window.fresh_suffix p.time
  rw [Window.extended, List.length_append, Window.sequence, List.length_map, List.length_singleton,
    Nat.add_right_cancel_iff] at hlength
  have hall : (ps.foldl afterPress e).window.presses = ps := by
    refine hpending.eq_of_length (Nat.le_antisymm hpending.length_le ?_)
    rw [← hlength]
    exact hfresh.length_le
  have hheld := foldl_afterPress_held he hall
  have hchecked : (ps.foldl afterPress e).PendingChecked :=
    List.foldlRecOn ps afterPress h fun e he p _ => he.press p
  rw [hheld] at hchecked
  exact ⟨hheld, hchecked.beginning⟩

end Engine

end InlineRemote
