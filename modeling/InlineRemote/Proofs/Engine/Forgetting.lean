import InlineRemote.Proofs.Engine.Modes
import InlineRemote.Proofs.Engine.Worlds
import InlineRemote.Proofs.Table.Size

/-! # What a reload forgets

After a reload the engine is one that has just been started with the new table, except for the modes
that are still declared.  Nothing of the old table, the old timeout or the pending presses can
matter later: what is pending is always the end of what was pressed since the reload. -/
namespace InlineRemote

variable {ω : Type}

theorem Window.fresh_suffix (w : Window) (now : Nat) : (w.fresh now).presses <:+ w.presses := by
  rw [fresh]
  split
  · exact List.nil_suffix
  · exact List.suffix_rfl

namespace Engine

def Input.presses (is : List Input) : List Press :=
  is.filterMap fun
    | .press p => some p
    | _ => none

/-- What is pending after an input is the end of what was pressed up to it. -/
theorem next_suffix {e : Engine} {earlier : List Press} (h : e.window.presses <:+ earlier)
    (i : Input) : (e.next i).window.presses <:+ earlier ++ Input.presses [i] := by
  cases i with
  | press p =>
    rcases e.afterPress_cases p with ⟨a, -, hp⟩ | ⟨-, hp⟩ | ⟨-, hp⟩ <;> rw [next, hp]
    · exact List.nil_suffix
    · exact List.suffix_append_self_iff.mpr ((e.window.fresh_suffix p.time).trans h)
    · exact List.nil_suffix
  | tick now =>
    refine ((e.window.fresh_suffix now).trans h).trans ?_
    exact (List.append_nil earlier).symm ▸ List.suffix_rfl
  | reload set timeout =>
    rw [next]
    split
    · exact (List.append_nil earlier).symm ▸ h
    · exact List.nil_suffix

theorem foldl_next_suffix {e : Engine} {earlier : List Press} (h : e.window.presses <:+ earlier)
    (is : List Input) : (is.foldl next e).window.presses <:+ earlier ++ Input.presses is := by
  induction is generalizing e earlier with
  | nil => exact (List.append_nil earlier).symm ▸ h
  | cons i is ih =>
    have hrest := ih (next_suffix h i)
    rwa [List.append_assoc, Input.presses, Input.presses, ← List.filterMap_append] at hrest

theorem adopt_eq {set : MappingSet} {t : Table} (h : Table.build set = .ok t) (e : Engine)
    (timeout : Nat) :
    e.adopt t timeout =
      { start t timeout with modes := ⟨e.modes.active.filter (· ∈ set.modes)⟩ } := by
  have hkeep : e.modes.active.filter t.declares = e.modes.active.filter (· ∈ set.modes) := by
    refine List.filter_congr fun m _ => ?_
    rw [Bool.eq_iff_iff, (Table.represents_of_build h).declares_iff, decide_eq_true_eq]
  rw [adopt, ModeStack.retain, hkeep]
  rfl

end Engine

end InlineRemote
