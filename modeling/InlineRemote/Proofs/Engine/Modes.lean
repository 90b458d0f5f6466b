import InlineRemote.Proofs.Engine.Run
import InlineRemote.Proofs.Table.Search
import Mathlib.Data.List.Dedup
import Mathlib.Data.List.Perm.Subperm

/-! # The active modes over a run

An input takes modes out of the stack, or puts one mode at its end that was not in it.  So the modes
that stay never change their order, no mode stands there twice, and all of them stand in the order
in which they became active last.  A reload takes out what the new table does not declare, and the
actions of a table switch declared modes only. -/
namespace InlineRemote

namespace ModeStack

/-- The modes of a stack that another one before it did not have. -/
def came (s t : ModeStack) : List ModeId :=
  t.active.filter (!s.contains ·)

@[simp] theorem contains_eq_true_iff (s : ModeStack) (m : ModeId) :
    s.contains m = true ↔ m ∈ s.active :=
  List.contains_iff_mem

@[simp] theorem contains_eq_false_iff (s : ModeStack) (m : ModeId) :
    s.contains m = false ↔ m ∉ s.active := by
  rw [← contains_eq_true_iff, Bool.not_eq_true]

theorem mem_came {s t : ModeStack} {m : ModeId} :
    m ∈ s.came t ↔ m ∈ t.active ∧ m ∉ s.active := by
  simp [came]

theorem came_eq_nil {s t : ModeStack} (h : t.active ⊆ s.active) : s.came t = [] := by
  rw [came, List.filter_eq_nil_iff]
  intro m hm
  simpa using h hm

theorem came_filter (s : ModeStack) (keep : ModeId → Bool) :
    s.came ⟨s.active.filter keep⟩ = [] :=
  came_eq_nil (List.filter_subset_self s.active)

theorem came_push {s : ModeStack} {m : ModeId} (h : m ∉ s.active) :
    s.came ⟨s.active ++ [m]⟩ = [m] := by
  have hold : s.came s = [] := came_eq_nil (List.Subset.refl _)
  rw [came] at hold
  rw [came, List.filter_append, hold]
  simp [h]

theorem mem_came_after {s : ModeStack} {a : Action} {m : ModeId} :
    m ∈ s.came (s.after a) ↔ m ∉ s.active ∧ a = .activate m := by
  rw [mem_came]
  cases a with
  | type strokes => simp [after]
  | run command => simp [after]
  | activate n =>
    by_cases hn : n ∈ s.active
    · simp only [after, push?, contains_eq_true_iff, hn, if_true, Option.getD_none]
      grind
    · simp [after, push?, hn]
      grind
  | deactivate n =>
    rw [after, pop?]
    split
    · simp +contextual
    · simp

theorem dedup_concat (l : List ModeId) (m : ModeId) :
    (l ++ [m]).dedup = l.dedup.filter (· ≠ m) ++ [m] := by
  induction l with
  | nil => rfl
  | cons n l ih =>
    by_cases hl : n ∈ l
    · rw [List.cons_append, List.dedup_cons_of_mem (List.mem_append_left _ hl), ih,
        List.dedup_cons_of_mem hl]
    · by_cases hn : n = m
      · subst hn
        rw [List.cons_append, List.dedup_cons_of_mem (by simp), ih, List.dedup_cons_of_notMem hl]
        simp
      · have hnot : n ∉ l ++ [m] := by simp [hl, hn]
        rw [List.cons_append, List.dedup_cons_of_notMem hnot, ih, List.dedup_cons_of_notMem hl]
        simp [hn]

/-- What an input can do to a stack. -/
inductive Shift (s : ModeStack) : ModeStack → Prop where
  /-- Some modes are taken out. -/
  | filter (keep : ModeId → Bool) : Shift s ⟨s.active.filter keep⟩
  /-- A mode that was not in it comes in at the end. -/
  | push (m : ModeId) (h : m ∉ s.active) : Shift s ⟨s.active ++ [m]⟩

namespace Shift

variable {s t : ModeStack}

theorem refl (s : ModeStack) : s.Shift s := by
  have h := Shift.filter (s := s) fun _ => true
  rwa [List.filter_true] at h

theorem after (s : ModeStack) (a : Action) : s.Shift (s.after a) := by
  cases a with
  | type strokes => exact refl s
  | run command => exact refl s
  | activate m =>
    rw [ModeStack.after, push?]
    split
    · exact refl s
    · next h => exact push m (by simpa using h)
  | deactivate m =>
    rw [ModeStack.after, pop?]
    split
    · exact filter _
    · exact refl s

theorem nodup (h : s.Shift t) (hs : s.active.Nodup) : t.active.Nodup := by
  cases h with
  | filter keep => exact hs.filter keep
  | push m hm =>
    rw [List.nodup_append]
    refine ⟨hs, List.nodup_singleton m, fun a ha b hb => ?_⟩
    rw [List.mem_singleton.mp hb]
    exact ne_of_mem_of_not_mem ha hm

theorem active_eq (h : s.Shift t) : t.active = s.active.filter t.contains ++ s.came t := by
  cases h with
  | filter keep =>
    rw [came_filter, List.append_nil]
    refine List.filter_congr fun m hm => ?_
    rw [Bool.eq_iff_iff, contains_eq_true_iff, List.mem_filter]
    simp [hm]
  | push m hm =>
    have hstay : s.active.filter (contains ⟨s.active ++ [m]⟩) = s.active := by
      rw [List.filter_eq_self]
      intro n hn
      simp [hn]
    rw [came_push hm, hstay]

theorem length_came_le (h : s.Shift t) : (s.came t).length ≤ 1 := by
  cases h with
  | filter keep =>
    rw [came_filter]
    exact Nat.zero_le 1
  | push m hm =>
    rw [came_push hm]
    exact Nat.le_refl 1

/-- If the modes stand in the order of their last arrival before an input, then they do so after
it. -/
theorem sublist_dedup (h : s.Shift t) {arrivals : List ModeId}
    (hs : s.active.Sublist arrivals.dedup) : t.active.Sublist (arrivals ++ s.came t).dedup := by
  cases h with
  | filter keep =>
    rw [came_filter, List.append_nil]
    exact List.filter_sublist.trans hs
  | push m hm =>
    have hstay : s.active.filter (· ≠ m) = s.active := by
      rw [List.filter_eq_self]
      intro n hn
      simpa using ne_of_mem_of_not_mem hn hm
    rw [came_push hm, dedup_concat]
    refine List.Sublist.append ?_ (List.Sublist.refl _)
    rw [← hstay]
    exact hs.filter _

end Shift

end ModeStack

namespace Table

theorem Represents.declares_target {t : Table} {set : MappingSet} (h : t.Represents set)
    {active : List ModeId} {r : Trigger} {a : Action} {m : ModeId}
    (hl : t.lookup active r = .exact a) (hm : a.target? = some m) : t.declares m = true := by
  obtain ⟨-, s, -, he⟩ := (h.lookup_eq_exact active r a).mp hl
  rw [h.declares_iff]
  exact h.target_mem _ he m hm

/-- Where all active modes are declared, a lookup sees as many scopes as there are of them, and the
global one. -/
theorem length_visible {t : Table} {set : MappingSet} (h : t.Represents set)
    {active : List ModeId} (hactive : ∀ m ∈ active, t.declares m = true) :
    (t.visible active).length = active.length + 1 := by
  have hall : ∀ s ∈ active.reverse.map Scope.mode ++ [Scope.global], (t.scope? s).isSome := by
    intro s hs
    rcases List.mem_append.mp hs with hs | hs
    · obtain ⟨m, hm, rfl⟩ := List.mem_map.mp hs
      exact hactive m (List.mem_reverse.mp hm)
    · rw [List.mem_singleton.mp hs, h.scope?_isSome]
      exact .inl rfl
  rw [visible, List.filterMap_length_eq_length.mpr hall]
  simp

end Table

namespace Engine

variable {ω : Type}

theorem next_shift (e : Engine) (i : Input) : e.modes.Shift (e.next i).modes := by
  cases i with
  | press p =>
    rcases e.afterPress_cases p with ⟨a, -, hp⟩ | ⟨-, hp⟩ | ⟨-, hp⟩ <;> rw [next, hp]
    · exact .after e.modes a
    · exact .refl e.modes
    · exact .refl e.modes
  | tick now => exact .refl e.modes
  | reload set timeout =>
    rw [next]
    split
    · exact .refl e.modes
    · next t _ => exact .filter t.declares

/-- A mode becomes active by the press that completes a trigger for its activation. -/
theorem mem_came_next (e : Engine) (i : Input) (m : ModeId) :
    m ∈ e.modes.came (e.next i).modes ↔ m ∉ e.modes.active ∧ ∃ p, i = .press p ∧
      e.table.lookup e.modes.active (e.window.extended p) = .exact (.activate m) := by
  cases i with
  | press p =>
    simp only [Input.press.injEq, exists_eq_left']
    rcases e.afterPress_cases p with ⟨a, hl, hp⟩ | ⟨hl, hp⟩ | ⟨hl, hp⟩ <;> rw [next, hp, hl]
    · simp [ModeStack.mem_came_after]
    · simp [ModeStack.mem_came]
    · simp [ModeStack.mem_came]
  | tick now => simp [ModeStack.mem_came, next, expire]
  | reload set timeout =>
    rw [next]
    split
    · simp [ModeStack.mem_came]
    · simp +contextual [ModeStack.mem_came, adopt, ModeStack.retain]

/-- No mode is active twice, and the table in force declares all active modes. -/
structure ModesDeclared (e : Engine) : Prop where
  built : ∃ set, Table.build set = .ok e.table
  nodup : e.modes.active.Nodup
  declared : ∀ m ∈ e.modes.active, e.table.declares m = true

namespace ModesDeclared

variable {e : Engine}

theorem start {set : MappingSet} {t : Table} (h : Table.build set = .ok t) (timeout : Nat) :
    (Engine.start t timeout).ModesDeclared :=
  ⟨⟨set, h⟩, List.nodup_nil, fun _ hm => absurd hm List.not_mem_nil⟩

theorem afterPress (h : e.ModesDeclared) (p : Press) : (e.afterPress p).ModesDeclared := by
  obtain ⟨set, hset⟩ := h.built
  rcases e.afterPress_cases p with ⟨a, hl, hp⟩ | ⟨-, hp⟩ | ⟨-, hp⟩ <;> rw [hp]
  · refine ⟨h.built, (ModeStack.Shift.after e.modes a).nodup h.nodup, fun m hm => ?_⟩
    by_cases hold : m ∈ e.modes.active
    · exact h.declared m hold
    · -- Only an action of the table in force can have activated it.
      obtain ⟨-, rfl⟩ := ModeStack.mem_came_after.mp (ModeStack.mem_came.mpr ⟨hm, hold⟩)
      exact (Table.represents_of_build hset).declares_target hl rfl
  · exact ⟨h.built, h.nodup, h.declared⟩
  · exact ⟨h.built, h.nodup, h.declared⟩

theorem next (h : e.ModesDeclared) (i : Input) : (e.next i).ModesDeclared := by
  cases i with
  | press p => exact h.afterPress p
  | tick now => exact ⟨h.built, h.nodup, h.declared⟩
  | reload set timeout =>
    rw [Engine.next]
    split
    · exact h
    · next t ht =>
      exact ⟨⟨set, ht⟩, h.nodup.filter _, fun m hm => (List.mem_filter.mp hm).2⟩

theorem takeAll (h : e.ModesDeclared) (d : Dispatcher ω) (w : ω) (is : List Input) :
    (e.takeAll d w is).2.1.ModesDeclared :=
  takeAll_induction h (fun _ i he => he.next i) d w is

theorem length_le (h : e.ModesDeclared) {set : MappingSet} (hset : Table.build set = .ok e.table) :
    e.modes.active.length ≤ set.modes.dedup.length := by
  refine (List.subperm_of_subset h.nodup fun m hm => ?_).length_le
  rw [List.mem_dedup, ← (Table.represents_of_build hset).declares_iff]
  exact h.declared m hm

end ModesDeclared

/-- The modes that inputs make active, in the order of their arrival: a mode is listed again
whenever it comes back. -/
def arrivals (e : Engine) : List Input → List ModeId
  | [] => []
  | i :: is => e.modes.came (e.next i).modes ++ (e.next i).arrivals is

theorem sublist_dedup_arrivals (e : Engine) (earlier : List ModeId) (is : List Input)
    (h : e.modes.active.Sublist earlier.dedup) :
    (is.foldl next e).modes.active.Sublist (earlier ++ e.arrivals is).dedup := by
  induction is generalizing e earlier with
  | nil => rwa [arrivals, List.append_nil]
  | cons i is ih =>
    rw [arrivals, ← List.append_assoc]
    exact ih (e.next i) _ ((e.next_shift i).sublist_dedup h)

/-- **The order of the active modes.**  After any run from the start no mode is active twice, and
the table in force declares every active mode, so that a lookup sees the scopes of all of them, and
there are no more of them than declared modes.  They stand in the order in which they became active
last.  An input leaves the modes that stay in their order; a mode comes in innermost, by a press
that completes a trigger for its activation while it is not active. -/
theorem modes_in_order {set : MappingSet} {t : Table} (h : Table.build set = .ok t) (timeout : Nat)
    (d : Dispatcher ω) (w : ω) (is : List Input) :
    let e := ((start t timeout).takeAll d w is).2.1
    e.modes.active.Nodup ∧
      (∀ m ∈ e.modes.active, e.table.declares m = true) ∧
      (e.table.visible e.modes.active).length = e.modes.active.length + 1 ∧
      (∃ set', Table.build set' = .ok e.table ∧
        e.modes.active.length ≤ set'.modes.dedup.length) ∧
      e.modes.active.Sublist ((start t timeout).arrivals is).dedup ∧
      ∀ i, let e' := e.next i
        e'.modes.active = e.modes.active.filter e'.modes.contains ++ e.modes.came e'.modes ∧
          (e.modes.came e'.modes).length ≤ 1 ∧
          ∀ m, m ∈ e.modes.came e'.modes ↔ m ∉ e.modes.active ∧ ∃ p, i = .press p ∧
            e.table.lookup e.modes.active (e.window.extended p) = .exact (.activate m) := by
  intro e
  have he : e.ModesDeclared := (ModesDeclared.start h timeout).takeAll d w is
  obtain ⟨set', hset'⟩ := he.built
  have horder := sublist_dedup_arrivals (start t timeout) [] is (List.nil_sublist _)
  rw [← takeAll_engine _ d w] at horder
  refine ⟨he.nodup, he.declared, ?_, ⟨set', hset', he.length_le hset'⟩, horder, fun i => ?_⟩
  · exact Table.length_visible (Table.represents_of_build hset') he.declared
  · have hshift := e.next_shift i
    exact ⟨hshift.active_eq, hshift.length_came_le, e.mem_came_next i⟩

/-- A mode is activated again after it left from below another one. -/
theorem modes_in_order_again :
    let m : ModeId := ⟨"m"⟩
    let n : ModeId := ⟨"n"⟩
    let set : MappingSet := ⟨[m, n], [⟨.global, [.up], .activate m⟩,
      ⟨.global, [.down], .activate n⟩, ⟨.mode m, [.play], .deactivate m⟩]⟩
    let d : Dispatcher Unit := ⟨fun _ w => (none, w), fun _ w => (none, w), fun _ w => w, []⟩
    let is : List Input :=
      [.press ⟨.up, 0⟩, .press ⟨.down, 1⟩, .press ⟨.up, 2⟩, .press ⟨.play, 3⟩, .press ⟨.up, 4⟩]
    ∃ t, Table.build set = .ok t ∧ (start t 500).arrivals is = [m, n, m] ∧
      let e := ((start t 500).takeAll d () is).2.1
      e.modes.active = [n, m] ∧ e.modes.active.Sublist [m, n, m].dedup := by
  intro m n set d is
  obtain ⟨t, h⟩ : ∃ t, Table.build set = .ok t := ⟨_, rfl⟩
  have ht : t = (Table.build set).toOption.getD (.blank []) := by rw [h]; rfl
  have harrivals : (start t 500).arrivals is = [m, n, m] := by
    rw [ht]
    decide +kernel
  have horder := (modes_in_order h 500 d () is).2.2.2.2.1
  rw [harrivals] at horder
  exact ⟨_, h, harrivals, by rw [ht]; decide +kernel, horder⟩

end Engine

end InlineRemote
