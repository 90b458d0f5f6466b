import InlineRemote.Proofs.Mapping.Grammar

/-! # Modes are toggled by their triggers

The lines of a mapping file name a mode by its trigger.  So in what a file declares the trigger of a
mode, and no other, activates it in the global scope, and deactivates it in its own. -/
namespace InlineRemote.Mapping

/-- Every mode has a trigger that switches it on everywhere and off inside, and nothing else
switches modes. -/
structure Toggles (set : MappingSet) : Prop where
  modes : ∀ m ∈ set.modes, ∃ t : Trigger, t.text = m.name ∧
    (⟨.global, t, .activate m⟩ : Entry) ∈ set.entries ∧
    (⟨.mode m, t, .deactivate m⟩ : Entry) ∈ set.entries
  activate : ∀ s t m, (⟨s, t, .activate m⟩ : Entry) ∈ set.entries → s = .global ∧ t.text = m.name
  deactivate : ∀ s t m, (⟨s, t, .deactivate m⟩ : Entry) ∈ set.entries →
    s = .mode m ∧ t.text = m.name

/-- The entries of bindings do not switch modes. -/
def Statement.Plain : Statement → Prop
  | .bind _ a => a.target? = none
  | _ => True

theorem Means.plain {l : List Char × Nat} {x : Statement} (h : Means l x) : x.Plain := by
  cases h with
  | map => exact rfl
  | command => exact rfl
  | opening => exact trivial
  | closing => exact trivial

theorem entry_of_target {s : Scope} {xs : List Statement} (h : ∀ x ∈ xs, x.Plain) {e : Entry}
    (he : e ∈ entries s xs) {m : ModeId} (hm : e.action.target? = some m) :
    ∃ t : Trigger, m = ⟨t.text⟩ ∧
      (e = ⟨.global, t, .activate m⟩ ∨ e = ⟨.mode m, t, .deactivate m⟩) := by
  induction xs generalizing s with
  | nil => cases he
  | cons x xs ih =>
    obtain ⟨hx, hxs⟩ := List.forall_mem_cons.mp h
    rw [entries_cons] at he
    rcases List.mem_append.mp he with he | he
    · cases x with
      | bind t a =>
        obtain rfl := List.mem_singleton.mp he
        rw [Statement.Plain] at hx
        rw [hx] at hm
        cases hm
      | opening t =>
        rcases List.mem_cons.mp he with rfl | he
        · obtain rfl := Option.some.inj hm
          exact ⟨t, rfl, .inl rfl⟩
        · obtain rfl := List.mem_singleton.mp he
          obtain rfl := Option.some.inj hm
          exact ⟨t, rfl, .inr rfl⟩
      | closing => cases he
    · exact ih hxs he

theorem entries_of_mode {s : Scope} {xs : List Statement} {m : ModeId}
    (hm : m ∈ xs.filterMap Statement.mode?) :
    ∃ t : Trigger, m = ⟨t.text⟩ ∧ (⟨.global, t, .activate m⟩ : Entry) ∈ entries s xs ∧
      (⟨.mode m, t, .deactivate m⟩ : Entry) ∈ entries s xs := by
  induction xs generalizing s with
  | nil => cases hm
  | cons x xs ih =>
    have hlater : m ∈ xs.filterMap Statement.mode? → ∃ t : Trigger, m = ⟨t.text⟩ ∧
        (⟨.global, t, .activate m⟩ : Entry) ∈ entries s (x :: xs) ∧
        (⟨.mode m, t, .deactivate m⟩ : Entry) ∈ entries s (x :: xs) := by
      intro hm
      obtain ⟨t, ht, hon, hoff⟩ := ih (s := x.next s) hm
      rw [entries_cons]
      exact ⟨t, ht, List.mem_append_right _ hon, List.mem_append_right _ hoff⟩
    cases x with
    | bind t a => exact hlater hm
    | closing => exact hlater hm
    | opening t =>
      rcases List.mem_cons.mp hm with rfl | hm
      · exact ⟨t, rfl, List.mem_cons_self, List.mem_cons_of_mem _ List.mem_cons_self⟩
      · exact hlater hm

theorem accepted_of_read {text : List Char} {set : MappingSet} (h : read text = .ok set) :
    ∃ xs, Accepted (numbered 1 (lines text)) set xs := by
  rcases accepted_or_refused (numbered 1 (lines text)) with ⟨set', xs, h'⟩ | ⟨e, h'⟩
  · rw [read_of_accepted h'] at h
    obtain rfl := Except.ok.inj h
    exact ⟨xs, h'⟩
  · rw [read_of_refused h'] at h
    cases h

theorem Accepted.exists_means {ls : List (List Char × Nat)} {set : MappingSet}
    {xs : List Statement} (h : Accepted ls set xs) {x : Statement} (hx : x ∈ xs) :
    ∃ l, Means l x := by
  obtain ⟨i, hi, rfl⟩ := List.getElem_of_mem hx
  exact ⟨_, List.Forall₂.get h.means (h.means.length_eq ▸ hi) hi⟩

/-- **Modes are toggled.**  In what a file declares a mode is switched by its trigger alone. -/
theorem toggles_of_read {text : List Char} {set : MappingSet} (h : read text = .ok set) :
    Toggles set := by
  obtain ⟨xs, h'⟩ := accepted_of_read h
  have hplain : ∀ x ∈ xs, x.Plain := by
    intro x hx
    obtain ⟨l, hl⟩ := h'.exists_means hx
    exact hl.plain
  rw [h'.declared]
  refine ⟨fun m hm => ?_, fun s t m he => ?_, fun s t m he => ?_⟩
  · obtain ⟨t, rfl, hentries⟩ := entries_of_mode (s := .global) hm
    exact ⟨t, rfl, hentries⟩
  · obtain ⟨u, rfl, he | he⟩ := entry_of_target hplain he rfl
    · cases he
      exact ⟨rfl, rfl⟩
    · cases he
  · obtain ⟨u, rfl, he | he⟩ := entry_of_target hplain he rfl
    · cases he
    · cases he
      exact ⟨rfl, rfl⟩

namespace Toggles

variable {set : MappingSet}

theorem eq_of_activate (h : Toggles set) {s : Scope} {t u : Trigger} {m : ModeId}
    (he : (⟨s, t, .activate m⟩ : Entry) ∈ set.entries) (hu : u.text = m.name) : t = u :=
  Trigger.text_injective ((h.activate s t m he).2.trans hu.symm)

theorem eq_of_deactivate (h : Toggles set) {s : Scope} {t u : Trigger} {m : ModeId}
    (he : (⟨s, t, .deactivate m⟩ : Entry) ∈ set.entries) (hu : u.text = m.name) : t = u :=
  Trigger.text_injective ((h.deactivate s t m he).2.trans hu.symm)

end Toggles

end InlineRemote.Mapping
