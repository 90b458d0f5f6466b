import InlineRemote.Proofs.Table.Bindings

/-! # Lookup as a search through the entries

The entries of a mapping set say by themselves what a sequence is while some modes are active: the
innermost scope with an entry for it decides, and longer triggers count only when there is none.
The lookup in the built table gives exactly that answer. -/
namespace InlineRemote

/-- The scopes that active modes make visible, those that take precedence first. -/
def Scope.precedence (active : List ModeId) : List Scope :=
  active.reverse.map mode ++ [global]

@[simp] theorem Scope.mem_precedence {active : List ModeId} {s : Scope} :
    s ∈ precedence active ↔ s = global ∨ ∃ m ∈ active, s = mode m := by
  simp [precedence, or_comm, eq_comm]

namespace MappingSet

/-- A scope has an entry for a trigger. -/
def Binds (set : MappingSet) (s : Scope) (r : Trigger) : Prop :=
  ∃ a, (⟨s, r, a⟩ : Entry) ∈ set.entries

/-- A scope is global or belongs to a declared mode of a list. -/
def Sees (set : MappingSet) (active : List ModeId) (s : Scope) : Prop :=
  s = .global ∨ ∃ m ∈ active, m ∈ set.modes ∧ s = .mode m

/-- Some visible scope has an entry for a trigger. -/
def Shows (set : MappingSet) (active : List ModeId) (r : Trigger) : Prop :=
  ∃ s, set.Sees active s ∧ set.Binds s r

/-- The scope that decides a trigger: the last listed declared mode with an entry for it, and the
global scope when no listed one has any. -/
inductive Decides (set : MappingSet) (active : List ModeId) (r : Trigger) : Scope → Prop where
  | mode (outer inner : List ModeId) (m : ModeId) :
      active = outer ++ m :: inner → m ∈ set.modes → set.Binds (.mode m) r →
      (∀ n ∈ inner, n ∈ set.modes → ¬ set.Binds (.mode n) r) → Decides set active r (.mode m)
  | global : (∀ m ∈ active, m ∈ set.modes → ¬ set.Binds (.mode m) r) → Decides set active r .global

end MappingSet

namespace Table

theorem findSome?_visible (t : Table) (active : List ModeId) (r : Trigger) :
    (t.visible active).findSome? (·.find? r) =
      (Scope.precedence active).findSome? (t.find? · r) := by
  rw [← List.head?_filterMap, visible, List.filterMap_filterMap, List.head?_filterMap]
  rfl

theorem any_visible (t : Table) (active : List ModeId) (r : Trigger) :
    (t.visible active).any (·.extends? r) = true ↔
      ∃ s ∈ Scope.precedence active, ∃ u, t.scope? s = some u ∧ u.extends? r = true := by
  simp only [visible, List.any_eq_true, List.mem_filterMap]
  constructor
  · rintro ⟨u, ⟨s, hs, hu⟩, hr⟩
    exact ⟨s, hs, u, hu, hr⟩
  · rintro ⟨s, hs, u, hu, hr⟩
    exact ⟨u, ⟨s, hs, hu⟩, hr⟩

/-- A listed mode that is undeclared, or listed again further in, can be left out. -/
theorem lookup_without (t : Table) {outer inner : List ModeId} {m : ModeId} (r : Trigger)
    (h : t.declares m = false ∨ m ∈ inner) :
    t.lookup (outer ++ inner) r = t.lookup (outer ++ m :: inner) r := by
  have hfind : (Scope.precedence (outer ++ inner)).findSome? (t.find? · r) =
      (Scope.precedence (outer ++ m :: inner)).findSome? (t.find? · r) := by
    simp only [Scope.precedence, List.reverse_append, List.reverse_cons, List.map_append,
      List.findSome?_append, List.append_assoc]
    cases hin : (inner.reverse.map Scope.mode).findSome? (t.find? · r) with
    | some a => rfl
    | none =>
      have hm : t.find? (.mode m) r = none := by
        rcases h with h | h
        · have : t.scope? (.mode m) = none := by simpa [declares] using h
          simp [find?, this]
        · exact List.findSome?_eq_none_iff.mp hin _ (by simpa using h)
      simp [hm]
  have hany : (t.visible (outer ++ inner)).any (·.extends? r) =
      (t.visible (outer ++ m :: inner)).any (·.extends? r) := by
    rw [Bool.eq_iff_iff, any_visible, any_visible]
    refine exists_congr fun s => ?_
    simp only [Scope.mem_precedence, List.mem_append, List.mem_cons]
    constructor
    · rintro ⟨rfl | ⟨n, hn, rfl⟩, hs⟩
      · exact ⟨.inl rfl, hs⟩
      · exact ⟨.inr ⟨n, hn.imp_right .inr, rfl⟩, hs⟩
    · rintro ⟨rfl | ⟨n, hn | rfl | hn, rfl⟩, u, hu, hr⟩
      · exact ⟨.inl rfl, u, hu, hr⟩
      · exact ⟨.inr ⟨n, .inl hn, rfl⟩, u, hu, hr⟩
      · rcases h with h | h
        · simp [declares, hu] at h
        · exact ⟨.inr ⟨n, .inr h, rfl⟩, u, hu, hr⟩
      · exact ⟨.inr ⟨n, .inr hn, rfl⟩, u, hu, hr⟩
  rw [lookup, lookup, findSome?_visible, findSome?_visible, hfind, hany]

namespace Represents

variable {t : Table} {set : MappingSet}

theorem binds_iff (h : t.Represents set) (s : Scope) (r : Trigger) :
    set.Binds s r ↔ (t.find? s r).isSome := by
  simp [MappingSet.Binds, ← h.find?_eq_some, Option.isSome_iff_exists]

theorem not_binds_iff (h : t.Represents set) (s : Scope) (r : Trigger) :
    ¬ set.Binds s r ↔ t.find? s r = none := by
  simp [h.binds_iff]

theorem mem_modes_of_binds (h : t.Represents set) {m : ModeId} {r : Trigger}
    (hb : set.Binds (.mode m) r) : m ∈ set.modes := by
  obtain ⟨a, ha⟩ := hb
  simpa using h.scope_declared ha

theorem find?_mode_eq_none (h : t.Represents set) {m : ModeId} {r : Trigger}
    (hm : m ∈ set.modes → ¬ set.Binds (.mode m) r) : t.find? (.mode m) r = none := by
  rw [← h.not_binds_iff]
  intro hb
  exact hm (h.mem_modes_of_binds hb) hb

/-- The first binding in the order of precedence is the one of the deciding scope. -/
theorem findSome?_precedence (h : t.Represents set) (active : List ModeId) (r : Trigger)
    (a : Action) :
    (Scope.precedence active).findSome? (t.find? · r) = some a ↔
      ∃ s, set.Decides active r s ∧ (⟨s, r, a⟩ : Entry) ∈ set.entries := by
  rw [Scope.precedence, List.findSome?_append, List.findSome?_map]
  constructor
  · intro hf
    rcases Option.or_eq_some_iff.mp hf with hf | ⟨hnone, hf⟩
    · obtain ⟨l₁, m, l₂, hl, hm, hbefore⟩ := List.findSome?_eq_some_iff.mp hf
      have ha := (h.find?_eq_some _ _ _).mp hm
      refine ⟨.mode m,
        .mode l₂.reverse l₁.reverse m ?_ (h.mem_modes_of_binds ⟨a, ha⟩) ⟨a, ha⟩ ?_, ha⟩
      · simpa using congrArg List.reverse hl
      · intro n hn _
        exact (h.not_binds_iff _ _).mpr (hbefore n (List.mem_reverse.mp hn))
    · have ha := (h.find?_eq_some _ _ _).mp (by simpa using hf)
      refine ⟨.global, .global fun m hm _ => ?_, ha⟩
      exact (h.not_binds_iff _ _).mpr (List.findSome?_eq_none_iff.mp hnone m (by simpa using hm))
  · rintro ⟨s, hs, ha⟩
    rw [← h.find?_eq_some] at ha
    cases hs with
    | mode outer inner m hactive hm hb hinner =>
      refine Option.or_eq_some_iff.mpr (.inl (List.findSome?_eq_some_iff.mpr ?_))
      refine ⟨inner.reverse, m, outer.reverse, by simp [hactive], ha, fun n hn => ?_⟩
      exact h.find?_mode_eq_none (hinner n (List.mem_reverse.mp hn))
    | global hactive =>
      refine Option.or_eq_some_iff.mpr (.inr ⟨List.findSome?_eq_none_iff.mpr fun m hm => ?_, ?_⟩)
      · exact h.find?_mode_eq_none (hactive m (by simpa using hm))
      · simpa using ha

theorem lookup_eq_exact (h : t.Represents set) (active : List ModeId) (r : Trigger) (a : Action) :
    t.lookup active r = .exact a ↔
      r ≠ [] ∧ ∃ s, set.Decides active r s ∧ (⟨s, r, a⟩ : Entry) ∈ set.entries := by
  rw [lookup, findSome?_visible, ← h.findSome?_precedence]
  split
  · next hr => simp [hr]
  · next hr =>
    split
    · next b hb => simp [hr, hb]
    · next hnone =>
      simp only [hnone, reduceCtorEq, and_false, iff_false]
      split <;> simp

theorem sees_iff (h : t.Represents set) (active : List ModeId) (s : Scope) :
    set.Sees active s ↔ s ∈ Scope.precedence active ∧ (t.scope? s).isSome := by
  rw [MappingSet.Sees, Scope.mem_precedence, h.scope?_isSome]
  constructor
  · rintro (rfl | ⟨m, hm, hd, rfl⟩)
    · simp
    · exact ⟨.inr ⟨m, hm, rfl⟩, .inr ⟨m, hd, rfl⟩⟩
  · rintro ⟨rfl | ⟨m, hm, rfl⟩, hs⟩
    · exact .inl rfl
    · exact .inr ⟨m, hm, by simpa using hs, rfl⟩

theorem find?_eq_none_of_not_seen (h : t.Represents set) {active : List ModeId} {s : Scope}
    (hs : s ∈ Scope.precedence active) (hseen : ¬ set.Sees active s) (r : Trigger) :
    t.find? s r = none := by
  have : t.scope? s = none := by simpa [h.sees_iff, hs] using hseen
  simp [find?, this]

theorem lookup_eq_beginning (h : t.Represents set) (active : List ModeId) (r : Trigger) :
    t.lookup active r = .beginning ↔
      r ≠ [] ∧ (∀ s, set.Sees active s → ¬ set.Binds s r) ∧
        ∃ s q, set.Sees active s ∧ q ≠ [] ∧ set.Binds s (r ++ q) := by
  have hnone : (Scope.precedence active).findSome? (t.find? · r) = none ↔
      ∀ s, set.Sees active s → ¬ set.Binds s r := by
    rw [List.findSome?_eq_none_iff]
    constructor
    · intro hn s hs
      exact (h.not_binds_iff s r).mpr (hn s ((h.sees_iff active s).mp hs).1)
    · intro hn s hs
      by_cases hseen : set.Sees active s
      · exact (h.not_binds_iff s r).mp (hn s hseen)
      · exact h.find?_eq_none_of_not_seen hs hseen r
  have hlonger : (t.visible active).any (·.extends? r) = true ↔
      ∃ s q, set.Sees active s ∧ q ≠ [] ∧ set.Binds s (r ++ q) := by
    rw [any_visible]
    constructor
    · rintro ⟨s, hs, u, hu, hr⟩
      obtain ⟨q, hq, hf⟩ := (Trie.extends?_iff (h.pruned s u hu) r).mp hr
      refine ⟨s, q, (h.sees_iff active s).mpr ⟨hs, by simp [hu]⟩, hq, ?_⟩
      rw [h.binds_iff, find?, hu]
      exact hf
    · rintro ⟨s, q, hs, hq, hb⟩
      obtain ⟨hs, hd⟩ := (h.sees_iff active s).mp hs
      obtain ⟨u, hu⟩ := Option.isSome_iff_exists.mp hd
      rw [h.binds_iff, find?, hu] at hb
      exact ⟨s, hs, u, hu, (Trie.extends?_iff (h.pruned s u hu) r).mpr ⟨q, hq, hb⟩⟩
  rw [lookup, findSome?_visible, ← hnone, ← hlonger]
  split
  · next hr => simp [hr]
  · next hr =>
    split
    · next b hb => simp [hb]
    · next hb => split <;> simp_all

theorem exists_decides (h : t.Represents set) {active : List ModeId} {r : Trigger}
    (hr : set.Shows active r) :
    ∃ s a, set.Decides active r s ∧ (⟨s, r, a⟩ : Entry) ∈ set.entries := by
  obtain ⟨s, hs, hb⟩ := hr
  cases hf : (Scope.precedence active).findSome? (t.find? · r) with
  | none =>
    have hnone := List.findSome?_eq_none_iff.mp hf s ((h.sees_iff active s).mp hs).1
    exact absurd hb ((h.not_binds_iff s r).mpr hnone)
  | some a =>
    obtain ⟨s', hdecides, hentry⟩ := (h.findSome?_precedence active r a).mp hf
    exact ⟨s', a, hdecides, hentry⟩

theorem lookup_beginning_of_shows (h : t.Represents set) {active : List ModeId} {r p : Trigger}
    (hr : set.Shows active r) (hp : p ≠ []) (hpre : p <+: r) (hnot : ¬ set.Shows active p) :
    t.lookup active p = .beginning := by
  obtain ⟨q, rfl⟩ := hpre
  obtain ⟨s, hs, hb⟩ := hr
  refine (h.lookup_eq_beginning active p).mpr
    ⟨hp, fun s' hs' hb' => hnot ⟨s', hs', hb'⟩, s, q, hs, fun hq => hnot ⟨s, hs, ?_⟩, hb⟩
  rwa [hq, List.append_nil] at hb

theorem not_shows_of_beginning (h : t.Represents set) {active : List ModeId} {r : Trigger}
    (hl : t.lookup active r = .beginning) : ¬ set.Shows active r := by
  obtain ⟨-, hnone, -⟩ := (h.lookup_eq_beginning active r).mp hl
  rintro ⟨s, hs, hb⟩
  exact hnone s hs hb

end Represents

/-- **Lookup is the naive search.**  A sequence is a complete trigger when the deciding scope has an
entry for it, the beginning of one when no visible scope has such an entry and some visible entry
is longer, and otherwise nothing.  Undeclared names, and all but the last listing of a mode, do not
matter. -/
theorem lookup_eq_search {t : Table} {set : MappingSet} (h : build set = .ok t)
    (active : List ModeId) (r : Trigger) :
    (∀ a, t.lookup active r = .exact a ↔
      r ≠ [] ∧ ∃ s, set.Decides active r s ∧ (⟨s, r, a⟩ : Entry) ∈ set.entries) ∧
    (t.lookup active r = .beginning ↔
      r ≠ [] ∧ (∀ s, set.Sees active s → ¬ set.Binds s r) ∧
        ∃ s q, set.Sees active s ∧ q ≠ [] ∧ set.Binds s (r ++ q)) ∧
    (t.lookup active r = .noMatch ↔
      ¬ (r ≠ [] ∧ ∃ s a, set.Decides active r s ∧ (⟨s, r, a⟩ : Entry) ∈ set.entries) ∧
      ¬ (r ≠ [] ∧ (∀ s, set.Sees active s → ¬ set.Binds s r) ∧
        ∃ s q, set.Sees active s ∧ q ≠ [] ∧ set.Binds s (r ++ q))) ∧
    ∀ outer m inner, active = outer ++ m :: inner → m ∉ set.modes ∨ m ∈ inner →
      t.lookup (outer ++ inner) r = t.lookup active r := by
  have hr := represents_of_build h
  refine ⟨hr.lookup_eq_exact active r, hr.lookup_eq_beginning active r, ?_, ?_⟩
  · rw [← hr.lookup_eq_beginning active r]
    have hexact : (r ≠ [] ∧ ∃ s a, set.Decides active r s ∧ (⟨s, r, a⟩ : Entry) ∈ set.entries) ↔
        ∃ a, t.lookup active r = .exact a := by
      simp only [hr.lookup_eq_exact]
      rw [exists_and_left, exists_comm]
    rw [hexact]
    cases t.lookup active r <;> simp
  · rintro outer m inner rfl hm
    refine t.lookup_without r (hm.imp_left fun hd => ?_)
    rw [← hr.declares_iff] at hd
    simpa using hd

/-- A mode decides a trigger that the global scope has too, and is left out where it is active
again further in. -/
theorem lookup_eq_search_mode :
    let m : ModeId := ⟨"m"⟩
    let set : MappingSet := ⟨[m], [⟨.global, [.up], .run "x"⟩, ⟨.mode m, [.up], .deactivate m⟩]⟩
    ∃ t, build set = .ok t ∧ t.lookup [m, ⟨"n"⟩] [.up] = .exact (.deactivate m) ∧
      t.lookup [⟨"n"⟩, m] [.up] = t.lookup [m, ⟨"n"⟩, m] [.up] := by
  intro m set
  have h : build set = .ok _ := rfl
  refine ⟨_, h, ?_, ?_⟩
  · refine ((lookup_eq_search h [m, ⟨"n"⟩] [.up]).1 _).mpr
      ⟨by decide, .mode m, .mode [] [⟨"n"⟩] m rfl (by decide) ⟨.deactivate m, by decide⟩ ?_,
        by decide⟩
    intro n hn hd
    obtain rfl := List.mem_singleton.mp hn
    exact absurd hd (by decide)
  · exact (lookup_eq_search h [m, ⟨"n"⟩, m] [.up]).2.2.2 [] m [⟨"n"⟩, m] rfl (.inr (by decide))

end Table

end InlineRemote
