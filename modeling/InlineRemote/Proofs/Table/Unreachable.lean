import InlineRemote.Proofs.Table.Search
import InlineRemote.Proofs.Table.Size
import InlineRemote.Table.Unreachable
import Mathlib.Data.List.Nodup
import Mathlib.Order.WellFounded

/-! # What is reported as unreachable

A trie lists the bindings that it finds, each of them once, and a built table has one trie for each
of its scopes.  So the reports on a built table are about the triggers of its mapping set that have
a beginning in their own scope, and name the shortest one. -/
namespace InlineRemote

/-- A sequence is the shortest non-empty beginning of a trigger that is of some kind. -/
structure Trigger.Shortest (kind : Trigger → Prop) (r p : Trigger) : Prop where
  ne_nil : p ≠ []
  beginning : p <+: r
  holds : kind p
  length_le : ∀ q, q ≠ [] → q <+: r → kind q → p.length ≤ q.length

namespace Trigger.Shortest

variable {kind : Trigger → Prop} {r p q : Trigger}

theorem exists_of_beginning (hq : q ≠ []) (hpre : q <+: r) (h : kind q) :
    ∃ p, Shortest kind r p := by
  obtain ⟨p, ⟨hp, hpr, hkind⟩, hmin⟩ := (measure List.length).wf.has_min
    {s : Trigger | s ≠ [] ∧ s <+: r ∧ kind s} ⟨q, hq, hpre, h⟩
  exact ⟨p, hp, hpr, hkind, fun s hs hsr hk => Nat.le_of_not_lt (hmin s ⟨hs, hsr, hk⟩)⟩

theorem not_of_beginning (h : Shortest kind r p) (hq : q ≠ []) (hpre : q <+: p) (hne : q ≠ p) :
    ¬ kind q := fun hk =>
  hne (hpre.eq_of_length_le (h.length_le q hq (hpre.trans h.beginning) hk))

end Trigger.Shortest

namespace Trie

variable {α : Type}

theorem mem_toList {t : Trie α} {s : Trigger} {a : α} : (s, a) ∈ t.toList ↔ t.find? s = some a := by
  induction t generalizing s with
  | empty => simp [toList]
  | node v p u d hp hu hd =>
    cases s with
    | nil => simp [toList, here?, eq_comm]
    | cons b s => cases b <;> simp [toList, child, hp, hu, hd]

theorem nodup_toList (t : Trie α) : (t.toList.map Prod.fst).Nodup := by
  induction t with
  | empty => exact List.nodup_nil
  | node v p u d hp hu hd =>
    have hkeys (b : Button) (t : Trie α) :
        (t.toList.map fun e => (b :: e.1, e.2)).map Prod.fst =
          (t.toList.map Prod.fst).map (b :: ·) := by
      rw [List.map_map, List.map_map]
      rfl
    have hnodup (b : Button) {l : List Trigger} (hl : l.Nodup) : (l.map (b :: ·)).Nodup :=
      hl.map fun _ _ h => (List.cons.inj h).2
    -- The triggers of two children start with different buttons.
    have hapart {b c : Button} (hbc : b ≠ c) (l m : List Trigger) :
        (l.map (b :: ·)).Disjoint (m.map (c :: ·)) := by
      intro s hl hm
      obtain ⟨x, -, rfl⟩ := List.mem_map.mp hl
      obtain ⟨y, -, h⟩ := List.mem_map.mp hm
      exact hbc (List.cons.inj h).1.symm
    have hhere (l : List α) (b : Button) (m : List Trigger) :
        ((l.map (([] : Trigger), ·)).map Prod.fst).Disjoint (m.map (b :: ·)) := by
      intro s hl hm
      obtain ⟨y, -, rfl⟩ := List.mem_map.mp hm
      simp at hl
    have hone : ((v.toList.map (([] : Trigger), ·)).map Prod.fst).Nodup := by
      cases v <;> simp
    simp only [toList, List.map_append, hkeys, List.nodup_append', List.disjoint_append_left]
    exact ⟨⟨⟨hone, hnodup _ hp, hhere _ _ _⟩, hnodup _ hu, hhere _ _ _, hapart (by decide) _ _⟩,
      hnodup _ hd, ⟨hhere _ _ _, hapart (by decide) _ _⟩, hapart (by decide) _ _⟩

/-- The shadow of a trigger is the shortest of its bound beginnings, if that is not the trigger
itself. -/
theorem shadow?_eq_some_iff {t : Trie α} {r p : Trigger} :
    t.shadow? r = some p ↔ p ≠ r ∧ Trigger.Shortest (fun q => (t.find? q).isSome) r p := by
  have hlength {n : Nat} (hn : n < r.length) : (r.take n).length = n := by
    rw [List.length_take]
    omega
  rw [shadow?, Trigger.beginnings, List.find?_map, Option.map_eq_some_iff]
  simp only [List.find?_range'_eq_some, List.mem_range'_1, Function.comp_apply]
  constructor
  · rintro ⟨n, ⟨hn, hrange, hmin⟩, rfl⟩
    have hlt : n < r.length := by omega
    refine ⟨fun h => ?_, fun h => ?_, List.take_prefix n r, hn, fun q hq hqr hk => ?_⟩
    · have := congrArg List.length h
      rw [hlength hlt] at this
      omega
    · have := congrArg List.length h
      rw [hlength hlt, List.length_nil] at this
      omega
    · rw [hlength hlt]
      by_contra hshort
      have hpos := List.length_pos_iff.mpr hq
      have hnone := hmin q.length (by omega) (by omega)
      rw [← List.prefix_iff_eq_take.mp hqr, hk] at hnone
      cases hnone
  · rintro ⟨hne, h⟩
    have htake := List.prefix_iff_eq_take.mp h.beginning
    have hlt : p.length < r.length :=
      Nat.lt_of_le_of_ne h.beginning.length_le fun heq => hne (h.beginning.eq_of_length heq)
    have hpos := List.length_pos_iff.mpr h.ne_nil
    refine ⟨p.length, ⟨?_, by omega, fun n hn hnp => ?_⟩, htake.symm⟩
    · rw [← htake]
      exact h.holds
    · have hshort := hlength (hnp.trans hlt)
      rw [Bool.not_eq_true', ← Bool.not_eq_true]
      refine h.not_of_beginning (fun hnil => ?_) ?_ fun heq => ?_
      · rw [hnil, List.length_nil] at hshort
        omega
      · rw [htake]
        exact List.take_prefix_take_left hnp.le
      · rw [heq] at hshort
        omega

end Trie

namespace Table

variable {t u : Table}

theorem nodup_keys_addAll (h : (t.scopes.map Prod.fst).Nodup) {es : List Entry}
    (hes : t.addAll es = .ok u) : (u.scopes.map Prod.fst).Nodup := by
  induction es generalizing t with
  | nil =>
    obtain rfl := Except.ok.inj hes
    exact h
  | cons e es ih =>
    rw [addAll] at hes
    split at hes
    · cases hes
    · next t' ht' =>
      obtain ⟨-, -, -, -, rfl⟩ := add_eq_ok ht'
      exact ih (by rwa [keys_bind]) hes

theorem nodup_keys_of_build {set : MappingSet} (h : build set = .ok t) :
    (t.scopes.map Prod.fst).Nodup :=
  nodup_keys_addAll (keys_blank set.modes) h

theorem mem_scopes_iff (h : (t.scopes.map Prod.fst).Nodup) {s : Scope} {v : Trie Action} :
    (s, v) ∈ t.scopes ↔ t.scope? s = some v := by
  obtain ⟨scopes⟩ := t
  simp only [scope?] at h ⊢
  induction scopes with
  | nil => simp
  | cons e es ih =>
    obtain ⟨r, u⟩ := e
    obtain ⟨hr, hes⟩ := List.nodup_cons.mp h
    by_cases hsr : s = r
    · subst hsr
      have hnot : (s, v) ∉ es := fun hmem => hr (List.mem_map.mpr ⟨(s, v), hmem, rfl⟩)
      simp [hnot, eq_comm]
    · rw [List.lookup_cons, beq_eq_false_iff_ne.mpr hsr, List.mem_cons, ← ih hes]
      simp [hsr]

/-- A trigger is reported with the shortest beginning that its scope binds, if that is not the
trigger itself. -/
theorem mem_unreachable {set : MappingSet} (h : build set = .ok t) (s : Scope) (r p : Trigger) :
    (⟨s, r, p⟩ : Unreachable) ∈ t.unreachable ↔
      set.Binds s r ∧ p ≠ r ∧ Trigger.Shortest (set.Binds s) r p := by
  have hkeys := nodup_keys_of_build h
  have hr := represents_of_build h
  have hreport : (⟨s, r, p⟩ : Unreachable) ∈ t.unreachable ↔
      ∃ v, t.scope? s = some v ∧ (v.find? r).isSome ∧ v.shadow? r = some p := by
    simp only [unreachable, List.mem_flatMap, List.mem_filterMap, Prod.exists, mem_scopes_iff hkeys,
      Trie.mem_toList, Option.map_eq_some_iff, Unreachable.mk.injEq, Option.isSome_iff_exists]
    constructor
    · rintro ⟨_, v, hv, _, a, ha, _, hp, rfl, rfl, rfl⟩
      exact ⟨v, hv, ⟨a, ha⟩, hp⟩
    · rintro ⟨v, hv, ⟨a, ha⟩, hp⟩
      exact ⟨s, v, hv, r, a, ha, p, hp, rfl, rfl, rfl⟩
  have hbinds : set.Binds s = fun q => (t.find? s q).isSome = true :=
    funext fun q => propext (hr.binds_iff s q)
  rw [hreport, hbinds]
  simp only [find?, Trie.shadow?_eq_some_iff]
  cases t.scope? s <;> simp

theorem nodup_unreachable {set : MappingSet} (h : build set = .ok t) :
    (t.unreachable.map fun u => (u.scope, u.trigger)).Nodup := by
  have hreports (s : Scope) (v : Trie Action) :
      (v.toList.filterMap fun b => (v.shadow? b.1).map fun p => (⟨s, b.1, p⟩ : Unreachable)).map
          (fun u => (u.scope, u.trigger)) =
        (v.toList.map Prod.fst).filterMap fun r => (v.shadow? r).map fun _ => (s, r) := by
    rw [List.map_filterMap, List.filterMap_map]
    simp only [Option.map_map]
    rfl
  rw [unreachable, List.map_flatMap, List.nodup_flatMap]
  simp only [hreports]
  refine ⟨fun e _ => ?_, (List.pairwise_map.mp (nodup_keys_of_build h)).imp fun hne x hx hx' => ?_⟩
  · refine e.2.nodup_toList.filterMap fun r r' x hr hr' => ?_
    obtain ⟨_, -, rfl⟩ := Option.map_eq_some_iff.mp hr
    obtain ⟨_, -, heq⟩ := Option.map_eq_some_iff.mp hr'
    exact (Prod.mk.inj heq).2.symm
  · -- The reports on different scopes name different scopes.
    obtain ⟨_, -, hr⟩ := List.mem_filterMap.mp hx
    obtain ⟨_, -, hr'⟩ := List.mem_filterMap.mp hx'
    obtain ⟨_, -, rfl⟩ := Option.map_eq_some_iff.mp hr
    obtain ⟨_, -, heq⟩ := Option.map_eq_some_iff.mp hr'
    exact hne (Prod.mk.inj heq).1.symm

/-- A trigger is reported exactly if its scope binds it and a shorter beginning of it. -/
theorem mem_unreachable_iff {set : MappingSet} (h : build set = .ok t) (s : Scope) (r : Trigger) :
    (∃ p, (⟨s, r, p⟩ : Unreachable) ∈ t.unreachable) ↔
      set.Binds s r ∧ ∃ p, (p ≠ [] ∧ p <+: r ∧ p ≠ r) ∧ set.Binds s p := by
  simp only [mem_unreachable h]
  constructor
  · rintro ⟨p, hr, hne, hp⟩
    exact ⟨hr, p, ⟨hp.ne_nil, hp.beginning, hne⟩, hp.holds⟩
  · rintro ⟨hr, q, ⟨hq, hpre, hne⟩, hbinds⟩
    obtain ⟨p, hp⟩ := Trigger.Shortest.exists_of_beginning hq hpre hbinds
    refine ⟨p, hr, fun heq => ?_, hp⟩
    subst heq
    exact hp.not_of_beginning hq hpre hne hbinds

end Table

end InlineRemote
