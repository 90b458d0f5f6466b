import InlineRemote.Table

/-! # What a built table holds

A trie is pruned when all that it keeps leads to a binding, and binding a trigger keeps it so.  A
table that was built from a mapping set declares the modes of the set, binds its entries and
nothing else, and has pruned tries only. -/
namespace InlineRemote

namespace Trie

variable {α : Type}

/-- Below every sequence at which a trie is not empty there is a binding. -/
def Pruned (t : Trie α) : Prop :=
  ∀ s, (t.descend s).isEmpty = false → ∃ r, (t.find? (s ++ r)).isSome

@[simp] theorem descend_append (t : Trie α) (s r : Trigger) :
    t.descend (s ++ r) = (t.descend s).descend r := by
  induction s generalizing t with
  | nil => rfl
  | cons b s ih => exact ih (t.child b)

theorem find?_append (t : Trie α) (s r : Trigger) : t.find? (s ++ r) = (t.descend s).find? r := by
  simp [find?]

@[simp] theorem descend_empty (s : Trigger) : (empty : Trie α).descend s = empty := by
  induction s with
  | nil => rfl
  | cons b s ih => exact ih

theorem isEmpty_eq_false_of_find? {t : Trie α} {s : Trigger} (h : (t.find? s).isSome) :
    t.isEmpty = false := by
  cases t with
  | empty => simp at h
  | node => rfl

theorem pruned_empty : (empty : Trie α).Pruned := by
  intro s h
  simp [isEmpty] at h

theorem descend_insert (t : Trie α) {s r : Trigger} (a : α) (h : ¬ r <+: s) :
    (t.insert s a).descend r = t.descend r := by
  induction s generalizing t r with
  | nil =>
    cases r with
    | nil => simp at h
    | cons c r => cases c <;> rfl
  | cons b s ih =>
    cases r with
    | nil => simp at h
    | cons c r =>
      by_cases hc : c = b
      · subst hc
        have hr : ¬ r <+: s := fun hr => h (List.cons_prefix_cons.mpr ⟨rfl, hr⟩)
        simpa [insert, descend] using ih (t.child c) hr
      · simp [insert, descend, hc]

theorem pruned_insert {t : Trie α} (h : t.Pruned) (s : Trigger) (a : α) :
    (t.insert s a).Pruned := by
  intro r hr
  by_cases hp : r <+: s
  · obtain ⟨q, rfl⟩ := hp
    exact ⟨q, by simp [find?_insert]⟩
  · rw [descend_insert t a hp] at hr
    obtain ⟨q, hq⟩ := h r hr
    refine ⟨q, ?_⟩
    rw [find?_insert]
    split
    · rfl
    · exact hq

/-- In a pruned trie the beginnings of longer triggers are told apart from the dead ends. -/
theorem extends?_iff {t : Trie α} (h : t.Pruned) (s : Trigger) :
    t.extends? s = true ↔ ∃ r, r ≠ [] ∧ (t.find? (s ++ r)).isSome := by
  constructor
  · intro he
    obtain ⟨b, -, hb⟩ := List.any_eq_true.mp he
    obtain ⟨r, hr⟩ := h (s ++ [b]) (by simpa [descend] using hb)
    exact ⟨b :: r, by simp, by simpa using hr⟩
  · rintro ⟨r, hr, hf⟩
    obtain ⟨b, r, rfl⟩ := List.exists_cons_of_ne_nil hr
    rw [find?_append, find?_cons] at hf
    refine List.any_eq_true.mpr ⟨b, by cases b <;> simp, ?_⟩
    simp [isEmpty_eq_false_of_find? hf]

end Trie

namespace Table

/-- What holds of a table that was built from a mapping set. -/
structure Represents (t : Table) (set : MappingSet) : Prop where
  scope?_isSome : ∀ s, (t.scope? s).isSome ↔ s = .global ∨ ∃ m ∈ set.modes, s = .mode m
  find?_eq_some : ∀ s r a, t.find? s r = some a ↔ ⟨s, r, a⟩ ∈ set.entries
  pruned : ∀ s u, t.scope? s = some u → u.Pruned
  trigger_ne_nil : ∀ e ∈ set.entries, e.trigger ≠ []
  target_mem : ∀ e ∈ set.entries, ∀ m, e.action.target? = some m → m ∈ set.modes

theorem scope?_blank (modes : List ModeId) (s : Scope) :
    (blank modes).scope? s =
      if s = .global ∨ ∃ m ∈ modes, s = .mode m then some .empty else none := by
  have h (l : List Scope) : (l.map (·, (Trie.empty : Trie Action))).lookup s =
      if s ∈ l then some .empty else none := by
    induction l with
    | nil => rfl
    | cons b l ih =>
      rw [List.map_cons, List.lookup_cons, ih]
      by_cases hb : s = b
      · simp [hb]
      · simp [hb, beq_eq_false_iff_ne.mpr hb]
  rw [scope?, blank, h]
  simp [List.mem_eraseDups, eq_comm]

theorem scope?_bind (t : Table) (s r : Scope) (trigger : Trigger) (a : Action) :
    (t.bind s trigger a).scope? r =
      if r = s then (t.scope? r).map (·.insert trigger a) else t.scope? r := by
  obtain ⟨scopes⟩ := t
  simp only [scope?, bind]
  induction scopes with
  | nil => simp
  | cons e es ih =>
    by_cases he : e.1 = s <;> by_cases hr : r = e.1 <;> grind

theorem find?_bind {t : Table} {s : Scope} (h : (t.scope? s).isSome) (r : Scope)
    (trigger u : Trigger) (a : Action) :
    (t.bind s trigger a).find? r u =
      if r = s ∧ u = trigger then some a else t.find? r u := by
  obtain ⟨v, hv⟩ := Option.isSome_iff_exists.mp h
  by_cases hr : r = s
  · subst hr
    simp [find?, scope?_bind, hv, Trie.find?_insert]
  · simp [find?, scope?_bind, hr]

theorem stray?_eq_none_iff (t : Table) (named : Option ModeId) :
    t.stray? named = none ↔ ∀ m, named = some m → t.declares m = true := by
  cases named <;> simp [stray?, Option.filter]

theorem add_eq_ok {t u : Table} {e : Entry} (h : t.add e = .ok u) :
    e.trigger ≠ [] ∧ (∀ m, e.action.target? = some m → t.declares m = true) ∧
      (∀ m, e.scope = .mode m → t.declares m = true) ∧
      t.find? e.scope e.trigger = none ∧ u = t.bind e.scope e.trigger e.action := by
  rw [add] at h
  split at h
  · cases h
  · next hne =>
    split at h
    · cases h
    · cases h
    · next htarget hscope =>
      split at h
      · cases h
      · next hnew =>
        rw [stray?_eq_none_iff] at htarget hscope
        refine ⟨hne, htarget, fun m hm => hscope m (by simp [hm, Scope.mode?]), ?_, ?_⟩
        · simpa using hnew
        · simpa using h.symm

namespace Represents

variable {t u : Table} {set : MappingSet}

theorem declares_iff (h : t.Represents set) (m : ModeId) :
    t.declares m = true ↔ m ∈ set.modes := by
  simp [declares, h.scope?_isSome]

theorem scope_declared (h : t.Represents set) {e : Entry} (he : e ∈ set.entries) :
    e.scope = .global ∨ ∃ m ∈ set.modes, e.scope = .mode m := by
  have hf := (h.find?_eq_some e.scope e.trigger e.action).mpr he
  obtain ⟨v, hv, -⟩ := Option.bind_eq_some_iff.mp hf
  exact (h.scope?_isSome e.scope).mp (by simp [hv])

theorem blank (modes : List ModeId) : (Table.blank modes).Represents ⟨modes, []⟩ where
  scope?_isSome s := by
    rw [scope?_blank]
    split <;> simp_all
  find?_eq_some s r a := by
    rw [find?, scope?_blank]
    split <;> simp
  pruned s v hv := by
    rw [scope?_blank] at hv
    split at hv
    · obtain rfl := Option.some.inj hv
      exact Trie.pruned_empty
    · cases hv
  trigger_ne_nil := by simp
  target_mem := by simp

theorem isSome_scope? (h : t.Represents set) {e : Entry} (he : t.add e = .ok u) :
    (t.scope? e.scope).isSome := by
  obtain ⟨-, -, hscope, -, -⟩ := add_eq_ok he
  rw [h.scope?_isSome]
  cases hsc : e.scope with
  | global => simp
  | mode m => exact .inr ⟨m, (h.declares_iff m).mp (hscope m hsc), rfl⟩

theorem add (h : t.Represents set) {e : Entry} (he : t.add e = .ok u) :
    u.Represents ⟨set.modes, set.entries ++ [e]⟩ := by
  have hs := h.isSome_scope? he
  obtain ⟨hne, htarget, -, hnew, rfl⟩ := add_eq_ok he
  constructor
  · intro s
    rw [scope?_bind, ← h.scope?_isSome]
    split <;> simp
  · intro s r a
    rw [find?_bind hs, List.mem_append, List.mem_singleton, ← h.find?_eq_some]
    split
    · next hsr =>
      obtain ⟨rfl, rfl⟩ := hsr
      simp only [hnew, reduceCtorEq, false_or, Option.some.injEq]
      constructor
      · rintro rfl
        rfl
      · intro ha
        exact (congrArg Entry.action ha).symm
    · next hsr =>
      have : (⟨s, r, a⟩ : Entry) ≠ e := by
        rintro rfl
        exact hsr ⟨rfl, rfl⟩
      simp [this]
  · intro s v hv
    rw [scope?_bind] at hv
    split at hv
    · obtain ⟨v', hv', rfl⟩ := Option.map_eq_some_iff.mp hv
      exact Trie.pruned_insert (h.pruned s v' hv') _ _
    · exact h.pruned s v hv
  · intro e' he'
    rcases List.mem_append.mp he' with he' | he'
    · exact h.trigger_ne_nil e' he'
    · obtain rfl := List.mem_singleton.mp he'
      exact hne
  · intro e' he' m hm
    rcases List.mem_append.mp he' with he' | he'
    · exact h.target_mem e' he' m hm
    · obtain rfl := List.mem_singleton.mp he'
      exact (h.declares_iff m).mp (htarget m hm)

theorem addAll (h : t.Represents set) {es : List Entry} (hes : t.addAll es = .ok u) :
    u.Represents ⟨set.modes, set.entries ++ es⟩ := by
  induction es generalizing t set with
  | nil =>
    cases hes
    simpa using h
  | cons e es ih =>
    rw [Table.addAll] at hes
    split at hes
    · cases hes
    · next t' ht' => simpa using ih (h.add ht') hes

end Represents

theorem represents_of_build {t : Table} {set : MappingSet} (h : build set = .ok t) :
    t.Represents set := by
  simpa using (Represents.blank set.modes).addAll h

end Table

end InlineRemote
