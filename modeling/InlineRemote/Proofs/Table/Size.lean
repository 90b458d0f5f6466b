import InlineRemote.Proofs.Table.Bindings

/-! # The size of a table

The size counts the bindings of all scopes.  Every scope has one trie only, and an entry is accepted
only where its trigger is new, so a built table has as many bindings as its set has entries. -/
namespace InlineRemote

namespace Trie

variable {α : Type}

theorem length_toList (t : Trie α) :
    t.toList.length = t.here?.toList.length + (t.child .play).toList.length +
      (t.child .up).toList.length + (t.child .down).toList.length := by
  cases t with
  | empty => rfl
  | node v p u d =>
    simp [toList, here?, child]
    omega

theorem length_toList_insert {t : Trie α} {s : Trigger} (a : α) (h : t.find? s = none) :
    (t.insert s a).toList.length = t.toList.length + 1 := by
  induction s generalizing t with
  | nil =>
    have hhere : t.here? = none := h
    rw [length_toList t, hhere]
    simp [insert, toList]
    omega
  | cons b s ih =>
    have hchild := ih (t := t.child b) h
    rw [insert, length_toList (t.withChild _ _), length_toList t]
    cases b <;> simp [hchild] <;> omega

end Trie

namespace Table

@[simp] theorem keys_bind (t : Table) (s : Scope) (trigger : Trigger) (a : Action) :
    (t.bind s trigger a).scopes.map Prod.fst = t.scopes.map Prod.fst := by
  rw [bind, List.map_map]
  refine List.map_congr_left fun e _ => ?_
  rw [Function.comp_apply]
  split <;> rfl

theorem size_bind {t : Table} {s : Scope} {u : Trie Action} {trigger : Trigger} (a : Action)
    (hkeys : (t.scopes.map Prod.fst).Nodup) (hs : t.scope? s = some u)
    (hnew : u.find? trigger = none) : (t.bind s trigger a).size = t.size + 1 := by
  obtain ⟨scopes⟩ := t
  rw [size, size]
  simp only [scope?, bind] at hs hkeys ⊢
  induction scopes with
  | nil => simp at hs
  | cons e es ih =>
    obtain ⟨r, v⟩ := e
    obtain ⟨hr, hes⟩ := List.nodup_cons.mp hkeys
    by_cases hsr : s = r
    · -- The other scopes are different ones and stay as they are.
      subst hsr
      obtain rfl : v = u := by simpa using hs
      have hrest : es.map (fun e => if e.1 = s then (e.1, e.2.insert trigger a) else e) = es := by
        refine (List.map_congr_left fun e he => ?_).trans (List.map_id es)
        have hne : e.1 ≠ s := fun heq => hr (List.mem_map.mpr ⟨e, he, heq⟩)
        exact if_neg hne
      simp only [List.map_cons, List.flatMap_cons, List.length_append, if_true, hrest,
        Trie.length_toList_insert a hnew]
      omega
    · have hs' : es.lookup s = some u := by
        rwa [List.lookup_cons, beq_eq_false_iff_ne.mpr hsr] at hs
      have hrest := ih hes hs'
      simp only [List.map_cons, List.flatMap_cons, List.length_append, if_neg (Ne.symm hsr), hrest]
      omega

theorem nodup_eraseDups (l : List Scope) : l.eraseDups.Nodup := by
  match l with
  | [] => exact List.nodup_nil
  | s :: l =>
    rw [List.eraseDups_cons, List.nodup_cons]
    exact ⟨by simp [List.mem_eraseDups], nodup_eraseDups _⟩
termination_by l.length
decreasing_by
  have := List.length_filter_le (fun r => !r == s) l
  simp only [List.length_cons]
  omega

theorem keys_blank (modes : List ModeId) : ((blank modes).scopes.map Prod.fst).Nodup := by
  rw [blank, List.map_map]
  exact (List.map_id _).symm ▸ nodup_eraseDups _

theorem size_blank (modes : List ModeId) : (blank modes).size = 0 := by
  rw [size, blank, List.length_eq_zero_iff, List.flatMap_eq_nil_iff]
  intro e he
  obtain ⟨s, -, rfl⟩ := List.mem_map.mp he
  rfl

theorem Represents.size_addAll {t u : Table} {set : MappingSet} (h : t.Represents set)
    (hkeys : (t.scopes.map Prod.fst).Nodup) {es : List Entry} (hes : t.addAll es = .ok u) :
    u.size = t.size + es.length := by
  induction es generalizing t set with
  | nil =>
    obtain rfl := Except.ok.inj hes
    rfl
  | cons e es ih =>
    rw [Table.addAll] at hes
    split at hes
    · cases hes
    · next t' ht' =>
      obtain ⟨v, hv⟩ := Option.isSome_iff_exists.mp (h.isSome_scope? ht')
      have ht := h.add ht'
      obtain ⟨-, -, -, hnew, rfl⟩ := add_eq_ok ht'
      have hfind : v.find? e.trigger = none := by simpa [find?, hv] using hnew
      rw [ih ht (by rwa [keys_bind]) hes, size_bind e.action hkeys hv hfind, List.length_cons]
      omega

theorem size_of_build {t : Table} {set : MappingSet} (h : build set = .ok t) :
    t.size = set.entries.length := by
  have hblank := Represents.blank set.modes
  rw [hblank.size_addAll (keys_blank set.modes) h, size_blank, Nat.zero_add]

end Table

end InlineRemote
