import InlineRemote.Proofs.Table.Unreachable
import Mathlib.Data.List.Induction

/-! # Which mapping sets make a table

An entry is sound by itself if it has a trigger and names declared modes only, and it is new if no
entry before it binds its trigger in its scope.  A table is built exactly from sound entries that
are new one after the other; otherwise the first entry that is not decides the error.  The table
does not depend on the order of the entries, nor on the order or repetition of the modes. -/
namespace InlineRemote

/-- What an entry binds: a trigger in a scope. -/
def Entry.key (e : Entry) : Scope × Trigger := (e.scope, e.trigger)

/-- An entry has a trigger, and the modes that it names are declared. -/
structure Entry.Sound (modes : List ModeId) (e : Entry) : Prop where
  trigger_ne_nil : e.trigger ≠ []
  target_mem : ∀ m, e.action.target? = some m → m ∈ modes
  scope_mem : ∀ m, e.scope = .mode m → m ∈ modes

/-- Why an entry is refused after earlier ones.  Of several reasons the first one counts: an empty
trigger, a target that is not declared, a scope that is not declared, a trigger bound before. -/
inductive Entry.Refused (modes : List ModeId) (earlier : List Entry) (e : Entry) :
    TableError → Prop
  | emptyTrigger (h : e.trigger = []) : Refused modes earlier e (.emptyTrigger e.scope)
  | target {m : ModeId} (h : e.trigger ≠ []) (hm : e.action.target? = some m) (hstray : m ∉ modes) :
      Refused modes earlier e (.unknownMode e.trigger m)
  | scope {m : ModeId} (h : e.trigger ≠ []) (htarget : ∀ n, e.action.target? = some n → n ∈ modes)
      (hm : e.scope = .mode m) (hstray : m ∉ modes) :
      Refused modes earlier e (.unknownMode e.trigger m)
  | duplicate (h : e.Sound modes) (hagain : e.key ∈ earlier.map key) :
      Refused modes earlier e (.duplicateTrigger e.trigger e.scope)

/-- The entries of a set are sound, and no two of them bind the same trigger in the same scope. -/
structure MappingSet.Valid (set : MappingSet) : Prop where
  sound : ∀ e ∈ set.entries, e.Sound set.modes
  distinct : (set.entries.map Entry.key).Nodup

/-- An entry is sound and new, or there is a reason to refuse it. -/
theorem Entry.sound_or_refused (modes : List ModeId) (earlier : List Entry) (e : Entry) :
    e.Sound modes ∧ e.key ∉ earlier.map key ∨ ∃ fault, e.Refused modes earlier fault := by
  by_cases hempty : e.trigger = []
  · exact .inr ⟨_, .emptyTrigger hempty⟩
  by_cases htarget : ∀ n, e.action.target? = some n → n ∈ modes
  · by_cases hscope : ∀ m, e.scope = .mode m → m ∈ modes
    · have hsound : e.Sound modes := ⟨hempty, htarget, hscope⟩
      by_cases hagain : e.key ∈ earlier.map key
      · exact .inr ⟨_, .duplicate hsound hagain⟩
      · exact .inl ⟨hsound, hagain⟩
    · push Not at hscope
      obtain ⟨m, hm, hstray⟩ := hscope
      exact .inr ⟨_, .scope hempty htarget hm hstray⟩
  · push Not at htarget
    obtain ⟨n, hn, hstray⟩ := htarget
    exact .inr ⟨_, .target hempty hn hstray⟩

namespace MappingSet

variable {modes : List ModeId} {es : List Entry}

theorem valid_nil (modes : List ModeId) : (⟨modes, []⟩ : MappingSet).Valid :=
  ⟨by simp, List.nodup_nil⟩

theorem valid_concat {e : Entry} : (⟨modes, es ++ [e]⟩ : MappingSet).Valid ↔
    (⟨modes, es⟩ : MappingSet).Valid ∧ e.Sound modes ∧ e.key ∉ es.map Entry.key := by
  constructor
  · rintro ⟨hsound, hdistinct⟩
    rw [List.map_append, List.map_singleton, ← List.concat_eq_append, List.nodup_concat]
      at hdistinct
    exact ⟨⟨fun d hd => hsound d (List.mem_append_left _ hd), hdistinct.2⟩,
      hsound e (by simp), hdistinct.1⟩
  · rintro ⟨⟨hsound, hdistinct⟩, he, hnew⟩
    refine ⟨fun d hd => ?_, ?_⟩
    · rcases List.mem_append.mp hd with hd | hd
      · exact hsound d hd
      · obtain rfl := List.mem_singleton.mp hd
        exact he
    · rw [List.map_append, List.map_singleton, ← List.concat_eq_append, List.nodup_concat]
      exact ⟨hnew, hdistinct⟩

theorem valid_or_first_refused (modes : List ModeId) (es : List Entry) :
    (⟨modes, es⟩ : MappingSet).Valid ∨ ∃ before e after fault, es = before ++ e :: after ∧
      (⟨modes, before⟩ : MappingSet).Valid ∧ e.Refused modes before fault := by
  induction es using List.reverseRecOn with
  | nil => exact .inl (valid_nil modes)
  | append_singleton es e ih =>
    rcases ih with hvalid | ⟨before, d, after, fault, rfl, hbefore, hd⟩
    · rcases e.sound_or_refused modes es with he | ⟨fault, he⟩
      · exact .inl (valid_concat.mpr ⟨hvalid, he⟩)
      · exact .inr ⟨es, e, [], fault, rfl, hvalid, he⟩
    · exact .inr ⟨before, d, after ++ [e], fault, by simp, hbefore, hd⟩

theorem Valid.perm {set set' : MappingSet} (h : set.Valid) (hes : set'.entries.Perm set.entries)
    (hmodes : ∀ m, m ∈ set'.modes ↔ m ∈ set.modes) : set'.Valid where
  sound e he := by
    have hsound := h.sound e (hes.mem_iff.mp he)
    exact ⟨hsound.trigger_ne_nil, fun m hm => (hmodes m).mpr (hsound.target_mem m hm),
      fun m hm => (hmodes m).mpr (hsound.scope_mem m hm)⟩
  distinct := (hes.map Entry.key).nodup_iff.mpr h.distinct

end MappingSet

namespace Table

theorem addAll_append {t u : Table} {es : List Entry} (h : t.addAll es = .ok u) (fs : List Entry) :
    t.addAll (es ++ fs) = u.addAll fs := by
  induction es generalizing t with
  | nil =>
    obtain rfl := Except.ok.inj h
    rfl
  | cons e es ih =>
    rw [addAll] at h
    rw [List.cons_append, addAll]
    cases hadd : t.add e with
    | error fault =>
      rw [hadd] at h
      cases h
    | ok t' =>
      rw [hadd] at h
      exact ih h

namespace Represents

variable {t u : Table} {set : MappingSet} {e : Entry}

theorem stray?_eq_some (h : t.Represents set) {m : ModeId} (hm : m ∉ set.modes) :
    t.stray? (some m) = some m := by
  rw [← h.declares_iff] at hm
  simp [stray?, Option.filter, hm]

theorem stray?_eq_none (h : t.Represents set) {named : Option ModeId}
    (hnamed : ∀ m, named = some m → m ∈ set.modes) : t.stray? named = none :=
  (stray?_eq_none_iff t named).mpr fun m hm => (h.declares_iff m).mpr (hnamed m hm)

theorem isSome_find?_iff (h : t.Represents set) (e : Entry) :
    (t.find? e.scope e.trigger).isSome ↔ e.key ∈ set.entries.map Entry.key := by
  rw [← h.binds_iff, List.mem_map]
  constructor
  · rintro ⟨a, ha⟩
    exact ⟨_, ha, rfl⟩
  · rintro ⟨⟨s, r, a⟩, hd, hkey⟩
    obtain ⟨rfl, rfl⟩ := Prod.mk.inj hkey
    exact ⟨a, hd⟩

theorem target_scope_declared (h : t.Represents set) (he : e.Sound set.modes) :
    t.stray? e.action.target? = none ∧ t.stray? e.scope.mode? = none := by
  refine ⟨h.stray?_eq_none he.target_mem, h.stray?_eq_none fun m hm => he.scope_mem m ?_⟩
  cases hs : e.scope with
  | global =>
    rw [hs] at hm
    cases hm
  | mode n =>
    rw [hs] at hm
    obtain rfl := Option.some.inj hm
    rfl

theorem add_of_sound (h : t.Represents set) (he : e.Sound set.modes)
    (hnew : e.key ∉ set.entries.map Entry.key) :
    t.add e = .ok (t.bind e.scope e.trigger e.action) := by
  rw [← h.isSome_find?_iff] at hnew
  obtain ⟨htarget, hscope⟩ := h.target_scope_declared he
  rw [Table.add, if_neg he.trigger_ne_nil, htarget, hscope]
  exact if_neg hnew

theorem add_of_refused (h : t.Represents set) {fault : TableError}
    (he : e.Refused set.modes set.entries fault) : t.add e = .error fault := by
  rw [Table.add]
  cases he with
  | emptyTrigger hempty => rw [if_pos hempty]
  | target hne hm hstray => rw [if_neg hne, hm, h.stray?_eq_some hstray]
  | scope hne htarget hm hstray =>
    have hscope := congrArg Scope.mode? hm
    rw [if_neg hne, h.stray?_eq_none htarget, hscope, Scope.mode?, h.stray?_eq_some hstray]
  | duplicate hsound hagain =>
    obtain ⟨htarget, hscope⟩ := h.target_scope_declared hsound
    rw [if_neg hsound.trigger_ne_nil, htarget, hscope]
    exact if_pos ((h.isSome_find?_iff e).mpr hagain)

end Represents

theorem build_of_valid {set : MappingSet} (h : set.Valid) : ∃ t, build set = .ok t := by
  obtain ⟨modes, es⟩ := set
  induction es using List.reverseRecOn with
  | nil => exact ⟨blank modes, rfl⟩
  | append_singleton es e ih =>
    obtain ⟨hvalid, he, hnew⟩ := MappingSet.valid_concat.mp h
    obtain ⟨t, ht⟩ := ih hvalid
    refine ⟨t.bind e.scope e.trigger e.action, ?_⟩
    rw [build, addAll_append ht, addAll, (represents_of_build ht).add_of_sound he hnew]
    rfl

theorem build_of_refused {modes : List ModeId} {before after : List Entry} {e : Entry}
    {fault : TableError} (hbefore : (⟨modes, before⟩ : MappingSet).Valid)
    (he : e.Refused modes before fault) : build ⟨modes, before ++ e :: after⟩ = .error fault := by
  obtain ⟨t, ht⟩ := build_of_valid hbefore
  rw [build, addAll_append ht, addAll, (represents_of_build ht).add_of_refused he]

theorem build_eq_ok_iff (set : MappingSet) : (∃ t, build set = .ok t) ↔ set.Valid := by
  refine ⟨fun ⟨t, ht⟩ => ?_, build_of_valid⟩
  obtain ⟨modes, es⟩ := set
  rcases MappingSet.valid_or_first_refused modes es with h | ⟨before, e, after, fault, rfl, hb, he⟩
  · exact h
  · rw [build_of_refused hb he] at ht
    cases ht

theorem build_eq_error_iff (set : MappingSet) (fault : TableError) :
    build set = .error fault ↔ ∃ before e after, set.entries = before ++ e :: after ∧
      (⟨set.modes, before⟩ : MappingSet).Valid ∧ e.Refused set.modes before fault := by
  obtain ⟨modes, es⟩ := set
  constructor
  · intro h
    rcases MappingSet.valid_or_first_refused modes es with hvalid | ⟨before, e, after, fault', hes⟩
    · obtain ⟨t, ht⟩ := build_of_valid hvalid
      rw [ht] at h
      cases h
    · obtain ⟨rfl, hb, he⟩ := hes
      rw [build_of_refused hb he] at h
      obtain rfl := Except.error.inj h
      exact ⟨before, e, after, rfl, hb, he⟩
  · rintro ⟨before, e, after, rfl, hb, he⟩
    exact build_of_refused hb he

-- What a table holds says what it answers.

theorem Represents.of_same {t : Table} {set set' : MappingSet} (h : t.Represents set)
    (hes : ∀ e, e ∈ set'.entries ↔ e ∈ set.entries) (hmodes : ∀ m, m ∈ set'.modes ↔ m ∈ set.modes) :
    t.Represents set' where
  scope?_isSome s := by simp only [h.scope?_isSome, hmodes]
  find?_eq_some s r a := by rw [h.find?_eq_some, hes]
  pruned := h.pruned
  trigger_ne_nil e he := h.trigger_ne_nil e ((hes e).mp he)
  target_mem e he m hm := (hmodes m).mpr (h.target_mem e ((hes e).mp he) m hm)

theorem Represents.lookup_eq {t u : Table} {set : MappingSet} (ht : t.Represents set)
    (hu : u.Represents set) (active : List ModeId) (r : Trigger) :
    t.lookup active r = u.lookup active r := by
  have hexact (a : Action) : t.lookup active r = .exact a ↔ u.lookup active r = .exact a := by
    rw [ht.lookup_eq_exact, hu.lookup_eq_exact]
  have hbeginning : t.lookup active r = .beginning ↔ u.lookup active r = .beginning := by
    rw [ht.lookup_eq_beginning, hu.lookup_eq_beginning]
  cases h : u.lookup active r with
  | exact a => exact (hexact a).mpr h
  | beginning => exact hbeginning.mpr h
  | noMatch =>
    cases h' : t.lookup active r with
    | exact a =>
      rw [(hexact a).mp h'] at h
      cases h
    | beginning =>
      rw [hbeginning.mp h'] at h
      cases h
    | noMatch => rfl

theorem unreachable_perm {t t' : Table} {set set' : MappingSet} (h : build set = .ok t)
    (h' : build set' = .ok t') (hes : ∀ e, e ∈ set'.entries ↔ e ∈ set.entries) :
    t'.unreachable.Perm t.unreachable := by
  have hbinds (s : Scope) : set'.Binds s = set.Binds s :=
    funext fun r => propext (exists_congr fun a => hes ⟨s, r, a⟩)
  refine (List.perm_ext_iff_of_nodup (nodup_unreachable h').of_map (nodup_unreachable h).of_map).mpr
    fun ⟨s, r, p⟩ => ?_
  rw [mem_unreachable h', mem_unreachable h, hbinds]

/-- **Validation.**  A table is built exactly from a valid set; otherwise the first entry that is
refused decides the error.  A built table has as many triggers as the set has entries and declares
its modes, and nothing about it depends on the order of the entries, or on the order or repetition
of the modes. -/
theorem build_validates (set : MappingSet) :
    ((∃ t, build set = .ok t) ↔ set.Valid) ∧
    (∀ fault, build set = .error fault ↔ ∃ before e after, set.entries = before ++ e :: after ∧
      (⟨set.modes, before⟩ : MappingSet).Valid ∧ e.Refused set.modes before fault) ∧
    (∀ t, build set = .ok t →
      t.size = set.entries.length ∧ ∀ m, t.declares m = true ↔ m ∈ set.modes) ∧
    ∀ set' : MappingSet, set'.entries.Perm set.entries → (∀ m, m ∈ set'.modes ↔ m ∈ set.modes) →
      ((∃ t, build set' = .ok t) ↔ ∃ t, build set = .ok t) ∧
      ∀ t t', build set = .ok t → build set' = .ok t' →
        (∀ active r, t'.lookup active r = t.lookup active r) ∧ t'.size = t.size ∧
        (∀ m, t'.declares m = t.declares m) ∧ t'.unreachable.Perm t.unreachable := by
  refine ⟨build_eq_ok_iff set, build_eq_error_iff set, fun t ht => ?_,
    fun set' hes hmodes => ⟨?_, fun t t' ht ht' => ?_⟩⟩
  · exact ⟨size_of_build ht, (represents_of_build ht).declares_iff⟩
  · rw [build_eq_ok_iff, build_eq_ok_iff]
    exact ⟨fun h => h.perm hes.symm fun m => (hmodes m).symm, fun h => h.perm hes hmodes⟩
  · have hrep := represents_of_build ht
    have hrep' := (represents_of_build ht').of_same (fun _ => hes.mem_iff.symm)
      fun m => (hmodes m).symm
    refine ⟨hrep'.lookup_eq hrep, ?_, fun m => ?_, unreachable_perm ht ht' fun _ => hes.mem_iff⟩
    · rw [size_of_build ht', size_of_build ht, hes.length_eq]
    · rw [Bool.eq_iff_iff, hrep'.declares_iff, hrep.declares_iff]

/-- A set with a trigger that is never reached, the same in another order and with its mode listed
twice, and a set in which a target that is not declared comes before a trigger that is empty. -/
theorem build_validates_reordered :
    let m : ModeId := ⟨"m"⟩
    let on : Entry := ⟨.global, [.up], .activate m⟩
    let off : Entry := ⟨.mode m, [.up], .deactivate m⟩
    let longer : Entry := ⟨.mode m, [.up, .down], .run "x"⟩
    (∃ t t', build ⟨[m], [on, off, longer]⟩ = .ok t ∧ build ⟨[m, m], [longer, on, off]⟩ = .ok t' ∧
      t.size = 3 ∧ (∀ active r, t'.lookup active r = t.lookup active r) ∧
      t'.unreachable.Perm t.unreachable ∧ ⟨.mode m, [.up, .down], [.up]⟩ ∈ t.unreachable) ∧
    build ⟨[], [on, ⟨.global, [], .run "x"⟩]⟩ = .error (.unknownMode [.up] m) := by
  intro m on off longer
  have h : build ⟨[m], [on, off, longer]⟩ = .ok _ := rfl
  have h' : build ⟨[m, m], [longer, on, off]⟩ = .ok _ := rfl
  obtain ⟨-, -, hanswers, hsame⟩ := build_validates ⟨[m], [on, off, longer]⟩
  obtain ⟨hlookup, -, -, hreports⟩ :=
    (hsame ⟨[m, m], [longer, on, off]⟩ (by decide) (by simp)).2 _ _ h h'
  refine ⟨⟨_, _, h, h', (hanswers _ h).1, hlookup, hreports, by decide⟩, ?_⟩
  exact ((build_validates ⟨[], [on, ⟨.global, [], .run "x"⟩]⟩).2.1 _).mpr
    ⟨[], on, _, rfl, MappingSet.valid_nil [], .target (by decide) rfl (by decide)⟩

end Table

end InlineRemote
