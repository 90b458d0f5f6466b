import InlineRemote.Proofs.Mapping.Keys
import InlineRemote.Proofs.Mapping.Toggles
import InlineRemote.Proofs.Table.Validation

/-! # What was read makes a table

The lines of a mapping file define triggers in the blocks of modes and outside, and each line that
opens a mode defines its trigger twice.  Every entry that a file declares is sound by itself, so the
file makes a table unless some block, or what stands outside, defines a trigger twice. -/
namespace InlineRemote

/-- An action that types keys has some, and a command is not empty. -/
def Action.Substantial : Action → Prop
  | .type strokes => strokes ≠ []
  | .run command => command ≠ ""
  | _ => True

namespace Mapping

/-- The block that is open after a statement, by the trigger of its mode. -/
def Statement.enclosing (block : Option Trigger) : Statement → Option Trigger
  | .bind .. => block
  | .opening t => some t
  | .closing => none

/-- What statements define, the first of which stands in a block or outside: where, and which
trigger.  A mode has its trigger outside, where it is activated, and inside. -/
def definitions (block : Option Trigger) : List Statement → List (Option Trigger × Trigger)
  | [] => []
  | .bind t _ :: xs => (block, t) :: definitions block xs
  | .opening t :: xs => (none, t) :: (some t, t) :: definitions (some t) xs
  | .closing :: xs => definitions none xs

/-- The triggers that are defined in a block, or outside. -/
def defined (block : Option Trigger) (xs : List Statement) : List Trigger :=
  (definitions none xs).filterMap fun d => if d.1 = block then some d.2 else none

/-- The scope of what stands in a block, or outside. -/
def blockScope : Option Trigger → Scope
  | none => .global
  | some t => .mode ⟨t.text⟩

-- Entries are definitions.

theorem blockScope_injective : Function.Injective blockScope := by
  intro b c h
  cases b with
  | none =>
    cases c with
    | none => rfl
    | some u => cases h
  | some t =>
    cases c with
    | none => cases h
    | some u => rw [Trigger.text_injective (congrArg ModeId.name (Scope.mode.inj h))]

theorem keys_entries (block : Option Trigger) (xs : List Statement) :
    (entries (blockScope block) xs).map Entry.key =
      (definitions block xs).map (Prod.map blockScope id) := by
  induction xs generalizing block with
  | nil => rfl
  | cons x xs ih =>
    cases x with
    | bind t a => exact congrArg (_ :: ·) (ih block)
    | opening t => exact congrArg (_ :: _ :: ·) (ih (some t))
    | closing => exact ih none

theorem nodup_iff_filterMap {α β : Type} [DecidableEq α] {l : List (α × β)} :
    l.Nodup ↔ ∀ a, (l.filterMap fun d => if d.1 = a then some d.2 else none).Nodup := by
  simp only [List.Nodup, List.pairwise_filterMap]
  simp only [List.pairwise_iff_forall_sublist]
  constructor
  · intro h a d e hde y hy z hz heq
    have hne := h hde
    grind
  · intro h d e hde heq
    exact h d.1 hde d.2 (by simp) e.2 (by simp [heq]) (congrArg Prod.snd heq)

theorem nodup_definitions_iff (xs : List Statement) :
    (definitions none xs).Nodup ↔ ∀ block, (defined block xs).Nodup :=
  nodup_iff_filterMap

theorem nodup_keys_iff (xs : List Statement) :
    ((entries .global xs).map Entry.key).Nodup ↔ (definitions none xs).Nodup := by
  rw [show Scope.global = blockScope none from rfl, keys_entries]
  exact List.nodup_map_iff (blockScope_injective.prodMap Function.injective_id)

-- Entries are sound.

/-- What a line defines has a trigger, and an action that does something. -/
def Statement.Proper : Statement → Prop
  | .bind t a => t ≠ [] ∧ a.Substantial
  | .opening t => t ≠ []
  | .closing => True

theorem ne_nil_of_readKeys {keys : List Char} {strokes : List Stroke} (hkeys : keys ≠ [])
    (h : readKeys keys = .ok strokes) : strokes ≠ [] := by
  rintro rfl
  obtain ⟨ts, ws, hspelled, rfl, htypes⟩ := readKeys_eq_ok_iff.mp h
  cases htypes
  cases hspelled
  exact hkeys rfl

theorem Means.proper {l : List Char × Nat} {x : Statement} (h : Means l x) : x.Proper := by
  cases h with
  | map h hkeys =>
    cases h with
    | map _ ht _ _ hne _ => exact ⟨ht, ne_nil_of_readKeys hne hkeys⟩
  | command h =>
    cases h with
    | command _ ht _ _ hne _ => exact ⟨ht, fun heq => hne (String.ofList_eq_empty_iff.mp heq)⟩
  | opening h =>
    cases h with
    | opening _ ht _ _ => exact ht
  | closing => trivial

theorem sound_of_mem_entries {modes : List ModeId} {s : Scope} {xs : List Statement}
    (hxs : ∀ x ∈ xs, x.Plain ∧ x.Proper) (hs : ∀ m, s = .mode m → m ∈ modes)
    (hmodes : ∀ m ∈ xs.filterMap Statement.mode?, m ∈ modes) :
    ∀ e ∈ entries s xs, e.Sound modes ∧ e.action.Substantial := by
  induction xs generalizing s with
  | nil => simp [entries]
  | cons x xs ih =>
    obtain ⟨⟨hplain, hx⟩, hrest⟩ := List.forall_mem_cons.mp hxs
    cases x with
    | bind t a =>
      obtain ⟨ht, ha⟩ := hx
      refine List.forall_mem_cons.mpr ⟨⟨⟨ht, ?_, hs⟩, ha⟩, ih hrest hs hmodes⟩
      intro m hm
      rw [Statement.Plain] at hplain
      rw [hplain] at hm
      cases hm
    | opening t =>
      obtain ⟨ht, hmodes⟩ := List.forall_mem_cons.mp hmodes
      have htarget (m : ModeId) (hm : some (⟨t.text⟩ : ModeId) = some m) : m ∈ modes :=
        Option.some.inj hm ▸ ht
      have hmode (m : ModeId) (hm : Scope.mode ⟨t.text⟩ = .mode m) : m ∈ modes :=
        Scope.mode.inj hm ▸ ht
      refine List.forall_mem_cons.mpr ⟨⟨⟨hx, htarget, by rintro m ⟨⟩⟩, trivial⟩, ?_⟩
      exact List.forall_mem_cons.mpr ⟨⟨⟨hx, htarget, hmode⟩, trivial⟩, ih hrest hmode hmodes⟩
    | closing => exact ih hrest (by rintro m ⟨⟩) hmodes

theorem Accepted.sound {ls : List (List Char × Nat)} {set : MappingSet} {xs : List Statement}
    (h : Accepted ls set xs) :
    ∀ e ∈ set.entries, e.Sound set.modes ∧ e.action.Substantial := by
  have hxs : ∀ x ∈ xs, x.Plain ∧ x.Proper := by
    intro x hx
    obtain ⟨l, hl⟩ := h.exists_means hx
    exact ⟨hl.plain, hl.proper⟩
  rw [h.declared]
  exact sound_of_mem_entries hxs (by rintro m ⟨⟩) fun m hm => hm

-- Triggers that are defined twice.

/-- A set makes no table because a trigger is defined twice in one scope. -/
def Clashes (set : MappingSet) : Prop :=
  ∃ r s, Table.build set = .error (.duplicateTrigger r s)

theorem duplicate_of_sound {set : MappingSet} (hsound : ∀ e ∈ set.entries, e.Sound set.modes)
    {fault : TableError} (h : Table.build set = .error fault) :
    ∃ r s, fault = .duplicateTrigger r s := by
  obtain ⟨before, e, after, hes, -, he⟩ := (Table.build_eq_error_iff set fault).mp h
  have hs : e.Sound set.modes := hsound e (by rw [hes]; simp)
  cases he with
  | emptyTrigger hempty => exact absurd hempty hs.trigger_ne_nil
  | target _ hm hstray => exact absurd (hs.target_mem _ hm) hstray
  | scope _ _ hm hstray => exact absurd (hs.scope_mem _ hm) hstray
  | duplicate _ _ => exact ⟨_, _, rfl⟩

theorem clashes_iff {set : MappingSet} (hsound : ∀ e ∈ set.entries, e.Sound set.modes) :
    Clashes set ↔ ¬ (set.entries.map Entry.key).Nodup := by
  constructor
  · rintro ⟨r, s, h⟩ hdistinct
    obtain ⟨t, ht⟩ := Table.build_of_valid ⟨hsound, hdistinct⟩
    rw [ht] at h
    cases h
  · intro hdistinct
    cases h : Table.build set with
    | ok t => exact absurd ((Table.build_eq_ok_iff set).mp ⟨t, h⟩).distinct hdistinct
    | error fault =>
      obtain ⟨r, s, rfl⟩ := duplicate_of_sound hsound h
      exact ⟨r, s, h⟩

theorem definitions_append (block : Option Trigger) (xs ys : List Statement) :
    definitions block (xs ++ ys) =
      definitions block xs ++ definitions (xs.foldl Statement.enclosing block) ys := by
  induction xs generalizing block with
  | nil => rfl
  | cons x xs ih =>
    cases x with
    | bind t a => exact congrArg (_ :: ·) (ih block)
    | opening t => exact congrArg (_ :: _ :: ·) (ih (some t))
    | closing => exact ih none

theorem mem_definitions_of_opening {block : Option Trigger} {xs : List Statement} {t : Trigger}
    (h : .opening t ∈ xs) :
    (none, t) ∈ definitions block xs ∧ (some t, t) ∈ definitions block xs := by
  obtain ⟨before, after, rfl⟩ := List.append_of_mem h
  rw [definitions_append, definitions]
  simp

theorem opening_mem_of_enclosing {block : Option Trigger} {xs : List Statement} {t : Trigger}
    (h : xs.foldl Statement.enclosing block = some t) (hblock : block ≠ some t) :
    .opening t ∈ xs := by
  induction xs generalizing block with
  | nil => exact absurd h hblock
  | cons x xs ih =>
    by_cases hx : Statement.enclosing block x = some t
    · cases x with
      | bind u a => exact absurd hx hblock
      | opening u =>
        obtain rfl := Option.some.inj hx
        exact List.mem_cons_self
      | closing => cases hx
    · exact List.mem_cons_of_mem _ (ih h hx)

theorem not_nodup_of_opening {before after : List Statement} {t : Trigger}
    (h : .opening t ∈ after) : ¬ (definitions none (before ++ .opening t :: after)).Nodup := by
  rw [definitions_append, definitions, List.nodup_middle, List.nodup_cons]
  rintro ⟨hnot, -⟩
  exact hnot (List.mem_append_right _ (List.mem_cons_of_mem _ (mem_definitions_of_opening h).1))

/-- A line outside, or inside the block of its own trigger, that is in the way of the mode. -/
theorem not_nodup_of_bind {before after : List Statement} {t : Trigger} {a : Action}
    {block : Option Trigger} (hblock : before.foldl Statement.enclosing none = block)
    (hwhere : block = none ∨ block = some t) (h : .opening t ∈ before ++ .bind t a :: after) :
    ¬ (definitions none (before ++ .bind t a :: after)).Nodup := by
  have hmem (b : Option Trigger) {xs : List Statement} (hxs : .opening t ∈ xs) :
      (block, t) ∈ definitions b xs := by
    rcases hwhere with rfl | rfl
    · exact (mem_definitions_of_opening hxs).1
    · exact (mem_definitions_of_opening hxs).2
  rw [definitions_append, hblock, definitions, List.nodup_middle, List.nodup_cons]
  rintro ⟨hnot, -⟩
  rcases List.mem_append.mp h with hbefore | hafter
  · exact hnot (List.mem_append_left _ (hmem _ hbefore))
  · refine hnot (List.mem_append_right _ (hmem _ ?_))
    simpa using hafter

/-- **What was read is well scoped.**  It makes a table, unless the lines of the file define a
trigger twice in one block or twice outside, in whatever case its letters are.  Since a line that
opens a mode defines its trigger both outside and inside, no two blocks may have the same trigger,
nor a block and a line outside, nor a block and a line inside it; but different blocks may define
the same triggers. -/
theorem read_well_scoped {text : List Char} {set : MappingSet} (h : read text = .ok set) :
    (∀ e ∈ set.entries, e.action.Substantial) ∧
    (∀ fault, Table.build set = .error fault → ∃ r s, fault = .duplicateTrigger r s) ∧
    (∃ xs, Accepted (numbered 1 (lines text)) set xs) ∧
    ∀ xs, Accepted (numbered 1 (lines text)) set xs →
      ((∃ t, Table.build set = .ok t) ↔ ∀ block, (defined block xs).Nodup) ∧
      (Clashes set ↔ ∃ block, ¬ (defined block xs).Nodup) ∧
      ∀ t before after,
        (xs = before ++ .opening t :: after → .opening t ∈ after → Clashes set) ∧
        ∀ a, xs = before ++ .bind t a :: after →
          (before.foldl Statement.enclosing none = none → .opening t ∈ xs → Clashes set) ∧
          (before.foldl Statement.enclosing none = some t → Clashes set) := by
  obtain ⟨xs₀, h₀⟩ := accepted_of_read h
  have hsound : ∀ e ∈ set.entries, e.Sound set.modes := fun e he => (h₀.sound e he).1
  refine ⟨fun e he => (h₀.sound e he).2, fun fault => duplicate_of_sound hsound, ⟨xs₀, h₀⟩,
    fun xs hxs => ?_⟩
  have hkeys : (set.entries.map Entry.key).Nodup ↔ (definitions none xs).Nodup := by
    rw [← nodup_keys_iff, hxs.declared, declared]
  have hclash : ¬ (definitions none xs).Nodup → Clashes set := fun hnot =>
    (clashes_iff hsound).mpr (mt hkeys.mp hnot)
  refine ⟨?_, ?_, fun t before after =>
    ⟨?_, fun a heq => ⟨fun hblock hmem => ?_, fun hblock => ?_⟩⟩⟩
  · rw [Table.build_eq_ok_iff, ← nodup_definitions_iff, ← hkeys]
    exact ⟨fun hvalid => hvalid.distinct, fun hdistinct => ⟨hsound, hdistinct⟩⟩
  · rw [clashes_iff hsound, hkeys, nodup_definitions_iff, not_forall]
  · rintro rfl hmem
    exact hclash (not_nodup_of_opening hmem)
  · subst heq
    exact hclash (not_nodup_of_bind hblock (.inl rfl) hmem)
  · have hmem := opening_mem_of_enclosing hblock (by simp)
    subst heq
    exact hclash (not_nodup_of_bind hblock (.inr rfl) (List.mem_append_left _ hmem))

/-- Two blocks that define the same trigger make a table; a block and a line outside clash, even if
their triggers are not written in the same case. -/
theorem read_well_scoped_cased :
    let apart :=
      "mode <Up><Up> \x7b\n\tmap <Down> j\n\x7d\nmode <Play>\x7b\n cmd <DOWN> x\n\x7d\n".toList
    let same := "mode <Up> \x7b\n\x7d\nmap <uP> k".toList
    (∃ set t, read apart = .ok set ∧ Table.build set = .ok t ∧ set.entries.length = 6 ∧
      ∀ xs, Accepted (numbered 1 (lines apart)) set xs → ∀ block, (defined block xs).Nodup) ∧
    ∃ set, read same = .ok set ∧ Clashes set ∧
      ∀ xs, Accepted (numbered 1 (lines same)) set xs → ∃ block, ¬ (defined block xs).Nodup := by
  intro apart same
  constructor
  · have hread : read apart = .ok ⟨[⟨"<Up><Up>"⟩, ⟨"<Play>"⟩], [
        ⟨.global, [.up, .up], .activate ⟨"<Up><Up>"⟩⟩,
        ⟨.mode ⟨"<Up><Up>"⟩, [.up, .up], .deactivate ⟨"<Up><Up>"⟩⟩,
        ⟨.mode ⟨"<Up><Up>"⟩, [.down], .type [.plain (.char 'j')]⟩,
        ⟨.global, [.play], .activate ⟨"<Play>"⟩⟩,
        ⟨.mode ⟨"<Play>"⟩, [.play], .deactivate ⟨"<Play>"⟩⟩,
        ⟨.mode ⟨"<Play>"⟩, [.down], .run "x"⟩]⟩ := by decide +kernel
    obtain ⟨-, -, -, hxs⟩ := read_well_scoped hread
    exact ⟨_, _, hread, rfl, rfl, fun xs h => (hxs xs h).1.mp ⟨_, rfl⟩⟩
  · have hread : read same = .ok ⟨[⟨"<Up>"⟩], [⟨.global, [.up], .activate ⟨"<Up>"⟩⟩,
        ⟨.mode ⟨"<Up>"⟩, [.up], .deactivate ⟨"<Up>"⟩⟩,
        ⟨.global, [.up], .type [.plain (.char 'k')]⟩]⟩ := by decide +kernel
    obtain ⟨-, -, -, hxs⟩ := read_well_scoped hread
    refine ⟨_, hread, ⟨[.up], .global, rfl⟩, fun xs h => (hxs xs h).2.1.mp ?_⟩
    exact ⟨[.up], .global, rfl⟩

end Mapping

end InlineRemote
