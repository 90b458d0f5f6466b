import InlineRemote.Mapping.Line
import InlineRemote.Proofs.Mapping.Spelling

/-! # The grammar of a line

A trimmed line of a mapping file has one of four forms.  The reader of lines tries them one after
the other; since they start with different words, it finds the form that the line has. -/
namespace InlineRemote

/-- A text that does not end in a blank. -/
def Text.Trimmed (s : List Char) : Prop :=
  ∀ c ∈ s.getLast?, isBlank c = false

theorem Text.trimmed_trim (s : List Char) : Trimmed (trim s) := by
  intro c hc
  rw [trim, trimEnd, List.getLast?_reverse] at hc
  have h := List.head?_dropWhile_not isBlank (s.dropWhile isBlank).reverse
  rw [hc] at h
  exact h

namespace Mapping.Line

/-- At least one space or tab. -/
def Spacing (gap : List Char) : Prop :=
  gap ≠ [] ∧ ∀ c ∈ gap, Text.isSpacing c = true

/-- A text that starts neither with a space nor with a tab. -/
def Flush (s : List Char) : Prop :=
  ∀ c ∈ s.head?, Text.isSpacing c = false

/-- The forms of a trimmed line: `map`, a trigger and keys; `cmd`, a trigger and a command; `mode`,
a trigger and a brace; or a brace.  Spaces and tabs stand between the parts, and none need stand
before the brace. -/
inductive Form : Line → List Char → Prop
  | map {t : Trigger} {gap w gap' keys : List Char} (hgap : Spacing gap) (ht : t ≠ [])
      (hw : t.Spelled w) (hgap' : Spacing gap') (hkeys : keys ≠ []) (hflush : Flush keys) :
      Form (.map t keys) (['m', 'a', 'p'] ++ gap ++ w ++ gap' ++ keys)
  | command {t : Trigger} {gap w gap' c : List Char} (hgap : Spacing gap) (ht : t ≠ [])
      (hw : t.Spelled w) (hgap' : Spacing gap') (hc : c ≠ []) (hflush : Flush c) :
      Form (.command t c) (['c', 'm', 'd'] ++ gap ++ w ++ gap' ++ c)
  | opening {t : Trigger} {gap w gap' : List Char} (hgap : Spacing gap) (ht : t ≠ [])
      (hw : t.Spelled w) (hgap' : ∀ c ∈ gap', Text.isSpacing c = true) :
      Form (.opening t) (['m', 'o', 'd', 'e'] ++ gap ++ w ++ gap' ++ ['{'])
  | closing : Form .closing ['}']

-- Spaces and tabs.

theorem skipSpacing_append {gap s : List Char} (hgap : ∀ c ∈ gap, Text.isSpacing c = true)
    (hs : Flush s) : skipSpacing (gap ++ s) = s := by
  rw [skipSpacing, List.dropWhile_append_of_pos hgap]
  cases s with
  | nil => rfl
  | cons c s => rw [List.dropWhile_cons_of_neg (by simp [hs c rfl])]

theorem flush_skipSpacing (s : List Char) : Flush (skipSpacing s) := by
  intro c hc
  have h := List.head?_dropWhile_not Text.isSpacing s
  rw [skipSpacing] at hc
  rw [hc] at h
  exact h

theorem exists_gap (s : List Char) :
    ∃ gap, (∀ c ∈ gap, Text.isSpacing c = true) ∧ s = gap ++ skipSpacing s :=
  ⟨s.takeWhile Text.isSpacing, List.all_eq_true.mp List.all_takeWhile,
    List.takeWhile_append_dropWhile.symm⟩

theorem spaced?_eq_some_iff {s r : List Char} :
    spaced? s = some r ↔ ∃ gap, Spacing gap ∧ s = gap ++ r ∧ Flush r := by
  constructor
  · intro h
    cases s with
    | nil => cases h
    | cons c s =>
      rw [spaced?] at h
      split at h
      · next hc =>
        obtain rfl := Option.some.inj h
        obtain ⟨gap, hgap, hs⟩ := exists_gap s
        refine ⟨c :: gap, ⟨List.cons_ne_nil _ _, ?_⟩, congrArg (c :: ·) hs, flush_skipSpacing s⟩
        intro d hd
        rcases List.mem_cons.mp hd with rfl | hd
        · exact hc
        · exact hgap d hd
      · cases h
  · rintro ⟨gap, ⟨hne, hgap⟩, rfl, hr⟩
    obtain ⟨c, gap, rfl⟩ := List.exists_cons_of_ne_nil hne
    rw [List.forall_mem_cons] at hgap
    rw [List.cons_append, spaced?, if_pos hgap.1, skipSpacing_append hgap.2 hr]

theorem Spacing.head? {gap : List Char} (h : Spacing gap) (s : List Char) :
    (gap ++ s).head? ≠ some '<' := by
  obtain ⟨c, gap, rfl⟩ := List.exists_cons_of_ne_nil h.1
  intro hc
  obtain rfl := Option.some.inj hc
  exact absurd (h.2 '<' List.mem_cons_self) (by decide)

theorem eq_nil_of_spacing {s gap : List Char} (hend : Text.Trimmed s)
    (hgap : ∀ c ∈ gap, Text.isSpacing c = true) (h : gap <:+ s) : gap = [] := by
  rcases List.eq_nil_or_concat gap with rfl | ⟨gap', c, rfl⟩
  · rfl
  · obtain ⟨s', rfl⟩ := h
    have hblank := Text.isBlank_of_isSpacing (hgap c (by simp))
    have hc := hend c (by simp)
    rw [hblank] at hc
    cases hc

-- The parts of a line.

theorem headed?_eq_some_iff {word s r : List Char} {t : Trigger} :
    headed? word s = some (t, r) ↔ ∃ gap w, Spacing gap ∧ t ≠ [] ∧ t.Spelled w ∧
      s = word ++ gap ++ w ++ r ∧ Button.read? r = none := by
  simp only [headed?, Option.bind_eq_some_iff, Text.strip?_eq_some_iff, spaced?_eq_some_iff,
    Trigger.read?_eq_some_iff]
  constructor
  · rintro ⟨_, ⟨_, rfl, gap, hgap, rfl, -⟩, ht, w, hw, rfl, hr⟩
    exact ⟨gap, w, hgap, ht, hw, by simp, hr⟩
  · rintro ⟨gap, w, hgap, ht, hw, rfl, hr⟩
    refine ⟨w ++ r, ⟨gap ++ w ++ r, by simp, gap, hgap, by simp, ?_⟩, ht, w, hw, rfl, hr⟩
    intro c hc
    rw [List.head?_append, hw.head? ht] at hc
    obtain rfl := Option.some.inj hc
    decide

theorem part?_eq_some_iff {word s r : List Char} {t : Trigger} :
    part? word s = some (t, r) ↔ ∃ gap w gap', Spacing gap ∧ t ≠ [] ∧ t.Spelled w ∧
      Spacing gap' ∧ s = word ++ gap ++ w ++ gap' ++ r ∧ Flush r := by
  have hpart : part? word s = some (t, r) ↔
      ∃ r', headed? word s = some (t, r') ∧ spaced? r' = some r := by
    rw [part?]
    cases headed? word s with
    | none => simp
    | some a =>
      obtain ⟨t', r'⟩ := a
      simp only [Option.map_eq_some_iff, Option.some.injEq, Prod.mk.injEq]
      constructor
      · rintro ⟨_, hr, rfl, rfl⟩
        exact ⟨r', ⟨rfl, rfl⟩, hr⟩
      · rintro ⟨_, ⟨rfl, rfl⟩, hr⟩
        exact ⟨r, hr, rfl, rfl⟩
  simp only [hpart, headed?_eq_some_iff, spaced?_eq_some_iff]
  constructor
  · rintro ⟨_, ⟨gap, w, hgap, ht, hw, rfl, -⟩, gap', hgap', rfl, hr⟩
    exact ⟨gap, w, gap', hgap, ht, hw, hgap', by simp, hr⟩
  · rintro ⟨gap, w, gap', hgap, ht, hw, hgap', rfl, hr⟩
    exact ⟨gap' ++ r, ⟨gap, w, hgap, ht, hw, by simp, Button.read?_eq_none (hgap'.head? r)⟩,
      gap', hgap', rfl, hr⟩

theorem part?_append (word : List Char) {gap w gap' r : List Char} {t : Trigger}
    (hgap : Spacing gap) (ht : t ≠ []) (hw : t.Spelled w) (hgap' : Spacing gap') (hr : Flush r) :
    part? word (word ++ gap ++ w ++ gap' ++ r) = some (t, r) :=
  part?_eq_some_iff.mpr ⟨gap, w, gap', hgap, ht, hw, hgap', rfl, hr⟩

theorem headed?_eq_none {word s : List Char} (h : Text.strip? word s = none) :
    headed? word s = none := by
  rw [headed?, h]
  rfl

theorem part?_eq_none {word s : List Char} (h : Text.strip? word s = none) :
    part? word s = none := by
  rw [part?, headed?_eq_none h]

theorem isBrace_iff {brace : Char} {s : List Char} :
    isBrace brace s = true ↔ ∃ gap, (∀ c ∈ gap, Text.isSpacing c = true) ∧ s = brace :: gap := by
  cases s with
  | nil => simp [isBrace]
  | cons c s =>
    simp only [isBrace, Bool.and_eq_true, decide_eq_true_eq, List.cons.injEq]
    constructor
    · rintro ⟨rfl, hs⟩
      obtain ⟨gap, hgap, h⟩ := exists_gap s
      rw [hs, List.append_nil] at h
      exact ⟨gap, hgap, rfl, h⟩
    · rintro ⟨gap, hgap, rfl, rfl⟩
      have h := skipSpacing_append (s := []) hgap (by simp [Flush])
      rw [List.append_nil] at h
      exact ⟨rfl, h⟩

/-- A line with a trigger and a part after it, which is not empty as the line does not end in a
blank. -/
theorem part?_of_trimmed {word s r : List Char} {t : Trigger}
    (hend : Text.Trimmed s) (h : part? word s = some (t, r)) :
    ∃ gap w gap', Spacing gap ∧ t ≠ [] ∧ t.Spelled w ∧ Spacing gap' ∧
      s = word ++ gap ++ w ++ gap' ++ r ∧ r ≠ [] ∧ Flush r := by
  obtain ⟨gap, w, gap', hgap, ht, hw, hgap', rfl, hr⟩ := part?_eq_some_iff.mp h
  refine ⟨gap, w, gap', hgap, ht, hw, hgap', rfl, ?_, hr⟩
  rintro rfl
  rw [List.append_nil] at hend
  exact hgap'.1 (eq_nil_of_spacing hend hgap'.2 (List.suffix_append _ _))

theorem read?_of_form {l : Line} {s : List Char} (h : l.Form s) : read? s = some l := by
  cases h with
  | @map t gap w gap' keys hgap ht hw hgap' hkeys hflush =>
    rw [read?, part?_append _ hgap ht hw hgap' hflush]
  | @command t gap w gap' c hgap ht hw hgap' hc hflush =>
    rw [read?, part?_eq_none (by simp [Text.strip?]), part?_append _ hgap ht hw hgap' hflush]
  | @opening t gap w gap' hgap ht hw hgap' =>
    have hflush : Flush ['{'] := by simp [Flush, Text.isSpacing]
    have hbutton : Button.read? (gap' ++ ['{']) = none := by
      refine Button.read?_eq_none ?_
      cases gap' with
      | nil => decide
      | cons c gap' => exact Spacing.head? ⟨List.cons_ne_nil _ _, hgap'⟩ _
    have hheaded : headed? ['m', 'o', 'd', 'e'] (['m', 'o', 'd', 'e'] ++ gap ++ w ++ gap' ++ ['{'])
        = some (t, gap' ++ ['{']) :=
      headed?_eq_some_iff.mpr ⟨gap, w, hgap, ht, hw, by simp, hbutton⟩
    rw [read?, part?_eq_none (by simp [Text.strip?]), part?_eq_none (by simp [Text.strip?]),
      hheaded]
    simp only [skipSpacing_append hgap' hflush]
    rfl
  | closing => rfl

/-- **A trimmed line is read by its form.** -/
theorem read?_eq_some_iff {s : List Char} (hend : Text.Trimmed s)
    {l : Line} : read? s = some l ↔ l.Form s := by
  refine ⟨fun h => ?_, read?_of_form⟩
  rw [read?] at h
  split at h
  · next t keys hpart =>
    obtain rfl := Option.some.inj h
    obtain ⟨gap, w, gap', hgap, ht, hw, hgap', rfl, hne, hflush⟩ := part?_of_trimmed hend hpart
    exact .map hgap ht hw hgap' hne hflush
  · split at h
    · next t c hpart =>
      obtain rfl := Option.some.inj h
      obtain ⟨gap, w, gap', hgap, ht, hw, hgap', rfl, hne, hflush⟩ := part?_of_trimmed hend hpart
      exact .command hgap ht hw hgap' hne hflush
    · split at h
      · next t r hheaded =>
        obtain ⟨gap, w, hgap, ht, hw, rfl, -⟩ := headed?_eq_some_iff.mp hheaded
        split at h
        · next hbrace =>
          obtain rfl := Option.some.inj h
          obtain ⟨gap', hgap', hr⟩ := exists_gap r
          obtain ⟨tail, htail, hbrace⟩ := isBrace_iff.mp hbrace
          rw [hbrace] at hr
          -- Nothing stands after the brace of a trimmed line.
          obtain rfl : tail = [] := by
            refine eq_nil_of_spacing hend htail ?_
            rw [hr]
            exact ⟨['m', 'o', 'd', 'e'] ++ gap ++ w ++ gap' ++ ['{'], by simp⟩
          rw [hr, ← List.append_assoc]
          exact .opening hgap ht hw hgap'
        · cases h
      · split at h
        · next hbrace =>
          obtain rfl := Option.some.inj h
          obtain ⟨tail, htail, rfl⟩ := isBrace_iff.mp hbrace
          obtain rfl := eq_nil_of_spacing hend htail (List.suffix_cons _ _)
          exact .closing
        · cases h

end Mapping.Line

end InlineRemote
