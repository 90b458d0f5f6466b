import InlineRemote.Trigger

/-! # How triggers are spelled

A text spells a trigger if it names its buttons in angle brackets, one after the other, in any ASCII
case.  The reader of triggers takes the longest such text.  The written form of a trigger spells it,
so that different triggers are written differently. -/
namespace InlineRemote

namespace Button

theorem stripWord_eq_some_iff {w s r : List Char} :
    stripWord w s = some r ↔ ∃ name, name.map Char.toLower = w ∧ s = name ++ r := by
  induction w generalizing s with
  | nil => simp [stripWord, eq_comm]
  | cons a w ih =>
    cases s with
    | nil =>
      simp only [stripWord, reduceCtorEq, false_iff]
      rintro ⟨name, hname, hs⟩
      rw [(List.append_eq_nil_iff.mp hs.symm).1] at hname
      cases hname
    | cons c s =>
      rw [stripWord]
      constructor
      · intro h
        split at h
        · next hc =>
          obtain ⟨name, rfl, rfl⟩ := ih.mp h
          exact ⟨c :: name, by rw [List.map_cons, hc], rfl⟩
        · cases h
      · rintro ⟨name, hname, hs⟩
        cases name with
        | nil => cases hname
        | cons d name =>
          rw [List.map_cons] at hname
          obtain ⟨hd, hrest⟩ := List.cons.inj hname
          obtain ⟨rfl, rfl⟩ := List.cons.inj hs
          rw [if_pos hd]
          exact ih.mpr ⟨name, hrest, rfl⟩

/-- A button is read from its name in angle brackets, in any ASCII case. -/
theorem read?_eq_some_iff {s r : List Char} {b : Button} :
    read? s = some (b, r) ↔
      ∃ name, name.map Char.toLower = b.word ∧ s = '<' :: (name ++ '>' :: r) := by
  constructor
  · intro h
    unfold read? at h
    split at h
    · obtain ⟨a, -, ha⟩ := List.exists_of_findSome?_eq_some h
      split at ha
      · next r' hs =>
        obtain ⟨rfl, rfl⟩ := Prod.mk.inj (Option.some.inj ha)
        obtain ⟨name, hname, rfl⟩ := stripWord_eq_some_iff.mp hs
        exact ⟨name, hname, rfl⟩
      · cases ha
    · cases h
  · rintro ⟨name, hname, rfl⟩
    have hstrip : stripWord b.word (name ++ '>' :: r) = some ('>' :: r) :=
      stripWord_eq_some_iff.mpr ⟨name, hname, rfl⟩
    -- The names differ in their first letters.
    have hother (a : Button) (hne : a ≠ b) : stripWord a.word (name ++ '>' :: r) = none := by
      cases name with
      | nil => cases b <;> cases hname
      | cons c name => cases a <;> cases b <;> simp_all [word, stripWord]
    cases b with
    | play => simp only [read?, List.findSome?_cons, hstrip]
    | up => simp only [read?, List.findSome?_cons, hother .play (by decide), hstrip]
    | down =>
      simp only [read?, List.findSome?_cons, hother .play (by decide), hother .up (by decide),
        hstrip]

theorem read?_eq_none {s : List Char} (h : s.head? ≠ some '<') : read? s = none := by
  unfold read?
  split
  · simp at h
  · rfl

end Button

namespace Trigger

/-- A text spells a trigger. -/
inductive Spelled : Trigger → List Char → Prop
  | nil : Spelled [] []
  | cons {b : Button} {t : Trigger} {name s : List Char} (hname : name.map Char.toLower = b.word)
      (h : Spelled t s) : Spelled (b :: t) ('<' :: (name ++ '>' :: s))

theorem Spelled.head? {t : Trigger} {w : List Char} (h : t.Spelled w) (ht : t ≠ []) :
    w.head? = some '<' := by
  cases h with
  | nil => exact absurd rfl ht
  | cons => rfl

theorem readMany_eq_iff {s r : List Char} {t : Trigger} :
    readMany s = (t, r) ↔ ∃ w, t.Spelled w ∧ s = w ++ r ∧ Button.read? r = none := by
  constructor
  · intro h
    fun_induction readMany s generalizing t with
    | case1 s hs =>
      obtain ⟨rfl, rfl⟩ := Prod.mk.inj h
      exact ⟨[], .nil, rfl, hs⟩
    | case2 s b r₁ hs t₁ r₂ hr ih =>
      obtain ⟨rfl, rfl⟩ := Prod.mk.inj h
      obtain ⟨w, hw, rfl, hend⟩ := ih hr
      obtain ⟨name, hname, rfl⟩ := Button.read?_eq_some_iff.mp hs
      exact ⟨_, .cons hname hw, by simp, hend⟩
  · rintro ⟨w, hw, rfl, hend⟩
    induction hw with
    | nil =>
      rw [List.nil_append, readMany]
      split
      · rfl
      · next hs =>
        rw [hend] at hs
        cases hs
    | @cons b t name s hname hs ih =>
      have hread : Button.read? ('<' :: (name ++ '>' :: s) ++ r) = some (b, s ++ r) :=
        Button.read?_eq_some_iff.mpr ⟨name, hname, by simp⟩
      rw [readMany]
      split
      · next hnone =>
        rw [hread] at hnone
        cases hnone
      · next hsome =>
        rw [hread] at hsome
        obtain ⟨rfl, rfl⟩ := Prod.mk.inj (Option.some.inj hsome)
        rw [ih]

theorem read?_eq_some_iff {s r : List Char} {t : Trigger} :
    read? s = some (t, r) ↔
      t ≠ [] ∧ ∃ w, t.Spelled w ∧ s = w ++ r ∧ Button.read? r = none := by
  rw [← readMany_eq_iff, read?]
  generalize readMany s = a
  obtain ⟨t', r'⟩ := a
  cases t' with
  | nil =>
    simp only [reduceCtorEq, false_iff, not_and]
    intro ht h
    exact ht (Prod.mk.inj h).1.symm
  | cons b t' =>
    simp only [Option.some.injEq, iff_and_self]
    intro h ht
    rw [ht] at h
    cases h

theorem spelled_letters (t : Trigger) : t.Spelled t.letters := by
  induction t with
  | nil => exact .nil
  | cons b t ih =>
    have hcons : letters (b :: t) = '<' :: (b.name ++ '>' :: letters t) := by
      simp [letters, Button.letters]
    rw [hcons]
    exact .cons (by cases b <;> rfl) ih

theorem letters_injective : Function.Injective letters := by
  have hread (t : Trigger) : readMany t.letters = (t, []) :=
    readMany_eq_iff.mpr ⟨_, t.spelled_letters, (List.append_nil _).symm, rfl⟩
  intro t t' h
  have hsame := (hread t).symm.trans (h ▸ hread t')
  exact (Prod.mk.inj hsame).1

theorem text_injective : Function.Injective text := by
  intro t t' h
  exact letters_injective (String.ofList_injective h)

end Trigger

end InlineRemote
