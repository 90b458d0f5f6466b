import InlineRemote.Proofs.Files.Place

/-! # Trees that differ in one file

Two trees may differ in what a file at one place holds, or in whether it is there at all.  Whatever
is done to both keeps this so, and a path that does not lead to the place reads alike in both. -/
namespace InlineRemote.FileTree

/-- Two trees are the same, except that different files may stand at one place, or none. -/
def AgreeOff (q : Place) (t u : FileTree) : Prop :=
  ∀ r, t.node? r = u.node? r ∨ (r = q ∧ t.isDirectory r = false ∧ u.isDirectory r = false)

namespace AgreeOff

variable {q : Place} {t u : FileTree}

theorem refl (q : Place) (t : FileTree) : AgreeOff q t t := fun _ => .inl rfl

theorem symm (h : AgreeOff q t u) : AgreeOff q u t := fun r =>
  (h r).imp Eq.symm fun ⟨hr, ht, hu⟩ => ⟨hr, hu, ht⟩

theorem trans {v : FileTree} (h : AgreeOff q t u) (h' : AgreeOff q u v) : AgreeOff q t v := by
  intro r
  rcases h r with hr | ⟨hr, ht, hu⟩
  · rw [isDirectory, hr]
    exact h' r
  · refine .inr ⟨hr, ht, ?_⟩
    rcases h' r with hv | ⟨-, -, hv⟩
    · rw [isDirectory, ← hv]
      exact hu
    · exact hv

theorem node?_eq (h : AgreeOff q t u) {r : Place} (hr : r ≠ q) : t.node? r = u.node? r :=
  (h r).resolve_right fun ⟨he, _⟩ => hr he

theorem isDirectory_eq (h : AgreeOff q t u) (r : Place) : t.isDirectory r = u.isDirectory r := by
  rcases h r with hr | ⟨-, ht, hu⟩
  · rw [isDirectory, isDirectory, hr]
  · rw [ht, hu]

theorem of_pointwise {t' u' : FileTree} (h : AgreeOff q t u)
    (hop : ∀ r, t'.node? r = u'.node? r ∨ (t'.node? r = t.node? r ∧ u'.node? r = u.node? r)) :
    AgreeOff q t' u' := by
  intro r
  rcases hop r with hr | ⟨ht, hu⟩
  · exact .inl hr
  · rw [isDirectory, isDirectory, ht, hu]
    exact h r

theorem put (h : AgreeOff q t u) (p : Place) (n : FileNode) :
    AgreeOff q (t.put p n) (u.put p n) := by
  refine h.of_pointwise fun r => ?_
  rw [node?_put, node?_put]
  split
  · exact .inl rfl
  · split
    · exact .inl rfl
    · exact .inr ⟨rfl, rfl⟩

theorem remove (h : AgreeOff q t u) (p : Place) : AgreeOff q (t.remove p) (u.remove p) := by
  refine h.of_pointwise fun r => ?_
  rw [node?_remove, node?_remove]
  split
  · exact .inl rfl
  · exact .inr ⟨rfl, rfl⟩

theorem withDirectories (h : AgreeOff q t u) (p : Place) :
    AgreeOff q (t.withDirectories p) (u.withDirectories p) := by
  refine h.of_pointwise fun r => ?_
  rw [node?_withDirectories, node?_withDirectories]
  split
  · exact .inl rfl
  · exact .inr ⟨rfl, rfl⟩

theorem lay (h : AgreeOff q t u) (path : String) (n : Option FileNode) :
    AgreeOff q (t.lay path n) (u.lay path n) := by
  unfold FileTree.lay
  match n with
  | none => exact h.remove _
  | some .directory => exact h.withDirectories _
  | some (.text _) => exact ((h.remove _).withDirectories _).put _ _
  | some .binary => exact ((h.remove _).withDirectories _).put _ _

theorem put_file (h : AgreeOff q t u) (hq : t.isDirectory q = false) (a : String) :
    AgreeOff q (t.put q (.text a)) u := by
  intro r
  by_cases hr : r = q
  · subst hr
    refine .inr ⟨rfl, ?_, (h.isDirectory_eq r) ▸ hq⟩
    rw [isDirectory, node?_put]
    split
    · next hroot => simp [isDirectory, hroot] at hq
    · simp
  · rw [node?_put]
    split
    · next hroot => exact .inl (by rw [hroot, node?_root])
    · exact .inl (h.node?_eq hr)

-- Walking in both trees.

theorem enter_eq (h : AgreeOff q t u) {p : Place} {n : String}
    (hm : t.node? (move p n) = u.node? (move p n)) : t.enter p n = u.enter p n := by
  rw [enter, enter, h.isDirectory_eq p]
  by_cases hstay : n = "" ∨ n = "."
  · simp only [if_pos hstay]
  · by_cases hup : n = ".."
    · simp only [if_neg hstay, if_pos hup]
    · rw [move, if_neg hstay, if_neg hup] at hm
      rw [hm]

/-- A walk that does not end at the place goes alike in both trees: it does not pass the place
where the trees differ, since no directory stands there. -/
theorem walk_eq_ok (h : AgreeOff q t u) {p r : Place} {ns : List String}
    (hw : t.walk p ns = .ok r) (hr : r ≠ q) : u.walk p ns = .ok r := by
  induction ns generalizing p with
  | nil => exact hw
  | cons n ns ih =>
    obtain ⟨-, he, hw'⟩ := walk_cons_eq_ok hw
    have hm : t.node? (move p n) = u.node? (move p n) := by
      rcases h (move p n) with hm | ⟨hq, ht, -⟩
      · exact hm
      · cases ns with
        | nil =>
          obtain rfl := Except.ok.inj hw'
          exact absurd hq hr
        | cons m ms =>
          rw [(walk_cons_eq_ok hw').1] at ht
          cases ht
    rw [walk_cons, ← h.enter_eq hm, he]
    exact ih hw'

theorem resolve_eq_ok (h : AgreeOff q t u) {path : String} {r : Place}
    (hr : t.resolve path = .ok r) (hne : r ≠ q) : u.resolve path = .ok r := by
  rw [resolve] at hr ⊢
  split at hr
  · cases hr
  · split at hr
    · cases hr
    · next hempty =>
      rw [if_neg hempty]
      exact h.walk_eq_ok hr hne

theorem isThere_eq (h : AgreeOff q t u) {path : String} (hp : destination path ≠ q) :
    t.isThere path = u.isThere path := by
  have himp {t u : FileTree} (h : AgreeOff q t u) (ht : t.isThere path = true) :
      u.isThere path = true := by
    obtain ⟨r, hr⟩ := isThere_iff.mp ht
    have hne : r ≠ q := (FileTree.resolve_eq_ok hr).2 ▸ hp
    exact isThere_iff.mpr ⟨r, h.resolve_eq_ok hr hne⟩
  exact Bool.eq_iff_iff.mpr ⟨himp h, himp h.symm⟩

theorem read_eq (h : AgreeOff q t u) {path : String} (hp : destination path ≠ q)
    (ht : t.isThere path = true) : t.read path = u.read path := by
  obtain ⟨r, hr⟩ := isThere_iff.mp ht
  have hne : r ≠ q := (FileTree.resolve_eq_ok hr).2 ▸ hp
  rw [FileTree.read, FileTree.read, hr, h.resolve_eq_ok hr hne]
  simp only [h.node?_eq hne]

end AgreeOff

end InlineRemote.FileTree
