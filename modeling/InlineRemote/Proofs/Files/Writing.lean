import InlineRemote.Proofs.Files.Saving

/-! # What was saved is read

A file that has been written is read back as it was, and can be written again: the directory above
it is there, and the tree differs from the one before in the file at most.  So a status that has
been saved stands in its file, and any other status could be saved next. -/
namespace InlineRemote

open FileTree

namespace FileTree

variable {t u : FileTree} {path name content : String} {upper : List String}

theorem AgreeOff.filePlace_eq {q : Place} (h : AgreeOff q t u) (p : Place) (name : String) :
    t.filePlace p name = u.filePlace p name := by
  rw [filePlace, filePlace, h.isDirectory_eq, h.isDirectory_eq]

theorem write_eq_ok (h : t.write path content = .ok u) :
    ∃ p, t.target path = .ok p ∧ u = t.put p (.text content) := by
  rw [write] at h
  cases ht : t.target path with
  | error fault =>
    rw [ht] at h
    cases h
  | ok p =>
    rw [ht] at h
    exact ⟨p, rfl, (Except.ok.inj h).symm⟩

theorem write_of_target {p : Place} (h : t.target path = .ok p) (content : String) :
    t.write path content = .ok (t.put p (.text content)) := by
  rw [write, h]

namespace IsFile

theorem resolve_eq (h : IsFile path upper name) {d : Place} (hrefusal : refusal? path = none)
    (hw : t.walk [] upper = .ok d) : t.resolve path = t.enter d name := by
  have hpath : path ≠ "" := by
    rintro rfl
    have hnames : [].concat "" = upper.concat name := by
      rw [List.concat_eq_append, List.concat_eq_append, ← h.names_eq]
      rfl
    exact h.ordinary.2.1 (List.concat_inj.mp hnames).2.symm
  rw [resolve, hrefusal]
  simp only [if_neg hpath]
  rw [h.names_eq, walk_append, hw]
  change t.walk d [name] = _
  rw [walk_cons]
  cases t.enter d name <;> rfl

theorem enter_eq_ok (h : IsFile path upper name) {d : Place} (hd : t.isDirectory d = true)
    (hlong : isTooLong name = false) (hthere : (t.node? (d ++ [name])).isSome) :
    t.enter d name = .ok (d ++ [name]) := by
  obtain ⟨-, hempty, hdot, hdots⟩ := h.ordinary
  rw [enter]
  simp [hd, hempty, hdot, hdots, hlong, Option.isSome_iff_ne_none.mp hthere]

/-- **A file that has been written is read back,** and can be written again. -/
theorem read_of_write (h : IsFile path upper name) (hw : t.write path content = .ok u) :
    u.read path = .ok content ∧ u.target path = t.target path ∧
      ∃ d, u.walk [] upper = .ok d ∧ u.isDirectory d = true := by
  obtain ⟨p, ht, rfl⟩ := write_eq_ok hw
  obtain ⟨hrefusal, d, hwalk, hplace⟩ := h.target_eq_ok_iff.mp ht
  obtain ⟨hd, hlong, hp, hpd⟩ := h.filePlace_eq_ok hplace
  have hagree : AgreeOff p (t.put p (.text content)) t := (AgreeOff.refl p t).put_file hp content
  -- The directory is not the place of the file.
  have hne : d ≠ p := by
    rintro rfl
    rw [hd] at hp
    cases hp
  have hwalk' := hagree.symm.walk_eq_ok hwalk hne
  have hd' : (t.put p (.text content)).isDirectory d = true := by rwa [hagree.isDirectory_eq]
  have hnode : (t.put p (.text content)).node? (d ++ [name]) = some (.text content) := by
    rw [node?_put, if_neg (by simp), if_pos hpd.symm]
  refine ⟨?_, ?_, d, hwalk', hd'⟩
  · have hthere : ((t.put p (.text content)).node? (d ++ [name])).isSome := by rw [hnode]; rfl
    rw [read, h.resolve_eq hrefusal hwalk', h.enter_eq_ok hd' hlong hthere]
    simp only [hnode]
  · rw [ht]
    refine h.target_eq_ok_iff.mpr ⟨hrefusal, d, hwalk', ?_⟩
    rw [hagree.filePlace_eq, hplace]

end IsFile

end FileTree

namespace Status

variable {s : Status} {path : String} {files : FileTree} {refusal? : Option Fault}

theorem refusal?_of_makeParent (h : (makeParent path files).2 = none) {up : List Char}
    (hup : Path.parent? path.toList = some up) : FileTree.refusal? (.ofList up) = none := by
  rw [makeParent, hup] at h
  cases hr : FileTree.refusal? (.ofList up) with
  | none => rfl
  | some fault =>
    simp only [makeDirectories, hr] at h
    cases h

/-- A status is saved where its directory can be made and its file can be written. -/
theorem save_eq_none (h : (s.save path files refusal?).2 = none) :
    refusal? = none ∧ (makeParent path files).2 = none ∧
      (makeParent path files).1.write path s.text = .ok (s.save path files refusal?).1 := by
  rw [save] at h ⊢
  generalize makeParent path files = a at h ⊢
  obtain ⟨files, warning⟩ := a
  cases warning with
  | some warning => cases h
  | none =>
    cases refusal? with
    | some fault => cases h
    | none =>
      simp only [Option.elim_none] at h ⊢
      cases hw : files.write path s.text with
      | error fault =>
        rw [hw] at h
        cases h
      | ok files' => exact ⟨trivial, trivial, rfl⟩

theorem save_of_target {p : Place} {made : FileTree} (hmade : makeParent path files = (made, none))
    (ht : made.target path = .ok p) (s : Status) :
    s.save path files = (made.put p (.text s.text), none) := by
  rw [save, hmade]
  simp only [Option.elim_none, write_of_target ht]

theorem save_any (h : (s.save path files).2 = none) (s' : Status) :
    (s'.save path files).2 = none := by
  obtain ⟨-, hparent, hw⟩ := save_eq_none h
  obtain ⟨p, ht, -⟩ := write_eq_ok hw
  rw [save_of_target (Prod.ext rfl hparent) ht]

/-- **A status that has been saved stands in its file,** and any status can be saved next. -/
theorem save_saved {upper : List String} {name : String} (hf : IsFile path upper name)
    (h : (s.save path files refusal?).2 = none) :
    (s.save path files refusal?).1.read path = .ok s.text ∧
      ∀ s' : Status, (s'.save path (s.save path files refusal?).1).2 = none := by
  obtain ⟨-, hparent, hw⟩ := save_eq_none h
  generalize (s.save path files refusal?).1 = saved at hw ⊢
  obtain ⟨hread, htarget, d, hwalk, hd⟩ := hf.read_of_write hw
  refine ⟨hread, fun s' => ?_⟩
  obtain ⟨p, ht, -⟩ := write_eq_ok hw
  have hnothing : makeParent path saved = (saved, none) :=
    hf.makeParent_eq hwalk hd fun up hup => refusal?_of_makeParent hparent hup
  rw [save_of_target hnothing (htarget.trans ht)]

end Status

end InlineRemote
