import InlineRemote.Proofs.Files.Agreement
import InlineRemote.Proofs.Files.Siblings
import InlineRemote.Status.Save

/-! # Saving beside other files

Where a file of the directory can be reached, saving the status touches no other file.  Whatever
status is saved in two trees, they come to differ in the status file at most. -/
namespace InlineRemote.FileTree

variable {q : Place} {t u : FileTree} {path name : String} {upper : List String}

-- Walking along a part of the names.

theorem route_append (p : Place) (ns ms : List String) :
    route p (ns ++ ms) = route p ns ++ route (ns.foldl move p) ms := by
  induction ns generalizing p with
  | nil => rfl
  | cons n ns ih => rw [List.cons_append, route, ih, route, List.cons_append, List.foldl_cons]

theorem foldl_move_mem_route (p : Place) (ns : List String) :
    ns.foldl move p = p ∨ ns.foldl move p ∈ route p ns := by
  induction ns generalizing p with
  | nil => exact .inl rfl
  | cons n ns ih =>
    rw [List.foldl_cons, route]
    rcases ih (move p n) with h | h
    · exact .inr (by rw [h]; exact List.mem_cons_self)
    · exact .inr (List.mem_cons_of_mem _ h)

theorem walk_append_eq_ok {p r : Place} {ns ms : List String} (h : t.walk p (ns ++ ms) = .ok r)
    (hr : t.isDirectory r = true) : ∃ d, t.walk p ns = .ok d ∧ t.isDirectory d = true := by
  rw [walk_append] at h
  cases hw : t.walk p ns with
  | error fault =>
    rw [hw] at h
    cases h
  | ok d =>
    rw [hw] at h
    change t.walk d ms = .ok r at h
    cases ms with
    | nil =>
      obtain rfl := Except.ok.inj h
      exact ⟨d, rfl, hr⟩
    | cons m ms => exact ⟨d, rfl, (walk_cons_eq_ok h).1⟩

-- The directory of a file.

namespace IsFile

theorem move_name (h : IsFile path upper name) (p : Place) : move p name = p ++ [name] := by
  obtain ⟨-, hempty, hdot, hdots⟩ := h.ordinary
  rw [move, if_neg (not_or.mpr ⟨hempty, hdot⟩), if_neg hdots]

theorem destination_eq (h : IsFile path upper name) :
    destination path = upper.foldl move [] ++ [name] := by
  rw [destination, h.names_eq, List.foldl_append, List.foldl_cons, List.foldl_nil, h.move_name]

theorem destination_ne_nil (h : IsFile path upper name) : destination path ≠ [] := by
  rw [h.destination_eq]
  exact List.append_ne_nil_of_right_ne_nil _ (List.cons_ne_nil _ _)

theorem destination_ne {path' name' : String} (h : IsFile path upper name)
    (h' : IsFile path' upper name') (hne : name ≠ name') :
    destination path ≠ destination path' := by
  rw [h.destination_eq, h'.destination_eq]
  intro heq
  exact hne (List.singleton_inj.mp (List.append_cancel_left heq))

theorem walk_upper (h : IsFile path upper name) (ht : t.isThere path = true) :
    ∃ d, t.walk [] upper = .ok d ∧ t.isDirectory d = true := by
  obtain ⟨r, hr⟩ := isThere_iff.mp ht
  have hw := (resolve_eq_ok hr).1
  rw [h.names_eq, walk_append] at hw
  cases hd : t.walk [] upper with
  | error fault =>
    rw [hd] at hw
    cases hw
  | ok d =>
    rw [hd] at hw
    exact ⟨d, rfl, (walk_cons_eq_ok hw).1⟩

/-- The way to the parent of a file does not pass a place that the names of the directory do not
lead through. -/
theorem not_mem_route_parent (h : IsFile path upper name) {up : List Char}
    (hup : Path.parent? path.toList = some up) (hroot : q ≠ []) (hq : q ∉ route [] upper) :
    q ∉ route [] (names (.ofList up)) := by
  rcases h.parent up hup with ⟨rest, hrest⟩ | hroot'
  · intro hmem
    have hmem' : q ∈ route [] (upper ++ [""]) := by
      rw [← hrest, route_append]
      exact List.mem_append_left _ hmem
    rw [route_append] at hmem'
    rcases List.mem_append.mp hmem' with hmem' | hmem'
    · exact hq hmem'
    · have hend : q = upper.foldl move [] := by simpa [route, move] using hmem'
      rcases foldl_move_mem_route [] upper with h | h
      · exact hroot (hend.trans h)
      · exact hq (hend ▸ h)
  · rw [hroot']
    simpa [route, move] using hroot

/-- Where the directory is there, the way to the parent of a file of it is there. -/
theorem makeAlong_parent (h : IsFile path upper name) {d : Place} (hw : t.walk [] upper = .ok d)
    (hd : t.isDirectory d = true) {up : List Char} (hup : Path.parent? path.toList = some up) :
    t.makeAlong [] (names (.ofList up)) = .ok t := by
  have hempty : t.walk [] (upper ++ [""]) = .ok d := by
    rw [walk_append, hw]
    simp [Except.bind, walk, hd]
  rcases h.parent up hup with ⟨rest, hrest⟩ | hroot
  · rw [← hrest] at hempty
    obtain ⟨d', hw', hd'⟩ := walk_append_eq_ok hempty hd
    exact makeAlong_of_walk hw' hd'
  · rw [hroot]
    rfl

theorem makeParent_fst (h : IsFile path upper name) {d : Place} (hw : t.walk [] upper = .ok d)
    (hd : t.isDirectory d = true) : (Status.makeParent path t).1 = t := by
  rw [Status.makeParent]
  split
  · rfl
  · next up hup =>
    rw [makeDirectories, h.makeAlong_parent hw hd hup]
    cases refusal? (.ofList up) <;> rfl

theorem makeParent_eq (h : IsFile path upper name) {d : Place} (hw : t.walk [] upper = .ok d)
    (hd : t.isDirectory d = true)
    (hrefusal : ∀ up, Path.parent? path.toList = some up → refusal? (.ofList up) = none) :
    Status.makeParent path t = (t, none) := by
  rw [Status.makeParent]
  split
  · rfl
  · next up hup => rw [makeDirectories, hrefusal up hup, h.makeAlong_parent hw hd hup]

end IsFile

-- The same operation on two trees.

/-- Two outcomes are the same fault, or trees that agree. -/
inductive AgreeOff.Outcome (q : Place) : Except Fault FileTree → Except Fault FileTree → Prop
  | fault (fault : Fault) : Outcome q (.error fault) (.error fault)
  | tree {t u : FileTree} (h : AgreeOff q t u) : Outcome q (.ok t) (.ok u)

namespace AgreeOff

theorem Outcome.bind {a b : Except Fault FileTree} {f g : FileTree → Except Fault FileTree}
    (h : Outcome q a b) (hfg : ∀ t u, AgreeOff q t u → Outcome q (f t) (g u)) :
    Outcome q (a.bind f) (b.bind g) := by
  cases h with
  | fault fault => exact .fault fault
  | tree h => exact hfg _ _ h

theorem ensure (h : AgreeOff q t u) {p : Place} {n : String} (hne : move p n ≠ q) (last : Bool) :
    Outcome q (t.ensure p n last) (u.ensure p n last) := by
  rw [FileTree.ensure, FileTree.ensure, h.isDirectory_eq p]
  split
  · exact .fault _
  · split
    · exact .tree h
    · next hstay =>
      split
      · exact .tree h
      · next hup =>
        split
        · exact .fault _
        · have hmove : move p n = p ++ [n] := by rw [move, if_neg hstay, if_neg hup]
          rw [h.node?_eq (hmove ▸ hne)]
          split
          · exact .tree (h.put _ _)
          · exact .tree h
          · exact .fault _

theorem makeAlong (h : AgreeOff q t u) {p : Place} {ns : List String} (hq : q ∉ route p ns) :
    Outcome q (t.makeAlong p ns) (u.makeAlong p ns) := by
  induction ns generalizing t u p with
  | nil => exact .tree h
  | cons n ns ih =>
    obtain ⟨hne, hq⟩ := not_or.mp (mt List.mem_cons.mpr hq)
    rw [makeAlong_cons, makeAlong_cons]
    exact (h.ensure (Ne.symm hne) _).bind fun _ _ h' => ih h' hq

theorem makeParent (h : AgreeOff q t u) (hf : IsFile path upper name) (hroot : q ≠ [])
    (hq : q ∉ route [] upper) :
    AgreeOff q (Status.makeParent path t).1 (Status.makeParent path u).1 := by
  rw [Status.makeParent, Status.makeParent]
  split
  · exact h
  · next up hup =>
    rw [makeDirectories, makeDirectories]
    cases refusal? (.ofList up) with
    | some fault => exact h
    | none =>
      have hout := h.makeAlong (hf.not_mem_route_parent hup hroot hq)
      simp only
      generalize t.makeAlong [] (names (.ofList up)) = a at hout ⊢
      generalize u.makeAlong [] (names (.ofList up)) = b at hout ⊢
      cases hout with
      | fault fault => exact h
      | tree h' => exact h'

end AgreeOff

-- Writing the file.

namespace IsFile

theorem target_eq (h : IsFile path upper name) (t : FileTree) :
    t.target path =
      match refusal? path with
      | some fault => .error fault
      | none => (t.walk [] upper).bind (t.filePlace · name) := by
  have hrev : (names path).reverse = name :: upper.reverse := by simp [h.names_eq]
  have hempty := h.ordinary.2.1
  rw [target, hrev]
  cases refusal? path with
  | some fault => rfl
  | none =>
    split
    case h_5 last upper' _ _ _ heq =>
      obtain ⟨rfl, rfl⟩ := List.cons.inj heq
      rw [List.reverse_reverse]
      cases t.walk [] upper <;> rfl
    all_goals simp_all

theorem target_eq_ok_iff (h : IsFile path upper name) {p : Place} :
    t.target path = .ok p ↔ refusal? path = none ∧
      ∃ d, t.walk [] upper = .ok d ∧ t.filePlace d name = .ok p := by
  rw [h.target_eq]
  cases refusal? path with
  | some fault => simp
  | none => cases t.walk [] upper <;> simp [Except.bind]

theorem filePlace_eq_ok (h : IsFile path upper name) {d p : Place}
    (hp : t.filePlace d name = .ok p) :
    t.isDirectory d = true ∧ isTooLong name = false ∧ t.isDirectory p = false ∧
      p = d ++ [name] := by
  obtain ⟨-, -, hdot, hdots⟩ := h.ordinary
  rw [filePlace] at hp
  grind

theorem target_eq_ok (h : IsFile path upper name) {p : Place} (ht : t.target path = .ok p) :
    p = destination path ∧ t.isDirectory p = false ∧
      ∃ d, t.walk [] upper = .ok d ∧ t.isDirectory d = true := by
  obtain ⟨-, d, hw, hplace⟩ := h.target_eq_ok_iff.mp ht
  obtain ⟨hd, -, hp, hpd⟩ := h.filePlace_eq_ok hplace
  refine ⟨?_, hp, d, hw, hd⟩
  rw [hpd, h.destination_eq, ← walk_eq_ok hw]

theorem write_of_mem_route (h : IsFile path upper name) (hq : destination path ∈ route [] upper)
    (t : FileTree) : ∃ fault, ∀ content, t.write path content = .error fault := by
  cases ht : t.target path with
  | error fault => exact ⟨fault, fun content => by rw [write, ht]⟩
  | ok p =>
    obtain ⟨rfl, hp, d, hw, hd⟩ := h.target_eq_ok ht
    rw [isDirectory_of_mem_route hw hd _ hq] at hp
    cases hp

end IsFile

theorem IsFile.agreeOff_write (h : IsFile path upper name) {content : String}
    (hw : t.write path content = .ok u) : AgreeOff (destination path) u t := by
  rw [write] at hw
  split at hw
  · cases hw
  · next p ht =>
    obtain ⟨rfl, hp, -⟩ := h.target_eq_ok ht
    obtain rfl := Except.ok.inj hw
    exact (AgreeOff.refl _ t).put_file hp content

theorem IsFile.agreeOff_save (h : IsFile path upper name) (s : Status) (refusal? : Option Fault)
    (t : FileTree) :
    AgreeOff (destination path) (s.save path t refusal?).1 (Status.makeParent path t).1 := by
  rw [Status.save]
  generalize Status.makeParent path t = a
  obtain ⟨files, warning⟩ := a
  cases warning with
  | some warning => exact .refl _ files
  | none =>
    cases refusal? with
    | some fault => exact .refl _ files
    | none =>
      simp only [Option.elim_none]
      cases hw : files.write path s.text with
      | error fault => exact .refl _ files
      | ok files' => exact h.agreeOff_write hw

/-- Saving the status makes its directory and no more when the way to the file leads through its
own place. -/
theorem IsFile.save_of_mem_route (h : IsFile path upper name)
    (hq : destination path ∈ route [] upper) (s : Status) (refusal? : Option Fault)
    (t : FileTree) : (s.save path t refusal?).1 = (Status.makeParent path t).1 := by
  rw [Status.save]
  generalize Status.makeParent path t = a
  obtain ⟨files, warning⟩ := a
  cases warning with
  | some warning => rfl
  | none =>
    obtain ⟨fault, hfault⟩ := h.write_of_mem_route hq files
    cases refusal? with
    | some fault => rfl
    | none => simp only [Option.elim_none, hfault]

end InlineRemote.FileTree

namespace InlineRemote

open FileTree

/-- Two trees are alike but for the file at a path.  Where the way to the file leads through its own
place it can never be written, and the trees are the same. -/
structure FileTree.AlikeBut (path : String) (upper : List String) (t u : FileTree) : Prop where
  agree : AgreeOff (destination path) t u
  eq_of_mem : destination path ∈ route [] upper → t = u

namespace FileTree.AlikeBut

variable {t u : FileTree} {path name : String} {upper : List String}

theorem refl (path : String) (upper : List String) (t : FileTree) : AlikeBut path upper t t :=
  ⟨.refl _ _, fun _ => rfl⟩

theorem symm (h : AlikeBut path upper t u) : AlikeBut path upper u t :=
  ⟨h.agree.symm, fun hq => (h.eq_of_mem hq).symm⟩

theorem lay (h : AlikeBut path upper t u) (edited : String) (n : Option FileNode) :
    AlikeBut path upper (t.lay edited n) (u.lay edited n) :=
  ⟨h.agree.lay edited n, fun hq => by rw [h.eq_of_mem hq]⟩

theorem save (h : AlikeBut path upper t u) (hf : IsFile path upper name) (s s' : Status)
    (refusal? refusal?' : Option Fault) :
    AlikeBut path upper (s.save path t refusal?).1 (s'.save path u refusal?').1 := by
  by_cases hq : destination path ∈ route [] upper
  · -- The trees are one, and neither status can be written to it.
    rw [hf.save_of_mem_route hq, hf.save_of_mem_route hq, h.eq_of_mem hq]
    exact .refl _ _ _
  · refine ⟨?_, fun h => absurd h hq⟩
    have hparent := h.agree.makeParent hf hf.destination_ne_nil hq
    exact ((hf.agreeOff_save s _ t).trans hparent).trans (hf.agreeOff_save s' _ u).symm

theorem save_left {sibling name' : String} (h : AlikeBut path upper t u)
    (hf : IsFile path upper name) (hs : IsFile sibling upper name')
    (hthere : t.isThere sibling = true) (s : Status) (refusal? : Option Fault) :
    AlikeBut path upper (s.save path t refusal?).1 u := by
  obtain ⟨d, hw, hd⟩ := hs.walk_upper hthere
  have hparent := hf.makeParent_fst hw hd
  refine ⟨?_, fun hq => ?_⟩
  · have hsave := hf.agreeOff_save s refusal? t
    rw [hparent] at hsave
    exact hsave.trans h.agree
  · rw [hf.save_of_mem_route hq, hparent, h.eq_of_mem hq]

end FileTree.AlikeBut

end InlineRemote
