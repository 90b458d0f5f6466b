import InlineRemote.Proofs.Mapping.Grammar

/-! # Mapping files one after the other

A file that is read to its end leaves no block open, so another can follow it: what both declare is
put together, and the lines of the second are counted on from those of the first.  A line that says
nothing does nothing but count, wherever it stands.  Both follow from one fact: reading goes on in
the same way after a set was declared and with other numbers for the lines. -/
namespace InlineRemote

theorem MappingSet.append_def (a b : MappingSet) :
    a ++ b = ⟨a.modes ++ b.modes, a.entries ++ b.entries⟩ := rfl

theorem MappingSet.append_empty (a : MappingSet) : a ++ ({} : MappingSet) = a := by
  simp [append_def]

namespace Mapping

-- The lines of texts that are put together.

/-- A text is empty, or its last line is ended by a line feed. -/
def EndsLine (text : List Char) : Prop :=
  text = [] ∨ text.getLast? = some '\n'

theorem splitOn_append_cons (a b : List Char) :
    (a ++ '\n' :: b).splitOn '\n' = a.splitOn '\n' ++ b.splitOn '\n' := by
  rw [List.splitOn_eq_splitOnP]
  exact List.splitOnP_append_cons a b (by simp)

theorem lines_append_cons (a b : List Char) :
    lines (a ++ '\n' :: b) = (a.splitOn '\n').map dropReturn ++ lines b := by
  have hne : b.splitOn '\n' ≠ [] := List.splitOn_ne_nil _ _
  rw [lines, lines, splitOn_append_cons, List.dropLast_append_of_ne_nil hne,
    List.getLast?_append_of_ne_nil _ hne, List.map_append, List.append_assoc]

@[simp] theorem lines_nil : lines [] = [] := rfl

theorem lines_append {a : List Char} (ha : EndsLine a) (b : List Char) :
    lines (a ++ b) = lines a ++ lines b := by
  rcases ha with rfl | ha
  · simp
  · obtain ⟨a, rfl⟩ := List.getLast?_eq_some_iff.mp ha
    rw [List.append_assoc, List.singleton_append, lines_append_cons, lines_append_cons, lines_nil,
      List.append_nil]

theorem lines_cons {l : List Char} (hl : '\n' ∉ l) (b : List Char) :
    lines (l ++ '\n' :: b) = dropReturn l :: lines b := by
  have hall : ∀ m ∈ [l], '\n' ∉ m := by simpa using hl
  have hsplit : l.splitOn '\n' = [l] := by
    simpa using List.splitOn_intercalate '\n' hall (List.cons_ne_nil l [])
  rw [lines_append_cons, hsplit]
  rfl

-- The numbers of lines.

theorem numbered_add (n k : Nat) (ls : List (List Char)) :
    numbered (k + n) ls = (numbered k ls).map (Prod.map id (· + n)) := by
  rw [numbered, numbered, Nat.add_comm, ← List.map_snd_add_zipIdx_eq_zipIdx, List.filter_map]
  rfl

/-- The number of a line once another is put in after so many. -/
def makeRoom (before : Nat) (n : Nat) : Nat :=
  if before < n then n + 1 else n

theorem zipIdx_makeRoom (before after : List (List Char)) :
    ((before ++ after).zipIdx 1).map (Prod.map id (makeRoom before.length)) =
      before.zipIdx 1 ++ after.zipIdx (1 + before.length + 1) := by
  have hshift : after.zipIdx (1 + before.length + 1) =
      (after.zipIdx (1 + before.length)).map (Prod.map id (· + 1)) := by
    rw [List.map_snd_add_zipIdx_eq_zipIdx, Nat.add_comm]
  rw [List.zipIdx_append, List.map_append, hshift]
  congr 1
  · refine (List.map_congr_left ?_).trans (List.map_id _)
    rintro ⟨s, n⟩ hl
    have hlt := List.snd_lt_add_of_mem_zipIdx hl
    have hstay : ¬ before.length < n := by omega
    simp [makeRoom, hstay]
  · refine List.map_congr_left ?_
    rintro ⟨s, n⟩ hl
    have hle := List.le_snd_of_mem_zipIdx hl
    have hmove : before.length < n := by omega
    simp [makeRoom, hmove]

/-- An idle line leaves the lines that say something, and makes room for itself. -/
theorem numbered_insert {ls ms : List (List Char)} {before after : List (List Char)}
    {s : List Char} (hs : Line.isIdle s = true) (hls : ls.map Text.trim = before ++ after)
    (hms : ms.map Text.trim = before ++ s :: after) :
    numbered 1 ms = (numbered 1 ls).map (Prod.map id (makeRoom before.length)) := by
  have hfilter (l : List (List Char × Nat)) :
      (l.filter (!Line.isIdle ·.1)).map (Prod.map id (makeRoom before.length)) =
        (l.map (Prod.map id (makeRoom before.length))).filter (!Line.isIdle ·.1) := by
    rw [List.filter_map]
    rfl
  rw [numbered, numbered, hls, hms, hfilter, zipIdx_makeRoom, List.zipIdx_append,
    List.zipIdx_cons, List.filter_append, List.filter_append,
    List.filter_cons_of_neg (by simp [hs])]

-- Reading goes on after a set, with other numbers.

/-- The error at the line of another number. -/
def Error.renumber (f : Nat → Nat) : Error → Error
  | line n fault => .line (f n) fault
  | unclosed n => .unclosed (f n)

namespace Progress

/-- What has been read when a set was declared before it, and its lines have other numbers. -/
def moved (x : MappingSet) (f : Nat → Nat) (p : Progress) : Progress where
  set := x ++ p.set
  block := p.block.map (Prod.map id f)

variable (x : MappingSet) (f : Nat → Nat) (p : Progress)

@[simp] theorem scope_moved : (p.moved x f).scope = p.scope := by
  obtain ⟨set, block⟩ := p
  cases block <;> rfl

theorem enter_moved (t : Trigger) (a : Action) :
    (p.moved x f).enter t a = (p.enter t a).moved x f := by
  rw [enter, enter, scope_moved]
  simp [moved, MappingSet.append_def]

theorem openMode_moved (n : Nat) (t : Trigger) :
    (p.moved x f).openMode (f n) t = (p.openMode n t).moved x f := by
  simp [moved, openMode, MappingSet.append_def]

theorem say_moved (n : Nat) (l : Line) :
    (p.moved x f).say (f n) l = (p.say n l).map (moved x f) := by
  cases l with
  | map t keys =>
    rw [say, say]
    cases readKeys keys with
    | ok strokes => exact congrArg Except.ok (enter_moved x f p t _)
    | error fault => rfl
  | command t c => exact congrArg Except.ok (enter_moved x f p t _)
  | opening t =>
    obtain ⟨set, block⟩ := p
    cases block with
    | none => exact congrArg Except.ok (openMode_moved x f ⟨set, none⟩ n t)
    | some b => rfl
  | closing =>
    obtain ⟨set, block⟩ := p
    cases block <;> rfl

theorem hear_moved (l : List Char × Nat) :
    (p.moved x f).hear (Prod.map id f l) =
      ((p.hear l).map (moved x f)).mapError (.renumber f) := by
  obtain ⟨s, n⟩ := l
  simp only [hear, Prod.map, id]
  cases Line.read? s with
  | none => rfl
  | some l =>
    simp only [say_moved]
    cases p.say n l <;> rfl

theorem foldlM_moved (ls : List (List Char × Nat)) :
    (ls.map (Prod.map id f)).foldlM hear (p.moved x f) =
      ((ls.foldlM hear p).map (moved x f)).mapError (.renumber f) := by
  induction ls generalizing p with
  | nil => rfl
  | cons l ls ih =>
    rw [List.map_cons, List.foldlM_cons, List.foldlM_cons, hear_moved]
    cases p.hear l with
    | error e => rfl
    | ok p' => exact ih p'

theorem finish_moved :
    (p.moved x f).finish = (p.finish.map (x ++ ·)).mapError (.renumber f) := by
  obtain ⟨set, block⟩ := p
  cases block <;> rfl

theorem finish_foldlM_moved (ls : List (List Char × Nat)) :
    (ls.map (Prod.map id f)).foldlM hear (p.moved x f) >>= finish =
      (((ls.foldlM hear p) >>= finish).map (x ++ ·)).mapError (.renumber f) := by
  rw [foldlM_moved]
  cases ls.foldlM hear p with
  | error e => rfl
  | ok p' => exact finish_moved x f p'

end Progress

/-- A file that was read to its end leaves its set and no open block. -/
theorem foldlM_of_read {a : List Char} {x : MappingSet} (ha : read a = .ok x) :
    (numbered 1 (lines a)).foldlM Progress.hear {} = .ok (Progress.moved x id {}) := by
  rw [read_eq] at ha
  cases hfold : (numbered 1 (lines a)).foldlM Progress.hear {} with
  | error e =>
    rw [hfold] at ha
    cases ha
  | ok p =>
    rw [hfold] at ha
    obtain ⟨set, block⟩ := p
    cases block with
    | none =>
      obtain rfl : set = x := Except.ok.inj ha
      exact congrArg (fun set => Except.ok (Progress.mk set none)) set.append_empty.symm
    | some b => cases ha

theorem read_append {a : List Char} {x : MappingSet} (ha : read a = .ok x) (hline : EndsLine a)
    (b : List Char) :
    read (a ++ b) =
      ((read b).map (x ++ ·)).mapError (.renumber (· + (lines a).length)) := by
  have hnumbered : numbered (1 + (lines a).length) (lines b) =
      (numbered 1 (lines b)).map (Prod.map id (· + (lines a).length)) :=
    numbered_add _ _ _
  rw [read_eq, lines_append hline, numbered_append, List.foldlM_append, foldlM_of_read ha,
    hnumbered, read_eq b]
  exact Progress.finish_foldlM_moved x (· + (lines a).length) {} _

theorem read_insert {t t' : List Char} {before after : List (List Char)} {s : List Char}
    (hs : Line.isIdle s = true) (ht : (lines t).map Text.trim = before ++ after)
    (ht' : (lines t').map Text.trim = before ++ s :: after) :
    read t' = (read t).mapError (.renumber (makeRoom before.length)) := by
  have hmoved := Progress.finish_foldlM_moved {} (makeRoom before.length) {}
    (numbered 1 (lines t))
  rw [read_eq, read_eq, numbered_insert hs ht ht']
  refine hmoved.trans ?_
  cases (numbered 1 (lines t)).foldlM Progress.hear {} >>= Progress.finish <;> rfl

/-- **Mapping files can be put together.**  After a file that is read and whose last line is ended,
another file declares what it declares alone, after the first; or it has its own fault, at a line
that is counted on from those of the first.  A line that is blank or a comment changes nothing,
wherever two texts differ in it, but that the lines after it are counted once more; so it is if a
line is put in before another. -/
theorem files_concatenate :
    (∀ a b x, read a = .ok x → EndsLine a →
      read (a ++ b) = match read b with
        | .ok y => .ok ⟨x.modes ++ y.modes, x.entries ++ y.entries⟩
        | .error e => .error (e.renumber (· + (lines a).length))) ∧
    (∀ (t t' : List Char) (before after : List (List Char)) (s : List Char),
      Line.isIdle s = true → (lines t).map Text.trim = before ++ after →
      (lines t').map Text.trim = before ++ s :: after →
      read t' = (read t).mapError
        (.renumber fun n => if before.length < n then n + 1 else n)) ∧
    ∀ (a l b : List Char), EndsLine a → '\n' ∉ l → Line.isIdle (Text.trim l) = true →
      read (a ++ l ++ '\n' :: b) = (read (a ++ b)).mapError
        (.renumber fun n => if (lines a).length < n then n + 1 else n) := by
  refine ⟨?_, ?_, ?_⟩
  · intro a b x ha hline
    rw [read_append ha hline b]
    cases read b <;> rfl
  · intro t t' before after s hs ht ht'
    exact read_insert hs ht ht'
  · intro a l b hline hl hidle
    have hlines : (lines (a ++ b)).map Text.trim =
        (lines a).map Text.trim ++ (lines b).map Text.trim := by
      rw [lines_append hline, List.map_append]
    have hlines' : (lines (a ++ l ++ '\n' :: b)).map Text.trim =
        (lines a).map Text.trim ++ Text.trim l :: (lines b).map Text.trim := by
      rw [List.append_assoc, lines_append hline, lines_cons hl, List.map_append, List.map_cons,
        trim_dropReturn]
    have hread := read_insert hidle hlines hlines'
    rw [List.length_map] at hread
    exact hread

/-- The second of two files has an unknown key in its second line, inside a block.  A comment in the
block moves the fault down a line; a last line that is blank does not. -/
theorem files_concatenate_inside :
    let a := "map <Up> k\r\n\n".toList
    let opening := "mode <Play> \x7b\n".toList
    let bad := "map <Up> <Hyper>".toList
    let fault : LineFault := .keys (.unknownKey "Hyper")
    read (opening ++ bad) = .error (.line 2 fault) ∧
      read (a ++ (opening ++ bad)) = .error (.line 4 fault) ∧
      read (opening ++ "\t# k\r".toList ++ '\n' :: bad) = .error (.line 3 fault) ∧
      read (opening ++ bad ++ "\n ".toList) = .error (.line 2 fault) := by
  intro a opening bad fault
  have ha : read a = .ok ⟨[], [⟨.global, [.up], .type [.plain (.char 'k')]⟩]⟩ := by
    decide +kernel
  have hbad : read (opening ++ bad) = .error (.line 2 fault) := by decide +kernel
  obtain ⟨hfiles, hidle, hinsert⟩ := files_concatenate
  refine ⟨hbad, ?_, ?_, ?_⟩
  · rw [hfiles a _ _ ha (.inr (by decide)), hbad]
    decide +kernel
  · rw [hinsert opening _ bad (.inr (by decide)) (by decide) (by decide +kernel), hbad]
    decide +kernel
  · rw [hidle (opening ++ bad) _ ["mode <Play> \x7b".toList, bad] [] [] rfl (by decide +kernel)
      (by decide +kernel), hbad]
    decide +kernel

end Mapping

end InlineRemote
