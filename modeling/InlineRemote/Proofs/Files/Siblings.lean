import InlineRemote.Proofs.Files.Place

/-! # Files in one directory

The names on a path to a file of a directory are those of the directory and the name of the file.
So where one file of the directory can be reached there is nothing to create for another. -/
namespace InlineRemote

/-- A name that stands for something else than where one is or where one came from. -/
def Path.IsOrdinary (name : String) : Prop :=
  '/' ∉ name.toList ∧ name ≠ "" ∧ name ≠ "." ∧ name ≠ ".."

instance (name : String) : Decidable (Path.IsOrdinary name) :=
  inferInstanceAs (Decidable (_ ∧ _))

namespace Path

theorem isAbsolute_eq_false {p : List Char} (h : '/' ∉ p) : isAbsolute p = false :=
  decide_eq_false fun habs => h (List.mem_of_mem_head? habs)

/-- A directory with the slash that separates it from a file in it. -/
def stem (dir : List Char) : List Char :=
  if dir = [] ∨ dir.getLast? = some '/' then dir else dir ++ ['/']

theorem join_eq_stem (dir : List Char) {p : List Char} (hp : isAbsolute p = false) :
    join dir p = stem dir ++ p := by
  rw [join, stem, hp, if_neg Bool.false_ne_true]
  split
  · rfl
  · rw [List.append_assoc, List.singleton_append]

theorem stem_cases (dir : List Char) : stem dir = [] ∨ ∃ upper, stem dir = upper ++ ['/'] := by
  rw [stem]
  split
  · next h =>
    rcases h with rfl | h
    · exact .inl rfl
    · exact .inr (List.getLast?_eq_some_iff.mp h)
  · exact .inr ⟨dir, rfl⟩

/-- What is dropped at the end of a reversed path is empty or was set off by a slash. -/
theorem dropTrailing_cases (s : List Char) :
    dropTrailing s = s ∨ ∃ x, s = x ++ '/' :: dropTrailing s := by
  fun_induction dropTrailing s with
  | case1 s ih =>
    rcases ih with ih | ⟨x, ih⟩
    · exact .inr ⟨[], by rw [ih]; rfl⟩
    · exact .inr ⟨'/' :: x, congrArg ('/' :: ·) ih⟩
  | case2 => exact .inl rfl
  | case3 s ih =>
    rcases ih with ih | ⟨x, ih⟩
    · exact .inr ⟨['.'], by rw [ih]; rfl⟩
    · exact .inr ⟨'.' :: '/' :: x, congrArg ('.' :: '/' :: ·) ih⟩
  | case4 => exact .inl rfl

theorem dropTrailing_name {n : List Char} (s : List Char) (hslash : '/' ∉ n) (hempty : n ≠ [])
    (hdot : n ≠ ['.']) : dropTrailing (n ++ s) = n ++ s := by
  match n, hempty with
  | [c], _ =>
    have hc : c ≠ '/' := fun h => hslash (by simp [h])
    have hc' : c ≠ '.' := fun h => hdot (by rw [h])
    unfold dropTrailing
    split <;> simp_all
  | c :: c' :: n, _ =>
    have hc : c ≠ '/' := fun h => hslash (by simp [h])
    have hc' : c' ≠ '/' := fun h => hslash (by simp [h])
    unfold dropTrailing
    split <;> simp_all

theorem parent?_stem (dir : List Char) {n : List Char} (hslash : '/' ∉ n) (hempty : n ≠ [])
    (hdot : n ≠ ['.']) :
    parent? (stem dir ++ n) =
      some (if dropTrailing (stem dir).reverse = [] ∧ isAbsolute (stem dir ++ n) = true then ['/']
        else (dropTrailing (stem dir).reverse).reverse) := by
  have hname : ∀ c ∈ n.reverse, decide (c ≠ '/') = true := by
    intro c hc
    refine decide_eq_true fun h => hslash ?_
    rw [← h]
    exact List.mem_reverse.mp hc
  have hdrop : (n.reverse ++ (stem dir).reverse).dropWhile (· ≠ '/') = (stem dir).reverse := by
    rw [List.dropWhile_append_of_pos hname]
    rcases stem_cases dir with hs | ⟨upper, hs⟩ <;> rw [hs]
    · rfl
    · simp
  have htrail : dropTrailing (stem dir ++ n).reverse = n.reverse ++ (stem dir).reverse := by
    rw [List.reverse_append, dropTrailing_name _ (by simpa using hslash) (by simpa using hempty)
      fun h => hdot (by simpa using congrArg List.reverse h)]
  rw [parent?, htrail]
  split
  · next h => simp_all
  · rw [hdrop]
    simp only [List.reverse_eq_nil_iff]

end Path

namespace FileTree

-- The names on a path.

theorem names_slash (a b : List Char) :
    names (.ofList (a ++ '/' :: b)) = names (.ofList a) ++ names (.ofList b) := by
  simp only [names, String.toList_ofList, List.splitOn_append_cons_self, List.map_append]

theorem names_plain {name : String} (h : '/' ∉ name.toList) : names name = [name] := by
  rw [names, List.splitOn_eq_singleton h, List.map_singleton, String.ofList_toList]

theorem names_stem (dir : List Char) : ∃ upper, names (.ofList (Path.stem dir)) = upper ++ [""] ∧
    ∀ name, '/' ∉ name.toList →
      names (.ofList (Path.stem dir ++ name.toList)) = upper ++ [name] := by
  rcases Path.stem_cases dir with hs | ⟨upper, hs⟩ <;> rw [hs]
  · refine ⟨[], rfl, fun name hname => ?_⟩
    rw [List.nil_append, String.ofList_toList, names_plain hname, List.nil_append]
  · refine ⟨names (.ofList upper), names_slash upper [], fun name hname => ?_⟩
    rw [List.append_assoc, List.singleton_append, names_slash, String.ofList_toList,
      names_plain hname]

theorem names_parent? {dir : List Char} {upper : List String} {name : String} {up : List Char}
    (hupper : names (.ofList (Path.stem dir)) = upper ++ [""]) (hname : Path.IsOrdinary name)
    (hup : Path.parent? (Path.stem dir ++ name.toList) = some up) :
    names (.ofList up) <+: upper ++ [""] ∨ names (.ofList up) = ["", ""] := by
  have hempty : name.toList ≠ [] := by simpa using hname.2.1
  have hdot : name.toList ≠ ['.'] := fun h => hname.2.2.1 (String.toList_inj.mp h)
  rw [Path.parent?_stem dir hname.1 hempty hdot] at hup
  have hup := Option.some.inj hup
  split at hup
  · exact .inr (hup ▸ rfl)
  · rcases Path.dropTrailing_cases (Path.stem dir).reverse with hd | ⟨x, hd⟩
    · rw [hd, List.reverse_reverse] at hup
      rw [← hupper, hup]
      exact .inl (List.prefix_refl _)
    · have hstem := congrArg List.reverse hd
      rw [List.reverse_reverse, List.reverse_append, List.reverse_cons, hup, List.append_assoc,
        List.singleton_append] at hstem
      rw [← hupper, hstem, names_slash]
      exact .inl (List.prefix_append _ _)

/-- A path to a file by the names of its directory and its own name. -/
structure IsFile (path : String) (upper : List String) (name : String) : Prop where
  names_eq : names path = upper ++ [name]
  ordinary : Path.IsOrdinary name
  parent : ∀ up, Path.parent? path.toList = some up →
    names (.ofList up) <+: upper ++ [""] ∨ names (.ofList up) = ["", ""]

theorem exists_isFile (dir : String) : ∃ upper, ∀ name, Path.IsOrdinary name →
    IsFile (Path.joinText dir name) upper name := by
  obtain ⟨upper, hstem, hfile⟩ := names_stem dir.toList
  refine ⟨upper, fun name hname => ?_⟩
  have hjoin : Path.joinText dir name = .ofList (Path.stem dir.toList ++ name.toList) := by
    rw [Path.joinText, Path.join_eq_stem _ (Path.isAbsolute_eq_false hname.1)]
  refine ⟨by rw [hjoin, hfile name hname.1], hname, fun up hup => ?_⟩
  rw [hjoin, String.toList_ofList] at hup
  exact names_parent? hstem hname hup

end FileTree

end InlineRemote
