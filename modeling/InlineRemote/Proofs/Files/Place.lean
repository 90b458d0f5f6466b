import InlineRemote.Files.Tree

/-! # Where paths lead

There are no links in a file tree, so the place to which a path leads is read off the path; the tree
decides only whether one gets there.  What the operations do to a tree is told place by place. -/
namespace InlineRemote.FileTree

-- What stands at a place.

theorem lookup_filter {β : Type} (keep : Place → Bool) (l : List (Place × β)) (r : Place) :
    (l.filter fun e => keep e.1).lookup r = if keep r then l.lookup r else none := by
  induction l with
  | nil => simp
  | cons e l ih =>
    obtain ⟨p, b⟩ := e
    rw [List.filter_cons, List.lookup_cons]
    by_cases hr : r = p
    · subst hr
      by_cases hk : keep r <;> simp [hk, ih]
    · rw [beq_eq_false_iff_ne.mpr hr]
      by_cases hk : keep p
      · rw [if_pos hk, List.lookup_cons, beq_eq_false_iff_ne.mpr hr]
        exact ih
      · rw [if_neg hk]
        exact ih

@[simp] theorem node?_root (t : FileTree) : t.node? [] = some .directory := rfl

theorem node?_put (t : FileTree) (p : Place) (n : FileNode) (r : Place) :
    (t.put p n).node? r =
      if r = [] then some .directory else if r = p then some n else t.node? r := by
  rw [node?, node?, put, List.lookup_cons]
  by_cases hr : r = p
  · simp [hr]
  · rw [beq_eq_false_iff_ne.mpr hr, lookup_filter (fun e => decide (e ≠ p))]
    by_cases hroot : r = [] <;> simp [hr, hroot]

theorem node?_remove (t : FileTree) (p r : Place) :
    (t.remove p).node? r = if r ≠ [] ∧ p <+: r then none else t.node? r := by
  rw [node?, node?, remove, lookup_filter fun e => !p.isPrefixOf e]
  by_cases hr : r = []
  · simp [hr]
  · by_cases hp : p <+: r
    · have hp' : p.isPrefixOf r = true := List.isPrefixOf_iff_prefix.mpr hp
      simp only [hr, hp, hp', if_false, ne_eq, not_false_eq_true, and_self, if_true]
      rfl
    · have hp' : p.isPrefixOf r = false := by simpa [← List.isPrefixOf_iff_prefix] using hp
      simp only [hr, hp, hp', if_false, and_false]
      rfl

theorem node?_putDirectory (t : FileTree) (p r : Place) :
    (if t.isDirectory p then t else t.put p .directory).node? r =
      if r = p then some .directory else t.node? r := by
  split
  · next hd =>
    split
    · next hr => simpa [isDirectory, hr] using hd
    · rfl
  · rw [node?_put]
    by_cases hroot : r = []
    · simp [hroot]
    · rw [if_neg hroot]

theorem node?_withDirectories (t : FileTree) (p r : Place) :
    (t.withDirectories p).node? r = if r <+: p then some .directory else t.node? r := by
  have h (ns : List Nat) (t : FileTree) :
      (ns.foldl (fun t n => if t.isDirectory (p.take n) then t else t.put (p.take n) .directory)
        t).node? r = if ∃ n ∈ ns, r = p.take n then some .directory else t.node? r := by
    induction ns generalizing t with
    | nil => simp
    | cons n ns ih =>
      rw [List.foldl_cons, ih, node?_putDirectory]
      by_cases hex : ∃ m ∈ ns, r = p.take m
      · simp [hex]
      · by_cases hr : r = p.take n <;> simp [hex, hr]
  rw [withDirectories, h]
  have hiff : (∃ n ∈ List.range (p.length + 1), r = p.take n) ↔ r <+: p := by
    constructor
    · rintro ⟨n, -, rfl⟩
      exact List.take_prefix n p
    · intro hr
      refine ⟨r.length, ?_, List.prefix_iff_eq_take.mp hr⟩
      have := hr.length_le
      exact List.mem_range.mpr (by omega)
  simp only [hiff]

-- Walking.

/-- The place that a name leads to from a place. -/
def move (p : Place) (n : String) : Place :=
  if n = "" ∨ n = "." then p else if n = ".." then p.dropLast else p ++ [n]

/-- The places that names lead through from a place. -/
def route (p : Place) : List String → List Place
  | [] => []
  | n :: ns => move p n :: route (move p n) ns

/-- The place to which a path leads. -/
def destination (path : String) : Place :=
  (names path).foldl move []

/-- One step of a walk. -/
def enter (t : FileTree) (p : Place) (n : String) : Except Fault Place :=
  if !t.isDirectory p then .error .notDirectory
  else if n = "" ∨ n = "." then .ok p
  else if n = ".." then .ok p.dropLast
  else if isTooLong n then .error .nameTooLong
  else if (t.node? (p ++ [n])).isNone then .error .notFound
  else .ok (p ++ [n])

theorem walk_cons (t : FileTree) (p : Place) (n : String) (ns : List String) :
    t.walk p (n :: ns) = (t.enter p n).bind (t.walk · ns) := by
  rw [walk, enter]
  repeat' split
  all_goals rfl

theorem walk_append (t : FileTree) (p : Place) (ns ms : List String) :
    t.walk p (ns ++ ms) = (t.walk p ns).bind (t.walk · ms) := by
  induction ns generalizing p with
  | nil => rfl
  | cons n ns ih =>
    rw [List.cons_append, walk_cons, walk_cons]
    cases t.enter p n with
    | error fault => rfl
    | ok q => exact ih q

theorem enter_eq_ok {t : FileTree} {p q : Place} {n : String} (h : t.enter p n = .ok q) :
    t.isDirectory p = true ∧ q = move p n := by
  rw [enter] at h
  rw [move]
  split at h
  · cases h
  · next hd =>
    refine ⟨by simpa using hd, ?_⟩
    split at h
    · next hn => rw [if_pos hn, Except.ok.inj h]
    · next hn =>
      rw [if_neg hn]
      split at h
      · next hn => rw [if_pos hn, Except.ok.inj h]
      · next hn =>
        rw [if_neg hn]
        split at h
        · cases h
        · split at h
          · cases h
          · exact (Except.ok.inj h).symm

theorem walk_cons_eq_ok {t : FileTree} {p r : Place} {n : String} {ns : List String}
    (h : t.walk p (n :: ns) = .ok r) :
    t.isDirectory p = true ∧ t.enter p n = .ok (move p n) ∧ t.walk (move p n) ns = .ok r := by
  rw [walk_cons] at h
  cases he : t.enter p n with
  | error fault =>
    rw [he] at h
    cases h
  | ok q =>
    obtain ⟨hd, rfl⟩ := enter_eq_ok he
    rw [he] at h
    exact ⟨hd, rfl, h⟩

theorem walk_eq_ok {t : FileTree} {p r : Place} {ns : List String} (h : t.walk p ns = .ok r) :
    r = ns.foldl move p := by
  induction ns generalizing p with
  | nil =>
    rw [walk] at h
    exact (Except.ok.inj h).symm
  | cons n ns ih => exact ih (walk_cons_eq_ok h).2.2

theorem resolve_eq_ok {t : FileTree} {path : String} {r : Place} (h : t.resolve path = .ok r) :
    t.walk [] (names path) = .ok r ∧ r = destination path := by
  rw [resolve] at h
  split at h
  · cases h
  · split at h
    · cases h
    · exact ⟨h, walk_eq_ok h⟩

theorem isThere_iff {t : FileTree} {path : String} :
    t.isThere path = true ↔ ∃ r, t.resolve path = .ok r := by
  rw [isThere]
  cases t.resolve path with
  | error fault => simp [Except.isOk, Except.toBool]
  | ok r => simp [Except.isOk, Except.toBool]

theorem isDirectory_of_mem_route {t : FileTree} {p r : Place} {ns : List String}
    (h : t.walk p ns = .ok r) (hr : t.isDirectory r = true) :
    ∀ q ∈ route p ns, t.isDirectory q = true := by
  induction ns generalizing p with
  | nil => simp [route]
  | cons n ns ih =>
    obtain ⟨-, -, hw⟩ := walk_cons_eq_ok h
    intro q hq
    rcases List.mem_cons.mp hq with rfl | hq
    · cases ns with
      | nil =>
        obtain rfl := Except.ok.inj hw
        exact hr
      | cons m ms => exact (walk_cons_eq_ok hw).1
    · exact ih hw q hq

-- Creating directories.

/-- One step of the creation of directories; the fault depends on whether it is the last. -/
def ensure (t : FileTree) (p : Place) (n : String) (last : Bool) : Except Fault FileTree :=
  if !t.isDirectory p then .error .notDirectory
  else if n = "" ∨ n = "." then .ok t
  else if n = ".." then .ok t
  else if isTooLong n then .error .nameTooLong
  else
    match t.node? (p ++ [n]) with
    | none => .ok (t.put (p ++ [n]) .directory)
    | some .directory => .ok t
    | some _ => .error (if last then .alreadyExists else .notDirectory)

theorem makeAlong_cons (t : FileTree) (p : Place) (n : String) (ns : List String) :
    t.makeAlong p (n :: ns) = (t.ensure p n (ns = [])).bind (·.makeAlong (move p n) ns) := by
  rw [makeAlong, ensure, move]
  repeat' split
  all_goals first | rfl | simp_all

theorem ensure_of_enter {t : FileTree} {p : Place} {n : String} (last : Bool)
    (h : t.enter p n = .ok (move p n)) (hd : t.isDirectory (move p n) = true) :
    t.ensure p n last = .ok t := by
  rw [enter] at h
  rw [move] at hd
  rw [ensure]
  split at h
  · cases h
  · next hp =>
    rw [if_neg hp]
    split at h
    · next hn => rw [if_pos hn]
    · next hn =>
      rw [if_neg hn]
      rw [if_neg hn] at hd
      split at h
      · next hn => rw [if_pos hn]
      · next hn =>
        rw [if_neg hn]
        rw [if_neg hn] at hd
        split at h
        · cases h
        · next hlong =>
          rw [if_neg hlong]
          have hnode : t.node? (p ++ [n]) = some .directory := by simpa [isDirectory] using hd
          rw [hnode]

theorem makeAlong_of_walk {t : FileTree} {p r : Place} {ns : List String}
    (h : t.walk p ns = .ok r) (hr : t.isDirectory r = true) : t.makeAlong p ns = .ok t := by
  induction ns generalizing p with
  | nil => rfl
  | cons n ns ih =>
    have hroute := isDirectory_of_mem_route h hr
    obtain ⟨-, he, hw⟩ := walk_cons_eq_ok h
    rw [makeAlong_cons, ensure_of_enter _ he (hroute _ List.mem_cons_self)]
    exact ih hw

end InlineRemote.FileTree
