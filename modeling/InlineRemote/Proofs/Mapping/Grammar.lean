import InlineRemote.Mapping.File
import InlineRemote.Proofs.Mapping.Line
import Mathlib.Data.List.Chain
import Mathlib.Data.List.Forall2

/-! # The grammar of mapping files

The lines of a file that say something are bindings and brackets, and the brackets alternate: a mode
is opened, and closed before the next.  Such a file declares what its lines say, in their order.  Of
any other file the first line at fault decides, or the mode that is never closed. -/
namespace InlineRemote.Mapping

-- The lines of a text.

/-- A line without the carriage return that belongs to its end. -/
def dropReturn (line : List Char) : List Char :=
  if line.getLast? = some '\r' then line.dropLast else line

/-- The lines of a text.  A line ends with a line feed, before which a carriage return may stand;
the last one may end with the text. -/
def lines (text : List Char) : List (List Char) :=
  (text.splitOn '\n').dropLast.map dropReturn ++
    ((text.splitOn '\n').getLast?.filter (· ≠ [])).toList

/-- The lines that say something, trimmed, each with its number. -/
def numbered (first : Nat) (ls : List (List Char)) : List (List Char × Nat) :=
  ((ls.map Text.trim).zipIdx first).filter (!Line.isIdle ·.1)

theorem trim_concat {c : Char} (hc : Text.isBlank c = true) (s : List Char) :
    Text.trim (s ++ [c]) = Text.trim s := by
  rw [Text.trim, Text.trim, List.dropWhile_append]
  split
  · next h =>
    rw [List.isEmpty_iff.mp h]
    simp [Text.trimEnd, hc]
  · simp [Text.trimEnd, hc]

@[simp] theorem trim_dropReturn (s : List Char) : Text.trim (dropReturn s) = Text.trim s := by
  rw [dropReturn]
  split
  · next h =>
    rw [← trim_concat (c := '\r') (by decide), List.dropLast_append_getLast? '\r' h]
  · rfl

theorem numbered_append (first : Nat) (ls ms : List (List Char)) :
    numbered first (ls ++ ms) = numbered first ls ++ numbered (first + ls.length) ms := by
  rw [numbered, List.map_append, List.zipIdx_append, List.filter_append, List.length_map]
  rfl

/-- Trimming takes care of carriage returns, and nothing after the last line end is no line. -/
theorem numbered_lines (first : Nat) (text : List Char) :
    numbered first (lines text) = numbered first (text.splitOn '\n') := by
  have hne : text.splitOn '\n' ≠ [] := List.splitOn_ne_nil _ _
  have hreturns (ls : List (List Char)) :
      numbered first (ls.map dropReturn) = numbered first ls := by
    rw [numbered, numbered, List.map_map]
    exact congrArg (fun ls => (List.zipIdx ls first).filter (!Line.isIdle ·.1))
      (List.map_congr_left fun l _ => trim_dropReturn l)
  have hlast (n : Nat) (l : List Char) :
      numbered n ((some l).filter (· ≠ [])).toList = numbered n [l] := by
    by_cases hl : l = []
    · rw [hl]
      rfl
    · rw [Option.filter_some, if_pos (by simpa using hl)]
      rfl
  rw [lines, List.getLast?_eq_some_getLast hne, numbered_append, hreturns, List.length_map, hlast,
    ← numbered_append, List.dropLast_append_getLast hne]

theorem trimmed_of_mem_numbered {first : Nat} {ls : List (List Char)} :
    ∀ l ∈ numbered first ls, Text.Trimmed l.1 := by
  intro l hl
  have hmem := List.fst_mem_of_mem_zipIdx (List.mem_of_mem_filter hl)
  obtain ⟨raw, -, hraw⟩ := List.mem_map.mp hmem
  rw [← hraw]
  exact Text.trimmed_trim raw

-- What lines say.

/-- What a line says once its keys are read. -/
inductive Statement where
  | bind (trigger : Trigger) (action : Action)
  | opening (trigger : Trigger)
  | closing
  deriving DecidableEq, Repr

/-- What a line means: it has one of the four forms, and its keys can be read. -/
inductive Means : List Char × Nat → Statement → Prop
  | map {s : List Char} {n : Nat} {t : Trigger} {keys : List Char} {strokes : List Stroke}
      (h : (Line.map t keys).Form s) (hkeys : readKeys keys = .ok strokes) :
      Means (s, n) (.bind t (.type strokes))
  | command {s : List Char} {n : Nat} {t : Trigger} {c : List Char}
      (h : (Line.command t c).Form s) : Means (s, n) (.bind t (.run (String.ofList c)))
  | opening {s : List Char} {n : Nat} {t : Trigger} (h : (Line.opening t).Form s) :
      Means (s, n) (.opening t)
  | closing {s : List Char} {n : Nat} (h : Line.closing.Form s) : Means (s, n) .closing

/-- Whether a statement opens or closes a mode, if it does either. -/
def Statement.opens? : Statement → Option Bool
  | .bind .. => none
  | .opening _ => some true
  | .closing => some false

/-- The brackets among statements: whether each opens a mode. -/
def brackets (xs : List Statement) : List Bool :=
  xs.filterMap Statement.opens?

/-- Brackets alternate, and the first of them opens a mode. -/
def Alternate (bs : List Bool) : Prop :=
  bs.IsChain (· ≠ ·) ∧ bs.head? ≠ some false

/-- The mode that a statement declares. -/
def Statement.mode? : Statement → Option ModeId
  | .opening t => some ⟨t.text⟩
  | _ => none

/-- The entries of statements, the first of which stands in a scope.  A mode is activated
everywhere, and deactivated inside. -/
def entries (s : Scope) : List Statement → List Entry
  | [] => []
  | .bind t a :: xs => ⟨s, t, a⟩ :: entries s xs
  | .opening t :: xs =>
    ⟨.global, t, .activate ⟨t.text⟩⟩ :: ⟨.mode ⟨t.text⟩, t, .deactivate ⟨t.text⟩⟩ ::
      entries (.mode ⟨t.text⟩) xs
  | .closing :: xs => entries .global xs

def Statement.next (s : Scope) : Statement → Scope
  | .bind .. => s
  | .opening t => .mode ⟨t.text⟩
  | .closing => .global

theorem entries_cons (s : Scope) (x : Statement) (xs : List Statement) :
    entries s (x :: xs) = entries s [x] ++ entries (x.next s) xs := by
  cases x <;> rfl

theorem brackets_cons (x : Statement) (xs : List Statement) :
    brackets (x :: xs) = x.opens?.toList ++ brackets xs := by
  cases x <;> rfl

def declared (xs : List Statement) : MappingSet :=
  ⟨xs.filterMap Statement.mode?, entries .global xs⟩

/-- What is wrong with a line, inside the block of a mode or not. -/
inductive Offends (inside : Bool) (s : List Char) : LineFault → Prop
  | malformed (h : ∀ l : Line, ¬ l.Form s) : Offends inside s (.malformed (String.ofList s))
  | keys {t : Trigger} {keys : List Char} {fault : KeyFault} (h : (Line.map t keys).Form s)
      (hkeys : readKeys keys = .error fault) : Offends inside s (.keys fault)
  | nested {t : Trigger} (h : (Line.opening t).Form s) (hinside : inside = true) :
      Offends inside s .nested
  | unopened (h : Line.closing.Form s) (hinside : inside = false) : Offends inside s .unopened

/-- A file declares a set: its lines say something each, and its brackets alternate up to a last one
that closes a mode. -/
structure Accepted (ls : List (List Char × Nat)) (set : MappingSet) (xs : List Statement) :
    Prop where
  means : List.Forall₂ Means ls xs
  alternate : Alternate (brackets xs)
  closed : (brackets xs).getLast? ≠ some true
  declared : set = declared xs

/-- Why a file is refused: a line is at fault after others that are not, or a mode is opened and no
bracket comes after it. -/
inductive Refused (ls : List (List Char × Nat)) : Error → Prop
  | line {before after : List (List Char × Nat)} {s : List Char} {n : Nat} {xs : List Statement}
      {fault : LineFault} (hlines : ls = before ++ (s, n) :: after)
      (hbefore : List.Forall₂ Means before xs) (halternate : Alternate (brackets xs))
      (h : Offends ((brackets xs).getLast? = some true) s fault) : Refused ls (.line n fault)
  | unclosed {before after : List (List Char × Nat)} {s : List Char} {n : Nat} {t : Trigger}
      {xs ys : List Statement} (hlines : ls = before ++ (s, n) :: after)
      (hbefore : List.Forall₂ Means before xs) (halternate : Alternate (brackets xs ++ [true]))
      (h : (Line.opening t).Form s) (hafter : List.Forall₂ Means after ys)
      (hnone : brackets ys = []) : Refused ls (.unclosed n)

-- Reading as a fold.

/-- What a numbered line adds to what was read before it. -/
def Progress.hear (p : Progress) (l : List Char × Nat) : Except Error Progress :=
  match Line.read? l.1 with
  | none => .error (.line l.2 (.malformed (String.ofList l.1)))
  | some x => (p.say l.2 x).mapError (.line l.2)

theorem Progress.readLines_eq (p : Progress) (n : Nat) (ls : List (List Char)) :
    p.readLines n ls = (numbered n ls).foldlM hear p := by
  induction ls generalizing p n with
  | nil => rfl
  | cons l ls ih =>
    have hcons : numbered n (l :: ls) =
        ((Text.trim l, n) :: ((ls.map Text.trim).zipIdx (n + 1))).filter (!Line.isIdle ·.1) := rfl
    rw [readLines, readLine, hcons]
    by_cases hidle : Line.isIdle (Text.trim l) = true
    · rw [if_pos hidle, List.filter_cons_of_neg (by simp [hidle])]
      exact ih p (n + 1)
    · rw [if_neg hidle, List.filter_cons_of_pos (by simp [hidle]), List.foldlM_cons, hear]
      cases Line.read? (Text.trim l) with
      | none => rfl
      | some x =>
        cases hsay : p.say n x with
        | error fault =>
          simp only [hsay]
          rfl
        | ok p' =>
          simp only [hsay]
          exact ih p' (n + 1)

namespace Progress

variable {p : Progress}

theorem hear_of_form {l : Line} {s : List Char} (h : l.Form s) (n : Nat) :
    p.hear (s, n) = (p.say n l).mapError (.line n) := by
  rw [hear, Line.read?_of_form h]

/-- A progress after statements: they are declared, and a block is open if the last bracket opened
it. -/
structure After (p : Progress) (xs : List Statement) (p' : Progress) : Prop where
  modes : p'.set.modes = p.set.modes ++ xs.filterMap Statement.mode?
  entries : p'.set.entries = p.set.entries ++ Mapping.entries p.scope xs
  scope : p'.scope = xs.foldl Statement.next p.scope
  inside : p'.block.isSome = (brackets xs).getLast?.getD p.block.isSome
  block : brackets xs = [] → p'.block = p.block

theorem After.nil (p : Progress) : p.After [] p where
  modes := (List.append_nil _).symm
  entries := (List.append_nil _).symm
  scope := rfl
  inside := rfl
  block _ := rfl

theorem After.cons {x : Statement} {xs : List Statement} {p₁ p₂ : Progress} (h : p.After [x] p₁)
    (h' : p₁.After xs p₂) : p.After (x :: xs) p₂ where
  modes := by
    rw [h'.modes, h.modes, List.append_assoc, ← List.filterMap_append]
    rfl
  entries := by
    rw [h'.entries, h.entries, h.scope, List.append_assoc, entries_cons p.scope x xs]
    rfl
  scope := by
    rw [h'.scope, h.scope]
    rfl
  inside := by
    rw [h'.inside, h.inside, brackets_cons x [], brackets_cons x xs, List.getLast?_append,
      List.getLast?_append]
    cases (brackets xs).getLast? <;> rfl
  block hnone := by
    rw [brackets_cons, List.append_eq_nil_iff] at hnone
    rw [h'.block hnone.2, h.block (by rw [brackets_cons, hnone.1]; rfl)]

theorem hear_of_means {s : List Char} {n : Nat} {x : Statement} (h : Means (s, n) x)
    (hx : ∀ b ∈ x.opens?, p.block.isSome ≠ b) :
    ∃ p', p.hear (s, n) = .ok p' ∧ p.After [x] p' := by
  cases h with
  | @map _ _ t _ strokes h hkeys =>
    refine ⟨p.enter t (.type strokes), by rw [hear_of_form h, say, hkeys]; rfl, ?_⟩
    exact ⟨(List.append_nil _).symm, rfl, rfl, rfl, fun _ => rfl⟩
  | @command _ _ t c h =>
    refine ⟨p.enter t (.run (String.ofList c)), by rw [hear_of_form h, say]; rfl, ?_⟩
    exact ⟨(List.append_nil _).symm, rfl, rfl, rfl, fun _ => rfl⟩
  | @opening _ _ t h =>
    have hblock : p.block = none := by simpa using hx true rfl
    refine ⟨p.openMode n t, by rw [hear_of_form h, say, hblock]; rfl, ?_⟩
    exact ⟨rfl, rfl, rfl, rfl, fun hnone => by cases hnone⟩
  | closing h =>
    have hopen : p.block.isSome = true := eq_true_of_ne_false (hx false rfl)
    obtain ⟨b, hblock⟩ := Option.isSome_iff_exists.mp hopen
    refine ⟨{ p with block := none }, by rw [hear_of_form h, say, hblock]; rfl, ?_⟩
    exact ⟨(List.append_nil _).symm, (List.append_nil _).symm, rfl, rfl,
      fun hnone => by cases hnone⟩

/-- Lines that mean something are declared, if their brackets alternate with the open block. -/
theorem foldlM_of_means {ls : List (List Char × Nat)} {xs : List Statement}
    (h : List.Forall₂ Means ls xs) {p : Progress}
    (hchain : (p.block.isSome :: brackets xs).IsChain (· ≠ ·)) :
    ∃ p', ls.foldlM hear p = .ok p' ∧ p.After xs p' := by
  induction h generalizing p with
  | nil => exact ⟨p, rfl, .nil p⟩
  | @cons l x ls xs hl _ ih =>
    rw [brackets_cons, ← List.cons_append, List.isChain_append] at hchain
    obtain ⟨hx, hxs, hjoin⟩ := hchain
    have hmay : ∀ b ∈ x.opens?, p.block.isSome ≠ b := by
      intro b hb
      rw [hb, Option.toList_some, List.isChain_pair] at hx
      exact hx
    obtain ⟨p₁, hhear, hp₁⟩ := hear_of_means hl hmay
    have hchain₁ : (p₁.block.isSome :: brackets xs).IsChain (· ≠ ·) := by
      rw [List.isChain_cons]
      refine ⟨fun b hb => hjoin _ ?_ b hb, hxs⟩
      rw [hp₁.inside, brackets_cons]
      cases x.opens? <;> rfl
    obtain ⟨p₂, hfold, hp₂⟩ := ih hchain₁
    refine ⟨p₂, ?_, hp₁.cons hp₂⟩
    rw [List.foldlM_cons, hhear]
    exact hfold

theorem hear_of_offends {s : List Char} (hs : Text.Trimmed s) (n : Nat) {fault : LineFault}
    (h : Offends p.block.isSome s fault) : p.hear (s, n) = .error (.line n fault) := by
  cases h with
  | malformed h =>
    have hread : Line.read? s = none :=
      Option.eq_none_iff_forall_ne_some.mpr fun l hl => h l ((Line.read?_eq_some_iff hs).mp hl)
    rw [hear, hread]
  | keys h hkeys =>
    rw [hear_of_form h, say, hkeys]
    rfl
  | nested h hinside =>
    obtain ⟨b, hblock⟩ := Option.isSome_iff_exists.mp hinside
    rw [hear_of_form h, say, hblock]
    rfl
  | unopened h hinside =>
    rw [Option.isSome_eq_false_iff, Option.isNone_iff_eq_none] at hinside
    rw [hear_of_form h, say, hinside]
    rfl

end Progress

-- Every file is accepted or refused.

theorem means_or_offends (inside : Bool) (l : List Char × Nat) :
    (∃ x, Means l x ∧ ∀ b ∈ x.opens?, inside ≠ b) ∨ ∃ fault, Offends inside l.1 fault := by
  obtain ⟨s, n⟩ := l
  by_cases h : ∃ l : Line, l.Form s
  · obtain ⟨l, h⟩ := h
    cases l with
    | map t keys =>
      cases hkeys : readKeys keys with
      | ok strokes => exact .inl ⟨_, .map h hkeys, by rintro b ⟨⟩⟩
      | error fault => exact .inr ⟨_, .keys h hkeys⟩
    | command t c => exact .inl ⟨_, .command h, by rintro b ⟨⟩⟩
    | opening t =>
      cases inside with
      | false => exact .inl ⟨_, .opening h, by rintro b ⟨⟩; decide⟩
      | true => exact .inr ⟨_, .nested h rfl⟩
    | closing =>
      cases inside with
      | false => exact .inr ⟨_, .unopened h rfl⟩
      | true => exact .inl ⟨_, .closing h, by rintro b ⟨⟩; decide⟩
  · exact .inr ⟨_, .malformed fun l hl => h ⟨l, hl⟩⟩

/-- All lines mean something and their brackets alternate, or one is the first at fault. -/
theorem means_or_first_offends (inside : Bool) (ls : List (List Char × Nat)) :
    (∃ xs, List.Forall₂ Means ls xs ∧ (inside :: brackets xs).IsChain (· ≠ ·)) ∨
    ∃ before s n after xs fault, ls = before ++ (s, n) :: after ∧ List.Forall₂ Means before xs ∧
      (inside :: brackets xs).IsChain (· ≠ ·) ∧
      Offends ((brackets xs).getLast?.getD inside) s fault := by
  induction ls generalizing inside with
  | nil => exact .inl ⟨[], .nil, List.isChain_singleton _⟩
  | cons l ls ih =>
    rcases means_or_offends inside l with ⟨x, hx, hmay⟩ | ⟨fault, h⟩
    · -- The rest is read inside the block that this line leaves open.
      have hchain (xs : List Statement)
          (h : (x.opens?.getD inside :: brackets xs).IsChain (· ≠ ·)) :
          (inside :: brackets (x :: xs)).IsChain (· ≠ ·) := by
        rw [brackets_cons]
        cases hb : x.opens? with
        | none =>
          rw [hb] at h
          exact h
        | some b =>
          rw [hb] at h
          exact List.isChain_cons_cons.mpr ⟨hmay b hb, h⟩
      have hlast (xs : List Statement) : (brackets (x :: xs)).getLast?.getD inside =
          (brackets xs).getLast?.getD (x.opens?.getD inside) := by
        rw [brackets_cons, List.getLast?_append]
        cases (brackets xs).getLast? <;> cases x.opens? <;> rfl
      rcases ih (x.opens?.getD inside) with ⟨xs, hxs, h⟩ | ⟨before, s, n, after, xs, fault, h⟩
      · exact .inl ⟨x :: xs, .cons hx hxs, hchain xs h⟩
      · obtain ⟨rfl, hbefore, h, hoffends⟩ := h
        refine .inr ⟨l :: before, s, n, after, x :: xs, fault, rfl, .cons hx hbefore,
          hchain xs h, ?_⟩
        rw [hlast]
        exact hoffends
    · exact .inr ⟨[], l.1, l.2, ls, [], fault, rfl, .nil, List.isChain_singleton _, h⟩

theorem exists_last_opening {ls : List (List Char × Nat)} {xs : List Statement}
    (h : List.Forall₂ Means ls xs) (hlast : (brackets xs).getLast? = some true) :
    ∃ before s n t after ys zs, ls = before ++ (s, n) :: after ∧ xs = ys ++ .opening t :: zs ∧
      List.Forall₂ Means before ys ∧ (Line.opening t).Form s ∧ List.Forall₂ Means after zs ∧
      brackets zs = [] := by
  induction h with
  | nil => cases hlast
  | @cons l x ls xs hl hls ih =>
    by_cases hnone : brackets xs = []
    · rw [brackets_cons, hnone, List.append_nil] at hlast
      cases hl with
      | @opening s n t h => exact ⟨[], s, n, t, ls, [], xs, rfl, rfl, .nil, h, hls, hnone⟩
      | map => cases hlast
      | command => cases hlast
      | closing => cases hlast
    · rw [brackets_cons, List.getLast?_append_of_ne_nil _ hnone] at hlast
      obtain ⟨before, s, n, t, after, ys, zs, rfl, rfl, hys, h, hzs, hnone⟩ := ih hlast
      exact ⟨l :: before, s, n, t, after, x :: ys, zs, rfl, rfl, .cons hl hys, h, hzs, hnone⟩

theorem alternate_iff {bs : List Bool} : Alternate bs ↔ (false :: bs).IsChain (· ≠ ·) := by
  rw [Alternate, List.isChain_cons, and_comm]
  refine and_congr_left' ⟨?_, ?_⟩
  · rintro h b hb rfl
    exact h hb
  · intro h hb
    exact h false hb rfl

theorem alternate_of_concat {bs : List Bool} (h : Alternate (bs ++ [true])) :
    Alternate bs ∧ bs.getLast? ≠ some true := by
  rw [alternate_iff, ← List.cons_append, List.isChain_append] at h
  obtain ⟨hbs, -, hjoin⟩ := h
  refine ⟨alternate_iff.mpr hbs, fun hlast => ?_⟩
  rw [List.getLast?_cons, hlast] at hjoin
  exact hjoin true rfl true rfl rfl

theorem last_getD (bs : List Bool) : bs.getLast?.getD false = decide (bs.getLast? = some true) := by
  cases bs.getLast? with
  | none => rfl
  | some b => cases b <;> rfl

theorem accepted_or_refused (ls : List (List Char × Nat)) :
    (∃ set xs, Accepted ls set xs) ∨ ∃ e, Refused ls e := by
  rcases means_or_first_offends false ls with ⟨xs, hxs, hchain⟩ | h
  · rw [← alternate_iff] at hchain
    by_cases hlast : (brackets xs).getLast? = some true
    · obtain ⟨before, s, n, t, after, ys, zs, rfl, rfl, hys, h, hzs, hnone⟩ :=
        exists_last_opening hxs hlast
      refine .inr ⟨_, .unclosed rfl hys ?_ h hzs hnone⟩
      rw [brackets, List.filterMap_append, ← brackets, ← brackets, brackets_cons, hnone] at hchain
      exact hchain
    · exact .inl ⟨_, xs, hxs, hchain, hlast, rfl⟩
  · obtain ⟨before, s, n, after, xs, fault, rfl, hbefore, hchain, h⟩ := h
    rw [last_getD] at h
    exact .inr ⟨_, .line rfl hbefore (alternate_iff.mpr hchain) h⟩

-- Reading decides between the two.

theorem read_eq (text : List Char) :
    read text = (numbered 1 (lines text)).foldlM Progress.hear {} >>= Progress.finish := by
  rw [read, Progress.readLines_eq, numbered_lines]
  cases (numbered 1 (text.splitOn '\n')).foldlM Progress.hear {} <;> rfl

theorem inside_eq {xs : List Statement} {p : Progress} (h : Progress.After {} xs p) :
    p.block.isSome = decide ((brackets xs).getLast? = some true) := by
  rw [h.inside, ← last_getD]
  rfl

theorem block_eq_none {xs : List Statement} {p : Progress} (h : Progress.After {} xs p)
    (hlast : (brackets xs).getLast? ≠ some true) : p.block = none := by
  have hinside := inside_eq h
  rw [decide_eq_false hlast, Option.isSome_eq_false_iff] at hinside
  exact Option.isNone_iff_eq_none.mp hinside

theorem foldlM_of_alternate {ls : List (List Char × Nat)} {xs : List Statement}
    (h : List.Forall₂ Means ls xs) (halternate : Alternate (brackets xs)) :
    ∃ p, ls.foldlM Progress.hear {} = .ok p ∧ Progress.After {} xs p :=
  Progress.foldlM_of_means h (alternate_iff.mp halternate)

theorem read_of_accepted {text : List Char} {set : MappingSet} {xs : List Statement}
    (h : Accepted (numbered 1 (lines text)) set xs) : read text = .ok set := by
  obtain ⟨p, hfold, hp⟩ := foldlM_of_alternate h.means h.alternate
  have hset : p.set = set := by
    rw [h.declared]
    exact congrArg₂ MappingSet.mk hp.modes hp.entries
  rw [read_eq, hfold, ← hset]
  show p.finish = .ok p.set
  rw [Progress.finish, block_eq_none hp h.closed]

theorem read_of_refused {text : List Char} {e : Error}
    (h : Refused (numbered 1 (lines text)) e) : read text = .error e := by
  rw [read_eq]
  cases h with
  | @line before after s n xs fault hlines hbefore halternate h =>
    obtain ⟨p, hfold, hp⟩ := foldlM_of_alternate hbefore halternate
    have hs : Text.Trimmed s := trimmed_of_mem_numbered (s, n) (by rw [hlines]; simp)
    rw [← inside_eq hp] at h
    rw [hlines, List.foldlM_append, hfold]
    show List.foldlM Progress.hear p ((s, n) :: after) >>= Progress.finish = _
    rw [List.foldlM_cons, Progress.hear_of_offends hs n h]
    rfl
  | @unclosed before after s n t xs ys hlines hbefore halternate h hafter hnone =>
    obtain ⟨halternate, hlast⟩ := alternate_of_concat halternate
    obtain ⟨p, hfold, hp⟩ := foldlM_of_alternate hbefore halternate
    have hopen : p.hear (s, n) = .ok (p.openMode n t) := by
      rw [Progress.hear_of_form h, Progress.say, block_eq_none hp hlast]
      rfl
    obtain ⟨p', hfold', hp'⟩ := Progress.foldlM_of_means hafter
      (p := p.openMode n t) (by rw [hnone]; exact List.isChain_singleton _)
    rw [hlines, List.foldlM_append, hfold]
    show List.foldlM Progress.hear p ((s, n) :: after) >>= Progress.finish = _
    rw [List.foldlM_cons, hopen]
    show List.foldlM Progress.hear (p.openMode n t) after >>= Progress.finish = _
    rw [hfold']
    show p'.finish = _
    rw [Progress.finish, hp'.block hnone]
    rfl

/-- **Reading accepts the grammar.**  A text is read into a set exactly if its lines are accepted
and declare the set, and it is refused with an error exactly if that is why they are refused. -/
theorem read_eq_iff (text : List Char) :
    (∀ set, read text = .ok set ↔ ∃ xs, Accepted (numbered 1 (lines text)) set xs) ∧
      ∀ e, read text = .error e ↔ Refused (numbered 1 (lines text)) e := by
  refine ⟨fun set => ⟨fun h => ?_, fun ⟨xs, h⟩ => read_of_accepted h⟩,
    fun e => ⟨fun h => ?_, read_of_refused⟩⟩
  · rcases accepted_or_refused (numbered 1 (lines text)) with ⟨set', xs, h'⟩ | ⟨e, h'⟩
    · rw [read_of_accepted h'] at h
      obtain rfl := Except.ok.inj h
      exact ⟨xs, h'⟩
    · rw [read_of_refused h'] at h
      cases h
  · rcases accepted_or_refused (numbered 1 (lines text)) with ⟨set', xs, h'⟩ | ⟨e', h'⟩
    · rw [read_of_accepted h'] at h
      cases h
    · rw [read_of_refused h'] at h
      obtain rfl := Except.error.inj h
      exact h'

end InlineRemote.Mapping
