import InlineRemote.Shell.Utility.Call

/-! # Lines in order

Lines are put in order by keys, parts of them that are compared as texts, numbers, months or versions.
Lines whose keys are equal are compared as a whole, unless their order is to stay. -/
namespace InlineRemote.Shell

namespace Utility

/-- How texts are compared. -/
structure SortOrder where
  numeric : Bool := false
  general : Bool := false
  human : Bool := false
  version : Bool := false
  month : Bool := false
  foldCase : Bool := false
  dictionary : Bool := false
  blanks : Bool := false
  reversed : Bool := false
  deriving DecidableEq

/-- A key of a line: where it starts and ends, by fields and characters. -/
structure SortKey where
  field : Nat
  letter : Nat
  lastField : Option Nat
  lastLetter : Nat
  ordering : SortOrder

def SortOrder.ofLetters (cs : List Char) : SortOrder :=
  { numeric := cs.contains 'n', general := cs.contains 'g', human := cs.contains 'h'
    version := cs.contains 'V', month := cs.contains 'M', foldCase := cs.contains 'f'
    dictionary := cs.contains 'd', blanks := cs.contains 'b', reversed := cs.contains 'r' }

def numberAt (s : List Char) : Int :=
  let s := s.dropWhile isGap
  let (minus, s) : Bool × List Char := match s with
    | '-' :: s => (true, s)
    | s => (false, s)
  let whole := s.takeWhile Char.isDigit
  let part := match s.drop whole.length with
    | '.' :: r => (r.takeWhile Char.isDigit).take 6
    | _ => []
  let n : Nat := Text.ofDigits 10 (whole ++ part ++ List.replicate (6 - part.length) '0')
  if minus then -n else n

def unitAt (s : List Char) : Nat :=
  let rest := (s.dropWhile isGap).dropWhile fun c => c.isDigit || c = '.' || c = '-'
  match rest with
  | c :: _ =>
    match ['K', 'M', 'G', 'T', 'P', 'E'].findIdx? (· = c.toUpper) with
    | some k => k + 1
    | none => 0
  | [] => 0

def monthAt (s : List Char) : Nat :=
  let name := String.ofList (((s.dropWhile isGap).take 3).map Char.toLower)
  let months := ["jan", "feb", "mar", "apr", "may", "jun", "jul", "aug", "sep", "oct", "nov", "dec"]
  match months.findIdx? (· = name) with
  | some k => k + 1
  | none => 0

def generalAt (s : List Char) : Int :=
  let s := s.dropWhile isGap
  let front := s.takeWhile fun c => c.isDigit || c = '.' || c = '-' || c = '+'
  let n := numberAt (if front.head? = some '+' then front.drop 1 else front)
  match s.drop front.length with
  | 'e' :: r | 'E' :: r =>
    let (minus, ds) : Bool × List Char := match r with
      | '-' :: ds => (true, ds)
      | '+' :: ds => (false, ds)
      | ds => (false, ds)
    let k := min 30 (Text.ofDigits 10 (ds.takeWhile Char.isDigit))
    if minus then n / (Nat.pow 10 k : Nat) else n * (Nat.pow 10 k : Nat)
  | _ => n

def versionParts : Nat → List Char → List (List Char × Nat)
  | 0, _ | _ + 1, [] => []
  | n + 1, s =>
    let word := s.takeWhile (!Char.isDigit ·)
    let r := s.drop word.length
    let ds := r.takeWhile Char.isDigit
    (word, Text.ofDigits 10 ds) :: versionParts n (r.drop ds.length)

def partsBefore : List (List Char × Nat) → List (List Char × Nat) → Bool
  | _, [] => false
  | [], _ :: _ => true
  | (v, m) :: ps, (w, n) :: qs =>
    v < w || (v = w && (m < n || (m = n && partsBefore ps qs)))

/-- Whether the first of two texts comes first, and whether the second one does. -/
def SortOrder.before (o : SortOrder) (a b : List Char) : Bool × Bool :=
  let (a, b) := if o.reversed then (b, a) else (a, b)
  let least {α : Type} (lt : α → α → Bool) (x y : α) : Bool × Bool := (lt x y, lt y x)
  if o.numeric then least (fun x y => x < y) (numberAt a) (numberAt b)
  else if o.general then least (fun x y => x < y) (generalAt a) (generalAt b)
  else if o.human then
    let key (s : List Char) : Int × Int :=
      let n := numberAt s
      (if n < 0 then -(unitAt s : Int) else if n = 0 then 0 else unitAt s, n)
    least (fun x y => x.1 < y.1 || (x.1 = y.1 && x.2 < y.2)) (key a) (key b)
  else if o.month then least (fun x y => x < y) (monthAt a) (monthAt b)
  else if o.version then
    least partsBefore (versionParts (a.length + 1) a) (versionParts (b.length + 1) b)
  else
    let kept (s : List Char) : List Char :=
      let s := if o.dictionary then s.filter fun c => c.isAlphanum || c = ' ' else s
      if o.foldCase then s.map Char.toUpper else s
    least (fun x y => x < y) (kept a) (kept b)

def fieldsOf (separator : Option Char) (l : List Char) : List (List Char) :=
  match separator with
  | some c => l.splitOn c
  | none =>
    let rec go : Nat → List Char → List (List Char)
      | 0, _ | _ + 1, [] => []
      | n + 1, s =>
        let isBlank (c : Char) : Bool := c = ' ' || c = '\t'
        let blanks := s.takeWhile isBlank
        let word := (s.drop blanks.length).takeWhile (!isBlank ·)
        (blanks ++ word) :: go n (s.drop (blanks.length + word.length))
    go (l.length + 1) l

/-- The part of a line that a key means. -/
def SortKey.part (separator : Option Char) (k : SortKey) (l : List Char) : List Char :=
  let fields := fieldsOf separator l
  let between : List Char := separator.toList
  let start := k.field - 1
  let wanted := match k.lastField with
    | none => fields.drop start
    | some last => (fields.take last).drop start
  let unblank (f : List Char) : List Char :=
    if k.ordering.blanks then f.dropWhile fun c => c = ' ' || c = '\t' else f
  match wanted with
  | [] => []
  | f :: rest =>
    let first := (unblank f).drop (k.letter - 1)
    match k.lastField, k.lastLetter with
    | some _, m + 1 =>
      match rest.reverse with
      | [] => ((unblank f).take (m + 1)).drop (k.letter - 1)
      | last :: inner =>
        between.intercalate (first :: inner.reverse ++ [(unblank last).take (m + 1)])
    | _, _ => between.intercalate (first :: rest)

/-- The key that an argument means. -/
def sortKey? (w : String) : Option SortKey :=
  let place (s : List Char) : Option ((Nat × Nat) × List Char × List Char) :=
    let a := s.takeWhile Char.isDigit
    let r := s.drop a.length
    let (b, r) : List Char × List Char := match r with
      | '.' :: r => (r.takeWhile Char.isDigit, r.dropWhile Char.isDigit)
      | r => ([], r)
    let letters := r.takeWhile Char.isAlpha
    if a = [] then none
    else some ((Text.ofDigits 10 a, Text.ofDigits 10 b), letters, r.drop letters.length)
  match place w.toList with
  | none => none
  | some ((f, l), letters, r) =>
    if f = 0 then none
    else
      match r with
      | [] => some ⟨f, max 1 l, none, 0, .ofLetters letters⟩
      | ',' :: r =>
        match place r with
        | some ((g, m), more, []) =>
          some ⟨f, max 1 l, some g, m, .ofLetters (letters ++ more)⟩
        | _ => none
      | _ => none

/-- Puts the lines of files in order. -/
def sort (c : Call) : Act Nat := do
  let names := [("numeric-sort", 'n', false), ("reverse", 'r', false), ("unique", 'u', false),
    ("key", 'k', true), ("field-separator", 't', true), ("ignore-case", 'f', false),
    ("output", 'o', true), ("check", 'c', false), ("stable", 's', false),
    ("general-numeric-sort", 'g', false), ("human-numeric-sort", 'h', false),
    ("version-sort", 'V', false), ("ignore-leading-blanks", 'b', false), ("merge", 'm', false),
    ("dictionary-order", 'd', false), ("month-sort", 'M', false), ("zero-terminated", 'z', false)]
  c.withOptions { letters := "nruk:t:fo:cCsghVbmdizRMS:T:", names } 2 fun os files => do
    let (texts, fine) ← c.inputs files
    if !fine then return 2
    let all := SortOrder.ofLetters (os.map Given.letter)
    let given := (os.filter (·.letter = 'k')).map Given.argument
    match given.mapM sortKey? with
    | none => c.fail "invalid field specification" 2
    | some keys =>
      let separator := (argumentOf? os 't').bind fun t =>
        if t = "\\0" then some '\x00' else t.toList.head?
      let keys := keys.map fun k =>
        if k.ordering = {} then { k with ordering := all } else k
      let keys := if keys.isEmpty then [⟨1, 1, none, 0, all⟩] else keys
      let part (k : SortKey) (l : List Char) : List Char :=
        if k.field = 1 ∧ k.letter = 1 ∧ k.lastField.isNone then
          if k.ordering.blanks then l.dropWhile isGap else l
        else k.part separator l
      let rec byKeys : List SortKey → List Char → List Char → Bool × Bool
        | [], _, _ => (false, false)
        | k :: ks, a, b =>
          match k.ordering.before (part k a) (part k b) with
          | (false, false) => byKeys ks a b
          | found => found
      let unique := hasOption os 'u'
      let before (a b : List Char) : Bool × Bool :=
        match byKeys keys a b with
        | (false, false) =>
          if unique || hasOption os 's' then (false, false)
          else if all.reversed then (b < a, a < b) else (a < b, b < a)
        | found => found
      let mark : Char := if hasOption os 'z' then '\x00' else '\n'
      let cut (t : List Char) : List (List Char) :=
        let ls := t.splitOn mark
        if ls.getLast? = some [] then ls.dropLast else ls
      let written (ls : List (List Char)) : String := String.ofList (ls.flatMap (· ++ [mark]))
      let ls := texts.flatMap fun (_, t) => cut t
      if hasOption os 'c' || hasOption os 'C' then
        let rec disorder : Nat → List (List Char) → Option (Nat × List Char)
          | n, a :: b :: rest =>
            if (before a b).2 || (unique && before a b = (false, false)) then some (n + 1, b)
            else disorder (n + 1) (b :: rest)
          | _, _ => none
        match disorder 1 ls with
        | none => return 0
        | some (n, l) =>
          if hasOption os 'C' then return 1
          let file := files.head?.getD "-"
          return ← c.fail (file ++ ":" ++ toString n ++ ": disorder: " ++ String.ofList l) 1
      let sorted := ls.mergeSort fun a b => !(before a b).2
      let shown :=
        if unique then
          sorted.foldr (fun l found =>
            match found with
            | m :: rest => if before l m = (false, false) then l :: rest else l :: found
            | [] => [l]) []
        else sorted
      match argumentOf? os 'o' with
      | none => c.print (written shown) 0
      | some file =>
        match ← Act.writePath (.output true) file (written shown) with
        | .ok () => return 0
        | .error fault => c.fail ("open failed: " ++ file ++ ": " ++ Fault.words fault) 2

end Utility

end InlineRemote.Shell
