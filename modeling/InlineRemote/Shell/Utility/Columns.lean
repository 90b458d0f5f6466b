import InlineRemote.Shell.Pattern
import InlineRemote.Shell.Utility.Call

/-! # Programs that work on parts of lines

Columns are cut out or put side by side, characters are exchanged, and lines are put in order,
compared and counted. -/
namespace InlineRemote.Shell

namespace Utility

def range? (w : List Char) : Option (Nat × Option Nat) :=
  let a := w.takeWhile Char.isDigit
  match w.drop a.length with
  | [] => if a = [] then none else some (Text.ofDigits 10 a, some (Text.ofDigits 10 a))
  | '-' :: b =>
    if !b.all Char.isDigit ∨ (a = [] ∧ b = []) then none
    else
      some (if a = [] then 1 else Text.ofDigits 10 a,
        if b = [] then none else some (Text.ofDigits 10 b))
  | _ => none

/-- The ranges of a list, and whether it is one; no position is nought and no range runs
backwards. -/
def ranges? (w : String) : Option (List (Nat × Option Nat)) := do
  let rs ← (w.toList.splitOnP fun c => c = ',' || c = ' ').mapM range?
  if rs.any fun (a, b) => a = 0 || b.any (· < a) then none else some rs

def inRanges (rs : List (Nat × Option Nat)) (n : Nat) : Bool :=
  rs.any fun (a, b) => a ≤ n && b.all (n ≤ ·)

def chosen {α : Type} (rs : List (Nat × Option Nat)) (inverted : Bool) (items : List α) : List α :=
  (items.zipIdx.filter fun (_, k) => inRanges rs (k + 1) != inverted).map Prod.fst

/-- Cuts columns out of lines. -/
def cut (c : Call) : Act Nat := do
  let names := [("delimiter", 'd', true), ("fields", 'f', true), ("characters", 'c', true),
    ("bytes", 'b', true), ("only-delimited", 's', false), ("complement", 'C', false),
    ("output-delimiter", 'O', true)]
  c.withOptions { letters := "d:f:c:b:snz", names } 1 fun os files => do
    let complain (text : String) : Act Nat := do
      c.complain text
      Act.complain ("Try '" ++ c.called ++ " --help' for more information.")
      return 1
    let kinds := os.filter fun o => ['f', 'c', 'b'].contains o.letter
    match kinds with
    | [] => complain "you must specify a list of bytes, characters, or fields"
    | _ :: _ :: _ => complain "only one list may be specified"
    | [kind] =>
      let fields : Bool := kind.letter = 'f'
      if !fields && hasOption os 'd' then
        return ← complain "an input delimiter may be specified only when operating on fields"
      let delimiter := (argumentOf? os 'd').getD "\t"
      if 1 < delimiter.length then return ← complain "the delimiter must be a single character"
      match ranges? kind.argument with
      | none => complain "invalid field range"
      | some rs =>
        let (texts, fine) ← c.inputs files
        let d := delimiter.toList.head?.getD '\x00'
        let between := ((argumentOf? os 'O').getD (String.singleton d)).toList
        let inverted := hasOption os 'C'
        let line (l : List Char) : Option (List Char) :=
          if fields then
            if !l.contains d then if hasOption os 's' then none else some l
            else some (between.intercalate (chosen rs inverted (l.splitOn d)))
          else some (chosen rs inverted l)
        c.print (unlines ((lines (texts.flatMap Prod.snd)).filterMap line)) (if fine then 0 else 1)

def besides (ds : List Char) : Nat → List (List (List Char)) → List (List Char)
  | 0, _ => []
  | n + 1, rows =>
    if rows.all (· = []) then []
    else
      let parts := rows.map fun r => r.head?.getD []
      let line := parts.zipIdx.flatMap fun (p, k) =>
        if k = 0 then p
        else
          match ds[(k - 1) % ds.length]? with
          | some d => d :: p
          | none => p
      line :: besides ds n (rows.map (List.drop 1))

/-- Puts the lines of files side by side. -/
def paste (c : Call) : Act Nat := do
  let names := [("delimiters", 'd', true), ("serial", 's', false)]
  c.withOptions { letters := "d:sz", names } 1 fun os files => do
    let (texts, fine) ← c.inputs files
    let rec delimiters : List Char → List Char
      | '\\' :: 'n' :: s => '\n' :: delimiters s
      | '\\' :: 't' :: s => '\t' :: delimiters s
      | '\\' :: c :: s => c :: delimiters s
      | c :: s => c :: delimiters s
      | [] => []
    let ds := delimiters ((argumentOf? os 'd').getD "\t").toList
    let rows : List (List (List Char)) :=
      if 1 < files.length && files.all (· = "-") then
        let ls := lines (texts.flatMap Prod.snd)
        let n := files.length
        (List.range n).map fun k => (ls.zipIdx.filter fun (_, i) => i % n = k).map Prod.fst
      else texts.map fun (_, t) => lines t
    let size := (rows.map List.length).max?.getD 0
    let shown :=
      if hasOption os 's' then
        rows.map fun r => r.zipIdx.flatMap fun (p, k) =>
          if k = 0 then p
          else
            match ds[(k - 1) % ds.length]? with
            | some d => d :: p
            | none => p
      else besides ds size rows
    c.print (unlines shown) (if fine then 0 else 1)

/-- The characters of a set, where ranges, classes and escapes stand for several or for one; a
repeated one says how often, or to the full. -/
def setOf : Nat → List Char → List (Char × Option Nat)
  | 0, _ | _ + 1, [] => []
  | n + 1, '[' :: ':' :: s =>
    let name := s.takeWhile Char.isAlpha
    match s.drop name.length, characterClasses.lookup (String.ofList name) with
    | ':' :: ']' :: r, some rs =>
      let all := (List.range 256).map Char.ofNat
      let inside := all.filter fun c => rs.any fun (a, b) => a ≤ c && c ≤ b
      inside.map (·, some 1) ++ setOf n r
    | _, _ => ('[', some 1) :: setOf n (':' :: s)
  | n + 1, '[' :: '=' :: c :: '=' :: ']' :: s => (c, some 1) :: setOf n s
  | n + 1, '[' :: c :: '*' :: s =>
    let ds := s.takeWhile Char.isDigit
    match s.drop ds.length with
    | ']' :: r =>
      let times := if ds.head? = some '0' then Text.ofDigits 8 ds else Text.ofDigits 10 ds
      (c, if times = 0 then none else some times) :: setOf n r
    | _ => ('[', some 1) :: setOf n (c :: '*' :: s)
  | n + 1, s =>
    let one : List Char → Option (Char × List Char)
      | [] => none
      | '\\' :: c :: r =>
        if Text.isOctalDigit c then
          let ds := ((c :: r).take 3).takeWhile Text.isOctalDigit
          some (Char.ofNat (Text.ofDigits 8 ds % 256), (c :: r).drop ds.length)
        else
          let d := match c with
            | 'a' => '\x07'
            | 'b' => '\x08'
            | 'f' => '\x0c'
            | 'n' => '\n'
            | 'r' => '\r'
            | 't' => '\t'
            | 'v' => '\x0b'
            | c => c
          some (d, r)
      | c :: r => some (c, r)
    match one s with
    | none => []
    | some (a, '-' :: r) =>
      match one r with
      | some (b, r) =>
        ((List.range (b.toNat + 1)).filter (a.toNat ≤ ·)).map (fun k => (Char.ofNat k, some 1)) ++
          setOf n r
      | none => [(a, some 1), ('-', some 1)]
    | some (a, r) => (a, some 1) :: setOf n r

def setRow (length : Nat) (items : List (Char × Option Nat)) : List Char :=
  let fixed := (items.map fun e => e.2.getD 0).foldl (· + ·) 0
  items.flatMap fun (c, times) => List.replicate (times.getD (length - fixed)) c

def squeezed (p : Char → Bool) : List Char → List Char
  | c :: d :: s => if c = d && p c then squeezed p (d :: s) else c :: squeezed p (d :: s)
  | s => s
  termination_by s => s.length

/-- Exchanges or drops characters. -/
def translate (c : Call) : Act Nat := do
  let names := [("delete", 'd', false), ("squeeze-repeats", 's', false),
    ("complement", 'c', false), ("truncate-set1", 't', false)]
  c.withOptions { letters := "dscCt", names, mixed := false } 1 fun os sets => do
    let deletes := hasOption os 'd'
    let squeezes := hasOption os 's'
    let complain (text : String) : Act Nat := do
      c.complain text
      Act.complain ("Try '" ++ c.called ++ " --help' for more information.")
      return 1
    let least := if deletes == squeezes then 2 else 1
    let most := if deletes && !squeezes then 1 else 2
    match sets with
    | [] => return ← c.lacksOperand 1
    | [s] => if least = 2 then return ← complain ("missing operand after '" ++ s ++ "'")
    | _ => pure ()
    if let some extra := sets[most]? then return ← complain ("extra operand '" ++ extra ++ "'")
    let set (k : Nat) : List (Char × Option Nat) :=
      let s := (sets[k]?.getD "").toList
      setOf (s.length + 1) s
    let named := setRow 0 (set 0)
    let one :=
      if hasOption os 'c' || hasOption os 'C' then
        ((List.range 256).map Char.ofNat).filter (!named.contains ·)
      else named
    let two := setRow one.length (set 1)
    if sets.length = 2 && !deletes && two = [] then
      return ← c.fail "when not truncating set1, string2 must be non-empty" 1
    let text ← Act.readAll 0
    let one' := if hasOption os 't' then one.take two.length else one
    let filled := two ++ List.replicate (one'.length - two.length) (two.getLast?.getD '\x00')
    let pairs := (one'.zip filled).reverse
    let exchanged :=
      if deletes then text.filter (!one.contains ·)
      else if sets.length = 2 then text.map fun x => (pairs.lookup x).getD x
      else text
    let last := if sets.length = 2 then two else one
    c.print (String.ofList (if squeezes then squeezed last.contains exchanged else exchanged)) 0

def runs (same : List Char → List Char → Bool) : List (List Char) → List (List Char × Nat)
  | [] => []
  | l :: ls =>
    match runs same ls with
    | (m, n) :: rest => if same l m then (l, n + 1) :: rest else (l, 1) :: (m, n) :: rest
    | [] => [(l, 1)]

/-- Leaves out lines that are equal to the one before. -/
def unique (c : Call) : Act Nat := do
  let names := [("count", 'c', false), ("repeated", 'd', false), ("unique", 'u', false),
    ("ignore-case", 'i', false), ("skip-fields", 'f', true), ("skip-chars", 's', true),
    ("check-chars", 'w', true)]
  c.withOptions { letters := "cduiDf:s:w:z", names } 1 fun os files => do
    let (texts, fine) ← c.inputs (files.take 1)
    if !fine then return 1
    let get (o : Char) : Option Nat := (argumentOf? os o).bind String.toNat?
    let key (l : List Char) : List Char :=
      let rec skip : Nat → List Char → List Char
        | 0, l => l
        | n + 1, l => skip n ((l.dropWhile isGap).dropWhile (!isGap ·))
      let l := (skip ((get 'f').getD 0) l).drop ((get 's').getD 0)
      let l := match get 'w' with
        | some n => l.take n
        | none => l
      if hasOption os 'i' then l.map Char.toLower else l
    let ls := lines (texts.flatMap Prod.snd)
    let found := runs (fun a b => key a = key b) ls
    let found := found.filter fun (_, n) =>
      !(hasOption os 'd' && n = 1) && !(hasOption os 'u' && n ≠ 1)
    let shown :=
      if hasOption os 'D' then
        ls.filter fun l => 1 < (ls.filter fun m => key m = key l).length
      else
        found.map fun (l, n) =>
          if hasOption os 'c' then (atRight 7 (toString n) ++ " ").toList ++ l else l
    match files[1]? with
    | none => c.print (unlines shown) 0
    | some file =>
      match ← Act.writePath (.output true) file (unlines shown) with
      | .ok () => return 0
      | .error fault => c.fail (file ++ ": " ++ Fault.words fault) 1

def merged : Nat → List (List Char) → List (List Char) → List (List Char × Nat)
  | 0, _, _ => []
  | _ + 1, as, [] => as.map (·, 1)
  | _ + 1, [], bs => bs.map (·, 2)
  | n + 1, a :: as, b :: bs =>
    if a = b then (a, 3) :: merged n as bs
    else if a < b then (a, 1) :: merged n as (b :: bs)
    else (b, 2) :: merged n (a :: as) bs

/-- Shows which lines of two ordered files are common. -/
def common (c : Call) : Act Nat := do
  c.withOptions { letters := "123", mixed := true } 1 fun os files => do
    match files with
    | [_, _] =>
      let (texts, fine) ← c.inputs files
      match texts with
      | [(_, a), (_, b)] =>
        let hidden (k : Nat) : Bool := hasOption os (Char.ofNat (48 + k))
        let tabs (k : Nat) : Nat :=
          ((List.range k).filter fun j => 1 ≤ j && !hidden j).length
        let found := (merged (a.length + b.length + 2) (lines a) (lines b)).filter fun e =>
          !hidden e.2
        let shown := found.map fun (l, k) => List.replicate (tabs k) '\t' ++ l
        c.print (unlines shown) 0
      | _ => return if fine then 0 else 1
    | [] => c.lacksOperand 1
    | [f] => c.fail ("missing operand after '" ++ f ++ "'") 1
    | _ => c.fail ("extra operand '" ++ files[2]?.getD "" ++ "'") 1

end Utility

end InlineRemote.Shell
