import InlineRemote.Shell.Regex
import InlineRemote.Shell.Utility.Call

/-! # Searching lines

Lines of files are searched for regular expressions; the lines in which one fits are shown, or
counted, or only the names of the files. -/
namespace InlineRemote.Shell

namespace Utility

namespace Grep

/-- An expression for a pattern that is a text, a basic or an extended expression, or one with
letters for digits. -/
def expression? (kind : Char) (pattern : List Char) : Option Regex :=
  let rec plainDigits : List Char → List Char
    | '\\' :: 'd' :: s => "[0-9]".toList ++ plainDigits s
    | '\\' :: 'D' :: s => "[^0-9]".toList ++ plainDigits s
    | '\\' :: c :: s => '\\' :: c :: plainDigits s
    | '(' :: '?' :: ':' :: s => '(' :: plainDigits s
    | c :: s => c :: plainDigits s
    | [] => []
  if kind = 'F' then some (.ofLiteral pattern)
  else if kind = 'P' then Regex.ofText? true (plainDigits pattern)
  else Regex.ofText? (kind = 'E') pattern

def bounded (words whole : Bool) (r : Regex) : Regex :=
  if whole then .sequence .front (.sequence r .back)
  else if words then
    .sequence (.edge fun a _ => !a) (.sequence r (.edge fun _ b => !b))
  else r

def found (m : Regex.Manner) (r : Regex) (l : List Char) : Nat → Nat → List (Nat × List Char)
  | 0, _ => []
  | n + 1, start =>
    match Regex.search? m r l start with
    | none => []
    | some (p, q) =>
      let next := if q.before = p.before then q.before + 1 else q.before
      let more := if l.length < next then [] else found m r l n next
      if p.before = q.before then more
      else (p.before, (l.drop p.before).take (q.before - p.before)) :: more

/-- What is shown of a search. -/
structure Look where
  inverted : Bool
  counted : Bool
  numbered : Bool
  offsets : Bool
  parts : Bool
  limit : Option Nat
  before : Nat
  after : Nat

/-- The lines to show of a text, each with its number, its offset and whether it was found. -/
def shownLines (k : Look) (fits : List Char → Bool) (ls : List (List Char)) :
    List (Nat × Nat × Bool × List Char) :=
  let offsets := ls.foldl (fun (o, done) l => (o + l.length + 1, o :: done)) (0, ([] : List Nat))
  let all := (ls.zip offsets.2.reverse).zipIdx.map fun ((l, o), i) =>
    (i + 1, o, fits l != k.inverted, l)
  let hits := (all.filter fun e => e.2.2.1).map Prod.fst
  let hits := match k.limit with
    | some n => hits.take n
    | none => hits
  let shown := all.filter fun (i, _) =>
    hits.any fun h => h ≤ i + k.before && i ≤ h + k.after
  shown.map fun (i, o, _, l) => (i, o, hits.contains i, l)

/-- The text that shows lines of a file whose name may stand before them. -/
def text (k : Look) (m : Regex.Manner) (r : Regex) (name : Option String)
    (shown : List (Nat × Nat × Bool × List Char)) : String :=
  let front (i o : Nat) (hit : Bool) : String :=
    let sign := if hit then ":" else "-"
    (match name with
      | some n => n ++ sign
      | none => "") ++
      (if k.numbered then toString i ++ sign else "") ++
      if k.offsets then toString o ++ sign else ""
  let line (last : Nat) (e : Nat × Nat × Bool × List Char) : Nat × String :=
    let (i, o, hit, l) := e
    let gap := if (0 < k.before || 0 < k.after) && last ≠ 0 && last + 1 < i then "--\n" else ""
    if k.parts then
      (i, gap ++ if hit && !k.inverted then
        "".intercalate ((found m r l (l.length + 1) 0).map fun (place, part) =>
          front i (o + place) true ++ String.ofList part ++ "\n") else "")
    else (i, gap ++ front i o hit ++ String.ofList l ++ "\n")
  (shown.foldl (fun (last, done) e =>
    let (i, t) := line last e
    (i, done ++ t)) (0, "")).2

def below (s : Session) (path : String) (p : Place) : Nat → List String
  | 0 => []
  | n + 1 =>
    (s.disk.list p).flatMap fun x =>
      let next := path ++ (if path.toList.getLast? = some '/' then "" else "/") ++ x
      match s.disk.matter? (p ++ [x]) with
      | some .directory => below s next (p ++ [x]) n
      | some (.file _) => [next]
      | _ => []

end Grep

/-- Searches files for lines. -/
def grep (c : Call) : Act Nat := do
  let names := [("extended-regexp", 'E', false), ("fixed-strings", 'F', false),
    ("basic-regexp", 'G', false), ("perl-regexp", 'P', false), ("regexp", 'e', true),
    ("file", 'f', true), ("ignore-case", 'i', false), ("invert-match", 'v', false),
    ("word-regexp", 'w', false), ("line-regexp", 'x', false), ("count", 'c', false),
    ("files-with-matches", 'l', false), ("files-without-match", 'L', false),
    ("quiet", 'q', false), ("silent", 'q', false), ("no-messages", 's', false),
    ("line-number", 'n', false), ("with-filename", 'H', false), ("no-filename", 'h', false),
    ("only-matching", 'o', false), ("max-count", 'm', true), ("after-context", 'A', true),
    ("before-context", 'B', true), ("context", 'C', true), ("recursive", 'r', false),
    ("text", 'a', false), ("byte-offset", 'b', false), ("include", '+', true),
    ("exclude", '+', true), ("line-buffered", 'u', false), ("no-ignore-case", 'y', false)]
  let words := (withOld c.words).filter fun w =>
    w ≠ "--color" && !"--color=".toList.isPrefixOf w.toList
  let g : Grammar := { letters := "EFGPe:f:ivwxclLqsnHhom:A:B:C:rRabyzuUI", names }
  match g.read words with
  | .error e =>
    c.complain e
    Act.complain ("Usage: " ++ c.called ++ " [OPTION]... PATTERNS [FILE]...")
    return 2
  | .ok (os, ws) =>
    let has (o : Char) : Bool := hasOption os o
    let mut lists := []
    for o in os do
      if o.letter = 'e' then lists := lists ++ o.argument.toList.splitOn '\n'
      else if o.letter = 'f' then
        match ← Call.input o.argument with
        | .ok t => lists := lists ++ lines t
        | .error fault => return ← c.fail (o.argument ++ ": " ++ Fault.words fault) 2
    let patterned : Bool := has 'e' || has 'f'
    match patterned, ws with
    | false, [] =>
      Act.complain ("Usage: " ++ c.called ++ " [OPTION]... PATTERNS [FILE]...")
      return 2
    | _, _ =>
      let patterns := if patterned then lists else (ws.head?.getD "").toList.splitOn '\n'
      let files := if patterned then ws else ws.drop 1
      let usual := if c.name = "egrep" then 'E' else if c.name = "fgrep" then 'F' else 'G'
      let kind := ((os.filter fun o => ['E', 'F', 'G', 'P'].contains o.letter).getLast?.map
        Given.letter).getD usual
      match patterns.mapM (Grep.expression? kind) with
      | none => c.fail "Unmatched [, [^, [:, [., or [=" 2
      | some rs =>
        let r := match rs with
          | [] => none
          | r :: rs => some (Grep.bounded (has 'w') (has 'x') (rs.foldl .either r))
        let m : Regex.Manner := { foldCase := has 'i' || has 'y' }
        let fits (l : List Char) : Bool := r.any fun r => r.occurs m l
        let number (o : Char) : Option Nat := (argumentOf? os o).bind String.toNat?
        let around := (number 'C').getD 0
        let look : Grep.Look :=
          { inverted := has 'v', counted := has 'c', numbered := has 'n', offsets := has 'b'
            parts := has 'o', limit := number 'm', before := (number 'B').getD around
            after := (number 'A').getD around }
        search c os files look m (r.getD .empty) fits
where
  /-- The words with a number after a dash written as an option. -/
  withOld (ws : List String) : List String :=
    ws.map fun w =>
      match w.toList with
      | '-' :: d :: ds => if (d :: ds).all Char.isDigit then "-C" ++ String.ofList (d :: ds) else w
      | _ => w
  /-- Searches files in which lines fit. -/
  search (c : Call) (os : List Given) (files : List String) (look : Grep.Look)
      (m : Regex.Manner) (r : Regex) (fits : List Char → Bool) : Act Nat := do
    let has (o : Char) : Bool := hasOption os o
    let s ← get
    let deep : Bool := has 'r' || has 'R'
    let all : List String :=
      if !deep then if files = [] then ["-"] else files
      else
        let roots := if files = [] then ["."] else files
        roots.flatMap fun f =>
          match s.disk.find true s.directory f with
          | .ok (p, _, node) => if node.matter = .directory then Grep.below s f p 40 else [f]
          | .error _ => [f]
    let named : Bool := has 'H' || ((deep || 1 < files.length) && !has 'h')
    let mut hit := false
    let mut wrong := false
    let mut out := ""
    for file in all do
      match ← Call.input file with
      | .error fault =>
        wrong := true
        if !has 's' then c.complain (file ++ ": " ++ Fault.words fault)
      | .ok t =>
        let title := if file = "-" then "(standard input)" else file
        let shown := Grep.shownLines look fits (lines t)
        let hits := (shown.filter fun e => e.2.2.1).length
        if hits ≠ 0 then hit := true
        let name := if named then some title else none
        if has 'q' then pure ()
        else if has 'L' then
          if hits = 0 then out := out ++ title ++ "\n"
        else if has 'l' then
          if hits ≠ 0 then out := out ++ title ++ "\n"
        else if look.counted then
          out := out ++ (match name with
            | some n => n ++ ":"
            | none => "") ++ toString hits ++ "\n"
        else if t.contains '\x00' && !has 'a' then
          if hits ≠ 0 then c.complain (title ++ ": binary file matches")
        else out := out ++ Grep.text look m r name shown
    let _ ← Act.writeTo 1 out
    return if wrong && !(has 'q' && hit) then 2 else if hit then 0 else 1

end Utility

end InlineRemote.Shell
