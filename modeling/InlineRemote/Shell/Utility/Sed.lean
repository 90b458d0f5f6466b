import InlineRemote.Shell.Regex
import InlineRemote.Shell.Utility.Lines

/-! # Editing lines by a script

A script of commands, each with one letter and maybe with addresses of lines, is run once for each
line.  The line can be changed, shown and kept aside for later lines. -/
namespace InlineRemote.Shell

namespace Sed

/-- Where a command applies. -/
inductive Address where
  | line (n : Nat)
  | last
  /-- A line, and every so many lines after it. -/
  | step (first apart : Nat)
  /-- Lines that an expression fits; without one, the last expression that was used. -/
  | fits (r : Option Regex) (m : Regex.Manner)

/-- Where a range of lines ends. -/
inductive Until where
  | address (a : Address)
  | more (n : Nat)
  | multiple (n : Nat)

/-- For which lines a command is meant. -/
structure Guard where
  start : Option Address := none
  stop : Option Until := none
  inverted : Bool := false

/-- A part of a replacement. -/
inductive Part where
  | letter (c : Char)
  | group (n : Nat)
  /-- The case of the letters that follow, or of the next one. -/
  | change (c : Char)
  deriving DecidableEq, Repr

/-- How an expression is replaced. -/
structure Substitution where
  expression : Option Regex
  manner : Regex.Manner
  replacement : List Part
  every : Bool := false
  nth : Nat := 1
  shows : Bool := false
  file : Option String := none

/-- What a command does. -/
inductive Deed where
  /-- Runs so many of the commands that follow. -/
  | block (size : Nat)
  | label (name : String)
  /-- A command without words, by its letter. -/
  | plain (c : Char)
  | quit (silent : Bool) (status : Nat)
  /-- Text before the line, after it, or in its stead. -/
  | text (place : Char) (t : List Char)
  | jump (kind : Char) (label : String)
  | substitute (s : Substitution)
  | exchange (pairs : List (Char × Char))
  | file (letter : Char) (name : String)

/-- A command of a script. -/
structure Step where
  guard : Guard
  deed : Deed

abbrev Reading := StateT (List Char) (Except String)

namespace Reading

def takeWhile (p : Char → Bool) : Reading (List Char) := do
  let s ← get
  set (s.dropWhile p)
  return s.takeWhile p

def number : Reading Nat := do
  return Text.ofDigits 10 (← takeWhile Char.isDigit)

/-- The text up to a delimiter, and what follows it.  A backslash before the delimiter takes its
meaning; in an expression a delimiter in brackets has none. -/
def delimited (d : Char) (expression : Bool) :
    Nat → Bool → List Char → Option (List Char × List Char)
  | 0, _, _ | _ + 1, _, [] => none
  | n + 1, inside, c :: s =>
    if c = '\\' && !inside then
      match s with
      | [] => none
      | e :: s =>
        let kept : List Char :=
          if e = d && d ≠ '\\' then if expression && ['.', '*', '[', ']', '^', '$'].contains d then
            ['\\', e] else [e]
          else ['\\', e]
        (delimited d expression n false s).map fun (t, r) => (kept ++ t, r)
    else if c = d && !inside then some ([], s)
    else if expression && c = '[' && !inside then
      let (front, s) : List Char × List Char := match s with
        | '^' :: ']' :: s => (['[', '^', ']'], s)
        | '^' :: s => (['[', '^'], s)
        | ']' :: s => (['[', ']'], s)
        | s => (['['], s)
      (delimited d expression n true s).map fun (t, r) => (front ++ t, r)
    else
      (delimited d expression n (inside && c ≠ ']') s).map fun (t, r) => (c :: t, r)

def upTo (d : Char) (expression : Bool) (wrong : String) : Reading (List Char) := do
  let s ← get
  match delimited d expression (s.length + 1) false s with
  | none => throw wrong
  | some (t, r) => set r; return t

def expression (extended : Bool) (text : List Char) : Reading (Option Regex) := do
  if text = [] then return none
  match Regex.ofText? extended text with
  | some r => return some r
  | none => throw "unterminated address regex"

def address? (extended : Bool) : Reading (Option Address) := do
  let fits (d : Char) : Reading (Option Address) := do
    let t ← upTo d true "unterminated address regex"
    let flags ← takeWhile fun c => c = 'I' || c = 'M'
    return some (.fits (← expression extended t)
      { foldCase := flags.contains 'I', lines := flags.contains 'M' })
  match ← get with
  | '$' :: s => set s; return some .last
  | '/' :: s => set s; fits '/'
  | '\\' :: d :: s => set s; fits d
  | c :: _ =>
    if !c.isDigit then return none
    let n ← number
    match ← get with
    | '~' :: s => set s; return some (.step n (← number))
    | _ => return some (.line n)
  | [] => return none

def guard (extended : Bool) : Reading Guard := do
  let start ← address? extended
  let _ ← takeWhile isGap
  let stop ← match start, ← get with
    | some _, ',' :: s => do
      set s
      let _ ← takeWhile isGap
      match ← get with
      | '+' :: s => set s; pure (some (Until.more (← number)))
      | '~' :: s => set s; pure (some (Until.multiple (← number)))
      | _ =>
        match ← address? extended with
        | some a => pure (some (Until.address a))
        | none => throw "unexpected \x60,'"
    | _, _ => pure none
  let _ ← takeWhile isGap
  let marks ← takeWhile fun c => c = '!' || isGap c
  return { start, stop, inverted := marks.contains '!' }

def parts : List Char → List Part
  | [] => []
  | '&' :: s => .group 0 :: parts s
  | '\\' :: c :: s =>
    (if c.isDigit then .group (c.toNat - 48)
      else if ['U', 'L', 'u', 'l', 'E'].contains c then .change c
      else if c = 'n' then .letter '\n'
      else if c = 't' then .letter '\t'
      else .letter c) :: parts s
  | c :: s => .letter c :: parts s

/-- A text to add, up to the end of the line; a backslash at the end of a line takes the next one
along. -/
def added : List Char → List Char × List Char
  | [] => ([], [])
  | '\n' :: s => ([], s)
  | '\\' :: c :: s => let (t, r) := added s; (c :: t, r)
  | c :: s => let (t, r) := added s; (c :: t, r)

def plainly : List Char → List Char
  | '\\' :: 'n' :: s => '\n' :: plainly s
  | '\\' :: '\\' :: s => '\\' :: plainly s
  | '\\' :: 't' :: s => '\t' :: plainly s
  | c :: s => c :: plainly s
  | [] => []

def isEnd (c : Char) : Bool :=
  c = ';' || c = '\n' || c = '}' || c = '#'

def finish : Reading Unit := do
  let _ ← takeWhile fun c => c = ' ' || c = '\t' || c = '\r'
  match ← get with
  | [] => return
  | c :: _ => if !isEnd c then throw "extra characters after command"

/-- The command after its addresses and its letter. -/
def deed (extended : Bool) (c : Char) : Reading Deed := do
  match c with
  | '=' | 'd' | 'D' | 'g' | 'G' | 'h' | 'H' | 'n' | 'N' | 'p' | 'P' | 'x' | 'z' | 'F' | 'l' =>
    let _ ← takeWhile fun d => d = ' ' || (c = 'l' && d.isDigit)
    finish
    return .plain c
  | 'q' | 'Q' =>
    let _ ← takeWhile (· = ' ')
    let status ← number
    finish
    return .quit (c = 'Q') status
  | 'a' | 'i' | 'c' =>
    let _ ← takeWhile fun d => d = ' ' || d = '\t'
    match ← get with
    | [] => throw "expected \\ after \x60a', \x60c' or \x60i'"
    | '\\' :: s =>
      let r := s.dropWhile fun d => d = ' ' || d = '\t'
      set (match r with
        | '\n' :: r => r
        | _ => s)
    | _ => pure ()
    let (t, r) := added (← get)
    set r
    return .text c (t ++ ['\n'])
  | ':' =>
    let _ ← takeWhile (· = ' ')
    let name ← takeWhile fun d => !isGap d && d ≠ ';'
    if name = [] then throw "\":\" lacks a label"
    return .label (String.ofList name)
  | 'b' | 't' | 'T' =>
    let _ ← takeWhile (· = ' ')
    let name ← takeWhile fun d => !isGap d && d ≠ ';' && d ≠ '}'
    finish
    return .jump c (String.ofList name)
  | 'r' | 'R' | 'w' | 'W' =>
    let _ ← takeWhile (· = ' ')
    let name ← takeWhile (· ≠ '\n')
    if name = [] then throw "missing filename in r/R/w/W commands"
    return .file c (String.ofList name)
  | 'y' =>
    match ← get with
    | [] => throw "unterminated \x60y' command"
    | d :: s =>
      set s
      let a ← upTo d false "unterminated \x60y' command"
      let b ← upTo d false "unterminated \x60y' command"
      finish
      let (a, b) := (plainly a, plainly b)
      if a.length ≠ b.length then throw "strings for \x60y' command are different lengths"
      return .exchange (a.zip b)
  | 's' =>
    match ← get with
    | [] => throw "unterminated \x60s' command"
    | d :: s =>
      set s
      let pattern ← upTo d true "unterminated \x60s' command"
      let word ← upTo d false "unterminated \x60s' command"
      let flags ← takeWhile fun f => ['g', 'p', 'i', 'I', 'm', 'M', 'e'].contains f || f.isDigit
      let file ← match ← get with
        | 'w' :: s => do
          set s
          let _ ← takeWhile (· = ' ')
          pure (some (String.ofList (← takeWhile (· ≠ '\n'))))
        | _ => pure none
      if file.isNone then
        match ← get with
        | c :: _ => if !isGap c && !isEnd c then throw "unknown option to \x60s'"
        | [] => pure ()
        finish
      let r ← expression extended pattern
      let ds := flags.filter Char.isDigit
      if ds ≠ [] ∧ Text.ofDigits 10 ds = 0 then throw "number option to \x60s' may not be zero"
      return .substitute
        { expression := r, replacement := parts word, every := flags.contains 'g', file
          manner :=
            { foldCase := flags.contains 'i' || flags.contains 'I'
              lines := flags.contains 'm' || flags.contains 'M' }
          nth := if ds = [] then 1 else Text.ofDigits 10 ds
          shows := flags.contains 'p' }
  | c => throw ("unknown command: \x60" ++ String.singleton c ++ "'")

/-- The commands of a script, or of a block up to the brace that closes it. -/
def steps (extended : Bool) : Nat → Bool → Reading (List Step)
  | 0, _ => throw "script too long"
  | n + 1, inside => do
    let _ ← takeWhile fun c => isGap c || c = ';'
    match ← get with
    | [] => if inside then throw "unmatched \x60\x7b'" else return []
    | '#' :: s => set (s.dropWhile (· ≠ '\n')); steps extended n inside
    | '}' :: s =>
      if !inside then throw "unexpected \x60\x7d'"
      set s
      return []
    | _ =>
      let g ← guard extended
      match ← get with
      | [] => throw "missing command"
      | '{' :: s =>
        set s
        let body ← steps extended n true
        return ⟨g, .block body.length⟩ :: body ++ (← steps extended n inside)
      | c :: s =>
        set s
        let d ← deed extended c
        return ⟨g, d⟩ :: (← steps extended n inside)

end Reading

def script (extended : Bool) (text : List Char) : Except String (List Step) := do
  let (steps, _) ← (Reading.steps extended (text.length + 2) false).run text
  for s in steps do
    match s.deed with
    | .jump _ name =>
      let there : Bool := name = "" || steps.any fun t =>
        match t.deed with
        | .label l => l = name
        | _ => false
      if !there then throw ("can't find label for jump to \x60" ++ name ++ "'")
    | _ => pure ()
  return steps

/-- The state of an editor. -/
structure Editor where
  /-- The line that is worked on, and whether it has an end. -/
  space : List Char := []
  ended : Bool := true
  /-- What was kept aside. -/
  kept : List Char := []
  number : Nat := 0
  /-- The lines that are left, and whether the last one has an end. -/
  left : List (List Char)
  finished : Bool
  output : String := ""
  /-- Whether the output lacks a line end that it needs if more follows. -/
  lacks : Bool := false
  /-- What is shown at the end of the cycle. -/
  later : List (List Char) := []
  substituted : Bool := false
  /-- The last expression that was used. -/
  used : Option Regex := none
  /-- The commands whose range is open, each with the line at which it ends, if that is known. -/
  opened : List (Nat × Option Nat) := []
  /-- What was written to files. -/
  written : List (String × String) := []
  /-- The lines of files that are read line by line. -/
  readers : List (String × List (List Char)) := []
  exit : Option Nat := none
  quiet : Bool

abbrev Library := List (String × List Char)

namespace Editor

def write (e : Editor) (t : List Char) : Editor :=
  let front := if e.lacks then "\n" else ""
  { e with output := e.output ++ front ++ String.ofList t, lacks := false }

/-- Writes a line, with an end unless it is the last one of a text without one. -/
def writeLine (e : Editor) (l : List Char) : Editor :=
  if e.ended then e.write (l ++ ['\n']) else { e.write l with lacks := true }

def writeFile (e : Editor) (name : String) (t : List Char) : Editor :=
  if name = "/dev/stdout" then e.write t
  else
    let old := (e.written.lookup name).getD ""
    { e with written := withKey e.written name (some (old ++ String.ofList t)) }

def next? (e : Editor) : Option Editor :=
  match e.left with
  | [] => none
  | l :: ls =>
    some { e with
      space := l, left := ls, number := e.number + 1, ended := ls ≠ [] || e.finished }

def flush (e : Editor) : Editor :=
  { e.later.foldl write e with later := [] }

def applies (e : Editor) : Address → Bool × Editor
  | .line n => (e.number = n, e)
  | .last => (e.left = [], e)
  | .step first apart =>
    (if apart = 0 then e.number = first
      else first ≤ e.number && (e.number - first) % apart = 0, e)
  | .fits r m =>
    match r.or e.used with
    | none => (false, e)
    | some r => (r.occurs m e.space, { e with used := some r })

/-- Whether a command is meant for the line, and the editor after that. -/
def admits (e : Editor) (index : Nat) (g : Guard) : Bool × Editor :=
  let (found, e) : Bool × Editor :=
    match g.start, g.stop with
    | none, _ => (true, e)
    | some a, none => e.applies a
    | some a, some u =>
      let close (e : Editor) : Editor := { e with opened := withKey e.opened index none }
      let keep (e : Editor) (n : Option Nat) : Editor :=
        { e with opened := withKey e.opened index (some n) }
      let zero : Bool := match a with
        | .line 0 => true
        | _ => false
      let opened? := if zero && e.number = 1 then some none else e.opened.lookup index
      match opened? with
      | some (some n) =>
        (e.number ≤ n, if n ≤ e.number then close e else e)
      | some none =>
        match u with
        | .address b =>
          let (ends, e) := e.applies b
          (true, if ends then close e else keep e none)
        | _ => (true, e)
      | none =>
        let (starts, e) := e.applies a
        if !starts then (false, e)
        else
          let upTo (n : Nat) : Editor := if n ≤ e.number then e else keep e (some n)
          match u with
          | .address (.line n) => (true, upTo n)
          | .address _ => (true, keep e none)
          | .more n => (true, upTo (e.number + n))
          | .multiple n =>
            (true, if n = 0 then e else upTo ((e.number + n - 1) / n * n))
  (found != g.inverted, e)

/-- The letters of a replacement; the case may change for the next letter, or for all. -/
def replaced (text : List Char) (found : Regex.Spot × Regex.Spot) :
    Option Char → Option Char → List Part → List Char
  | _, _, [] => []
  | all, one, .change c :: ps =>
    if c = 'E' then replaced text found none none ps
    else if c = 'U' ∨ c = 'L' then replaced text found (some c) one ps
    else replaced text found all (some c) ps
  | all, one, p :: ps =>
    let t := match p with
      | .group n => (Regex.fittedBy text found n).getD []
      | .letter c => [c]
      | .change _ => []
    let t := match all with
      | some 'U' => t.map Char.toUpper
      | some _ => t.map Char.toLower
      | none => t
    let first := match one with
      | some 'u' => (t.take 1).map Char.toUpper
      | some _ => (t.take 1).map Char.toLower
      | none => t.take 1
    first ++ t.drop 1 ++ replaced text found all (if t = [] then one else none) ps

/-- A text with an expression replaced, from a place on and from the fits that count; and whether
there was one. -/
def substituted? (s : Substitution) (r : Regex) (text : List Char) :
    Nat → Nat → Nat → Bool → List Char × Bool
  | 0, place, _, _ => (text.drop place, false)
  | n + 1, place, count, afterFit =>
    match Regex.search? s.manner r text place with
    | none => (text.drop place, false)
    | some (p, q) =>
      let before := (text.drop place).take (p.before - place)
      let empty : Bool := p.before = q.before
      if empty && afterFit && p.before = place then
        -- Nothing fits right after the last fit.
        match text.drop place with
        | [] => ([], false)
        | c :: _ =>
          let (t, done) := substituted? s r text n (place + 1) count false
          (c :: t, done)
      else
        let fit := (text.drop p.before).take (q.before - p.before)
        let counts : Bool := s.nth ≤ count
        let shown := if counts then replaced text (p, q) none none s.replacement else fit
        if counts && !s.every then (before ++ shown ++ text.drop q.before, true)
        else if empty then
          match text.drop q.before with
          | [] => (before ++ shown, counts)
          | c :: _ =>
            let (t, done) := substituted? s r text n (q.before + 1) (count + 1) false
            (before ++ shown ++ c :: t, done || counts)
        else
          let (t, done) := substituted? s r text n q.before (count + 1) true
          (before ++ shown ++ t, done || counts)

/-- A line with its hidden characters to be seen. -/
def seen (l : List Char) : List Char :=
  l.flatMap fun c =>
    match c with
    | '\\' => ['\\', '\\']
    | '\n' => ['\\', 'n']
    | '\t' => ['\\', 't']
    | '\x07' => ['\\', 'a']
    | '\x08' => ['\\', 'b']
    | '\x0c' => ['\\', 'f']
    | '\r' => ['\\', 'r']
    | '\x0b' => ['\\', 'v']
    | c =>
      if c < ' ' || '\x7e' < c then
        let ds := Nat.toDigits 8 c.toNat
        '\\' :: (List.replicate (3 - ds.length) '0' ++ ds)
      else [c]

def wrapped : Nat → List Char → List Char
  | 0, l => l
  | n + 1, l => if l.length ≤ 69 then l else l.take 69 ++ ['\\', '\n'] ++ wrapped n (l.drop 69)

/-- How a cycle goes on after a command. -/
inductive Flow where
  | next (index : Nat)
  /-- The cycle ends; the line is shown unless it was deleted. -/
  | done (deleted : Bool)
  /-- The commands start again without a new line. -/
  | again
  | quit (status : Nat) (silent : Bool)

/-- Does what a command without words does. -/
def plainDeed (e : Editor) (index : Nat) (c : Char) : Editor × Flow :=
  let go (e : Editor) : Editor × Flow := (e, .next (index + 1))
  let first := e.space.takeWhile (· ≠ '\n')
  match c with
  | '=' => go (e.write ((toString e.number).toList ++ ['\n']))
  | 'd' => (e, .done true)
  | 'D' =>
    if e.space.contains '\n' then
      ({ e with space := e.space.drop (first.length + 1) }, .again)
    else (e, .done true)
  | 'g' => go { e with space := e.kept }
  | 'G' => go { e with space := e.space ++ '\n' :: e.kept }
  | 'h' => go { e with kept := e.space }
  | 'H' => go { e with kept := e.kept ++ '\n' :: e.space }
  | 'x' => go { e with space := e.kept, kept := e.space }
  | 'p' => go (e.writeLine e.space)
  | 'P' => go (e.write (first ++ ['\n']))
  | 'z' => go { e with space := [] }
  | 'F' => go (e.write ['-', '\n'])
  | 'l' => go (e.write (wrapped e.space.length (seen e.space) ++ ['$', '\n']))
  | 'n' =>
    match e.left with
    | [] => (e, .quit 0 false)
    | _ =>
      let e := if e.quiet then e else e.writeLine e.space
      let e := e.flush
      go ((e.next?).getD e)
  | _ =>
    match e.left with
    | [] => (e, .quit 0 false)
    | _ =>
      let old := e.space
      let e := e.flush
      let e := (e.next?).getD e
      go { e with space := old ++ '\n' :: e.space }

def after (steps : Array Step) (name : String) : Nat :=
  let isLabel (s : Step) : Bool :=
    match s.deed with
    | .label l => l = name
    | _ => false
  if name = "" then steps.size else (steps.findIdx? isLabel).getD steps.size

/-- Does what a command says. -/
def perform (files : Library) (steps : Array Step) (e : Editor) (index : Nat) (g : Guard) :
    Deed → Editor × Flow
  | .block _ | .label _ => (e, .next (index + 1))
  | .plain c => e.plainDeed index c
  | .quit silent status => (e, .quit status silent)
  | .text c t =>
    match c with
    | 'i' => (e.write t, .next (index + 1))
    | 'a' => ({ e with later := e.later ++ [t] }, .next (index + 1))
    | _ =>
      let inRange : Bool := g.stop.isSome && !g.inverted && (e.opened.lookup index).isSome
      (if inRange then e else e.write t, .done true)
  | .jump c name =>
    let target := after steps name
    match c with
    | 'b' => (e, .next target)
    | 't' =>
      if e.substituted then ({ e with substituted := false }, .next target)
      else (e, .next (index + 1))
    | _ =>
      if e.substituted then ({ e with substituted := false }, .next (index + 1))
      else (e, .next target)
  | .exchange pairs =>
    ({ e with space := e.space.map fun c => (pairs.lookup c).getD c }, .next (index + 1))
  | .substitute s =>
    match s.expression.or e.used with
    | none => (e, .next (index + 1))
    | some r =>
      let (t, done) := substituted? s r e.space (2 * e.space.length + 4) 0 1 false
      let e := { e with used := some r }
      if !done then (e, .next (index + 1))
      else
        let e := { e with space := t, substituted := true }
        let e := if s.shows then e.writeLine t else e
        let e := match s.file with
          | some f => e.writeFile f (t ++ ['\n'])
          | none => e
        (e, .next (index + 1))
  | .file c name =>
    match c with
    | 'r' => ({ e with later := e.later ++ (files.lookup name).toList }, .next (index + 1))
    | 'R' =>
      let ls := (e.readers.lookup name).getD (Utility.lines ((files.lookup name).getD []))
      let shown := (ls.take 1).map (· ++ ['\n'])
      ({ e with
        later := e.later ++ shown, readers := withKey e.readers name (some (ls.drop 1)) },
        .next (index + 1))
    | 'w' => (e.writeFile name (e.space ++ ['\n']), .next (index + 1))
    | _ => (e.writeFile name (e.space.takeWhile (· ≠ '\n') ++ ['\n']), .next (index + 1))

def finishCycle (e : Editor) (deleted : Bool) : Editor :=
  (if deleted || e.quiet then e else e.writeLine e.space).flush

/-- Runs commands from one on, at most so many. -/
def run (files : Library) (steps : Array Step) : Nat → Nat → Editor → Editor
  | 0, _, e => e
  | n + 1, index, e =>
    let nextCycle (e : Editor) : Editor :=
      match e.next? with
      | none => e
      | some e => run files steps n 0 { e with substituted := false }
    match steps[index]? with
    | none => nextCycle (e.finishCycle false)
    | some s =>
      match e.admits index s.guard with
      | (false, e) =>
        let skipped := match s.deed with
          | .block size => size
          | _ => 0
        run files steps n (index + 1 + skipped) e
      | (true, e) =>
        match e.perform files steps index s.guard s.deed with
        | (e, .next index) => run files steps n index e
        | (e, .done deleted) => nextCycle (e.finishCycle deleted)
        | (e, .again) => run files steps n 0 e.flush
        | (e, .quit status silent) => { e.finishCycle silent with exit := some status }

end Editor

def edit (files : Library) (steps : List Step) (quiet : Bool) (text : List Char) : Editor :=
  let (ls, finished) := Utility.linesOf text
  let e : Editor := { left := ls, finished, quiet }
  match e.next? with
  | none => e
  | some e => e.run files steps.toArray 3000000 0

end Sed

namespace Utility

def scriptFiles (steps : List Sed.Step) : List String :=
  steps.filterMap fun s =>
    match s.deed with
    | .file c name => if c = 'r' ∨ c = 'R' then some name else none
    | _ => none

def scriptTargets (steps : List Sed.Step) : List String :=
  steps.filterMap fun s =>
    match s.deed with
    | .file c name => if c = 'w' ∨ c = 'W' then some name else none
    | .substitute s => s.file
    | _ => none

/-- Edits files by a script. -/
def sed (c : Call) : Act Nat := do
  let names := [("quiet", 'n', false), ("silent", 'n', false), ("expression", 'e', true),
    ("file", 'f', true), ("regexp-extended", 'E', false), ("separate", 's', false),
    ("in-place", 'i', false), ("null-data", 'z', false), ("unbuffered", 'u', false),
    ("posix", 'p', false), ("line-length", 'l', true), ("debug", 'D', false)]
  let g : Grammar := { letters := "ne:f:Erszui::l:", names }
  match g.read c.words with
  | .error e =>
    c.complain e
    Act.complain ("Usage: " ++ c.called ++ " [OPTION]... \x7bscript-only-if-no-other-script\x7d " ++
      "[input-file]...")
    return 1
  | .ok (os, ws) =>
    let mut texts : List (List Char) := []
    for o in os do
      if o.letter = 'e' then texts := texts ++ [o.argument.toList]
      else if o.letter = 'f' then
        match ← Call.input o.argument with
        | .ok t => texts := texts ++ [if t.getLast? = some '\n' then t.dropLast else t]
        | .error fault =>
          return ← c.fail ("couldn't open file " ++ o.argument ++ ": " ++ Fault.words fault) 1
    let given : Bool := texts ≠ []
    match given, ws with
    | false, [] =>
      Act.complain ("Usage: " ++ c.called ++ " [OPTION]... \x7bscript-only-if-no-other-script\x7d " ++
        "[input-file]...")
      return 1
    | _, _ =>
      let text := if given then ['\n'].intercalate texts else (ws.head?.getD "").toList
      let files := if given then ws else ws.drop 1
      let extended : Bool := hasOption os 'E' || hasOption os 'r'
      match Sed.script extended text with
      | .error e => c.fail ("-e expression #1, char " ++ toString text.length ++ ": " ++ e) 1
      | .ok steps =>
        let quiet : Bool := hasOption os 'n' || (!given && text.take 3 = ['#', 'n', '\n'])
        run c os quiet steps files
where
  /-- Runs a script on files. -/
  run (c : Call) (os : List Given) (quiet : Bool) (steps : List Sed.Step) (files : List String) :
      Act Nat := do
    let mut library := []
    for name in scriptFiles steps do
      match ← Act.readPath name with
      | .ok t => library := (name, t) :: library
      | .error _ => pure ()
    for name in scriptTargets steps do
      if name ≠ "/dev/stdout" then
        let _ ← Act.writePath (.output true) name ""
    let inPlace := hasOption os 'i'
    let mut read := []
    let mut status := 0
    for file in if files = [] then ["-"] else files do
      match ← Call.input file with
      | .ok t => read := read ++ [(file, t)]
      | .error .isDirectory =>
        c.complain (if inPlace then "couldn't edit " ++ file ++ ": not a regular file"
          else "read error on " ++ file ++ ": Is a directory")
        status := if inPlace then 4 else 2
      | .error fault =>
        c.complain ("can't read " ++ file ++ ": " ++ Fault.words fault)
        status := 2
    let keep (e : Sed.Editor) : Act Unit := do
      for (name, t) in e.written do
        let _ ← Act.writePath .append name t
    if inPlace || hasOption os 's' then
      for (file, t) in read do
        let e := Sed.edit library steps quiet t
        if inPlace then
          let backup := (argumentOf? os 'i').getD ""
          if backup ≠ "" then
            let _ ← Act.writePath (.output true) (file ++ backup) (String.ofList t)
          let _ ← Act.writePath (.output true) file e.output
        else
          let _ ← Act.writeTo 1 e.output
        keep e
        match e.exit with
        | some n =>
          if inPlace then
            let _ ← Act.writePath .append file (String.ofList (['\n'].intercalate e.left))
          return n
        | none => pure ()
      return status
    else
      let all := read.map Prod.snd
      -- A file without a line end at its end gets one if another file follows.
      let joined := all.zipIdx.flatMap fun (t, k) =>
        if k + 1 < all.length && t ≠ [] && t.getLast? ≠ some '\n' then t ++ ['\n'] else t
      let e := Sed.edit library steps quiet joined
      let _ ← Act.writeTo 1 e.output
      keep e
      return (e.exit.filter (· ≠ 0)).getD status

end Utility

end InlineRemote.Shell
