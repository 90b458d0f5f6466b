import InlineRemote.Shell.Utility.Call

/-! # Programs that show the lines of files

Files are shown as they are, backwards, in part, with numbers, or cut into shorter lines. -/
namespace InlineRemote.Shell

namespace Utility

def visible (c : Char) : List Char :=
  let low (n : Nat) : List Char :=
    if n < 32 then ['^', Char.ofNat (n + 64)] else if n = 127 then ['^', '?'] else [Char.ofNat n]
  if c = '\n' ∨ c = '\t' then [c]
  else if c.toNat < 128 then low c.toNat
  else ['M', '-'] ++ low (c.toNat - 128)

/-- How lines of files are shown: with numbers, or only those with letters; without repeated empty
lines; with marks for their ends and for tabs; and with all characters to be seen. -/
structure LineLook where
  numbers : Bool
  onlyFull : Bool
  squeezed : Bool
  ends : Bool
  tabs : Bool
  shown : Bool

/-- Shows lines, given the number of the last one and whether it was empty. -/
def LineLook.show (k : LineLook) : Nat → Bool → List (List Char) → Bool → List Char
  | _, _, [], _ => []
  | n, wasEmpty, l :: ls, ended =>
    if k.squeezed && wasEmpty && l = [] then k.show n true ls ended
    else
      let counted : Bool := k.numbers && !(k.onlyFull && l = [])
      let n := if counted then n + 1 else n
      let number := if counted then (atRight 6 (toString n) ++ "\t").toList else []
      let seen := if k.shown then l.flatMap visible else l
      let seen := if k.tabs then
          seen.flatMap fun c => if c = '\t' then ['^', 'I'] else [c]
        else seen
      let finish := if ls = [] && !ended then [] else if k.ends then ['$', '\n'] else ['\n']
      number ++ seen ++ finish ++ k.show n (l = []) ls ended

def concatenate (c : Call) : Act Nat := do
  let names := [("number", 'n', false), ("number-nonblank", 'b', false), ("show-all", 'A', false),
    ("show-ends", 'E', false), ("show-tabs", 'T', false), ("squeeze-blank", 's', false),
    ("show-nonprinting", 'v', false)]
  c.withOptions { letters := "nbsETAvetu", names } 1 fun os files => do
    let (texts, fine) ← c.inputs files
    let has (cs : List Char) : Bool := cs.any (hasOption os)
    let look : LineLook :=
      { numbers := has ['n', 'b'], onlyFull := has ['b'], squeezed := has ['s']
        ends := has ['E', 'A', 'e'], tabs := has ['T', 'A', 't'], shown := has ['v', 'A', 'e', 't'] }
    let text := texts.flatMap Prod.snd
    let shown :=
      if os.all (·.letter = 'u') then text
      else
        let (ls, ended) := linesOf text
        look.show 0 false ls ended
    c.print (String.ofList shown) (if fine then 0 else 1)

def backwards (c : Call) : Act Nat := do
  c.withOptions { letters := "bs:r" } 1 fun _ files => do
    let (texts, fine) ← c.inputs files
    let shown (t : List Char) : List Char :=
      let (ls, ended) := linesOf t
      let ls := ls.map (· ++ ['\n'])
      (match ls.reverse, ended with
        | l :: ls, false => l.dropLast :: ls
        | ls, _ => ls).flatten
    c.print (String.ofList (texts.flatMap fun (_, t) => shown t)) (if fine then 0 else 1)

def mirror (c : Call) : Act Nat := do
  let (texts, fine) ← c.inputs c.words
  let (ls, ended) := linesOf (texts.flatMap Prod.snd)
  let t := ['\n'].intercalate (ls.map List.reverse) ++ if ended && ls ≠ [] then ['\n'] else []
  c.print (String.ofList t) (if fine then 0 else 1)

def sized? (w : String) : Option Nat :=
  let ds := w.toList.takeWhile Char.isDigit
  let factor? : Option Nat :=
    match String.ofList (w.toList.drop ds.length) with
    | "" | "c" => some 1
    | "b" => some 512
    | "K" | "k" | "KiB" => some 1024
    | "kB" | "KB" => some 1000
    | "M" | "m" | "MiB" => some 1048576
    | "MB" => some 1000000
    | "G" | "GiB" => some 1073741824
    | "GB" => some 1000000000
    | _ => none
  if ds = [] then none else factor?.map (· * Text.ofDigits 10 ds)

/-- The words with a number after a dash, or with a plus sign, written as an option for lines. -/
def withOldCount (signs : List Char) (ws : List String) : List String :=
  match ws with
  | w :: rest =>
    match w.toList with
    | s :: d :: ds =>
      let digits := (d :: ds).takeWhile Char.isDigit
      let kind := (d :: ds).drop digits.length
      if signs.contains s && digits ≠ [] then
        let option := if kind = ['c'] then "-c" else "-n"
        let count := if s = '+' then '+' :: digits else digits
        option :: String.ofList count :: rest
      else ws
    | _ => ws
  | [] => []

/-- Shows a part of each of some files, with a line that names it if there are several. -/
def showParts (c : Call) (os : List Given) (files : List String)
    (part : List Char → List Char) : Act Nat := do
  let (texts, fine) ← c.inputs files
  let titled : Bool := (1 < files.length && !hasOption os 'q') || hasOption os 'v'
  let shown (entry : (String × List Char) × Nat) : List Char :=
    let ((file, t), k) := entry
    let title := if file = "-" then "standard input" else file
    let front := if k = 0 then "" else "\n"
    if titled then (front ++ "==> " ++ title ++ " <==\n").toList ++ part t else part t
  c.print (String.ofList (texts.zipIdx.flatMap shown)) (if fine then 0 else 1)

def partNames : List (String × Char × Bool) :=
  [("lines", 'n', true), ("bytes", 'c', true), ("quiet", 'q', false), ("silent", 'q', false),
    ("verbose", 'v', false), ("follow", 'f', false), ("zero-terminated", 'z', false)]

def joined (ls : List (List Char)) (ended : Bool) : List Char :=
  let t := ls.flatMap (· ++ ['\n'])
  if ended then t else t.dropLast

def first (c : Call) : Act Nat := do
  let c := { c with words := withOldCount ['-'] c.words }
  c.withOptions { letters := "n:c:qvz", names := partNames } 1 fun os files => do
    let bytes : Bool := (os.filter fun o => o.letter = 'n' || o.letter = 'c').getLast?.any
      (·.letter = 'c')
    let wanted := (argumentOf? os (if bytes then 'c' else 'n')).getD "10"
    let (less, digits) : Bool × String := match wanted.toList with
      | '-' :: ds => (true, String.ofList ds)
      | '+' :: ds => (false, String.ofList ds)
      | _ => (false, wanted)
    match sized? digits with
    | none =>
      c.fail ("invalid number of " ++ (if bytes then "bytes" else "lines") ++ ": '" ++ wanted ++ "'") 1
    | some n =>
      showParts c os files fun t =>
        if bytes then if less then t.take (t.length - n) else t.take n
        else
          let (ls, ended) := linesOf t
          let k := if less then ls.length - n else n
          joined (ls.take k) (ended || k < ls.length || ls = [])

def last (c : Call) : Act Nat := do
  let c := { c with words := withOldCount ['-', '+'] c.words }
  c.withOptions { letters := "n:c:qvfFz", names := partNames } 1 fun os files => do
    let bytes : Bool := (os.filter fun o => o.letter = 'n' || o.letter = 'c').getLast?.any
      (·.letter = 'c')
    let wanted := (argumentOf? os (if bytes then 'c' else 'n')).getD "10"
    let (fromFront, digits) : Bool × String := match wanted.toList with
      | '+' :: ds => (true, String.ofList ds)
      | '-' :: ds => (false, String.ofList ds)
      | _ => (false, wanted)
    match sized? digits with
    | none =>
      c.fail ("invalid number of " ++ (if bytes then "bytes" else "lines") ++ ": '" ++ wanted ++ "'") 1
    | some n =>
      showParts c os files fun t =>
        if bytes then if fromFront then t.drop (n - 1) else t.drop (t.length - n)
        else
          let (ls, ended) := linesOf t
          joined (ls.drop (if fromFront then n - 1 else ls.length - n)) (ended || ls = [])

def counts (os : List Given) (t : List Char) : List Nat :=
  let all : Bool := os = []
  let on (c : Char) (byDefault : Bool) (n : Nat) : List Nat :=
    if hasOption os c || (all && byDefault) then [n] else []
  on 'l' true (t.count '\n') ++ on 'w' true (wordsOf t).length ++
    on 'm' false t.length ++
    on 'c' true t.length ++ on 'L' false (((lines t).map List.length).max?.getD 0)

def count (c : Call) : Act Nat := do
  let names := [("lines", 'l', false), ("words", 'w', false), ("bytes", 'c', false),
    ("chars", 'm', false), ("max-line-length", 'L', false)]
  c.withOptions { letters := "lwcmL", names } 1 fun os files => do
    let (texts, fine) ← c.inputs files
    let size := (texts.map fun (_, t) => t.length).foldl (· + ·) 0
    let columns := (counts os []).length
    let fromStream : Bool := files = [] || files.contains "-"
    let width :=
      if columns = 1 && files.length ≤ 1 then 1
      else if fromStream then 7 else (toString size).length
    let row (ns : List Nat) (name : String) : String :=
      " ".intercalate (ns.map fun n => atRight width (toString n)) ++
        (if name = "" then "" else " " ++ name) ++ "\n"
    let rows := texts.map fun (file, t) => row (counts os t) (if files = [] then "" else file)
    let total := (texts.map fun (_, t) => counts os t).foldl
      (fun a b => a.zipWith (· + ·) b) (List.replicate columns 0)
    let more := if 1 < files.length then row total "total" else ""
    c.print ("".intercalate rows ++ more) (if fine then 0 else 1)

def number (c : Call) : Act Nat := do
  c.withOptions { letters := "b:w:s:v:i:n:h:f:l:p" } 1 fun os files => do
    let (texts, fine) ← c.inputs files
    let get (o : Char) (usual : Nat) : Nat := ((argumentOf? os o).bind String.toNat?).getD usual
    let width := get 'w' 6
    let separator := (argumentOf? os 's').getD "\t"
    let all : Bool := (argumentOf? os 'b').getD "t" = "a"
    let none : Bool := (argumentOf? os 'b').getD "t" = "n"
    let shown (n : Nat) : String :=
      match argumentOf? os 'n' with
      | some "ln" => toString n ++ String.ofList (List.replicate (width - (toString n).length) ' ')
      | some "rz" => String.ofList (List.replicate (width - (toString n).length) '0') ++ toString n
      | _ => atRight width (toString n)
    let step (state : Nat × List (List Char)) (l : List Char) : Nat × List (List Char) :=
      let (n, done) := state
      if !none && (all || l ≠ []) then
        (n + get 'i' 1, ((shown n ++ separator).toList ++ l) :: done)
      else (n, (List.replicate (width + separator.length) ' ' ++ l) :: done)
    let (_, done) := (lines (texts.flatMap Prod.snd)).foldl step (get 'v' 1, [])
    c.print (unlines done.reverse) (if fine then 0 else 1)

def foldLine (width : Nat) (atBlanks : Bool) : Nat → List Char → List (List Char)
  | 0, l => [l]
  | n + 1, l =>
    if l.length ≤ width then [l]
    else
      let part := l.take width
      let kept := (part.reverse.dropWhile (· ≠ ' ')).reverse
      let part := if atBlanks && kept ≠ [] then kept else part
      part :: foldLine width atBlanks n (l.drop part.length)

def foldLines (c : Call) : Act Nat := do
  let c := { c with words :=
    match c.words with
    | w :: ws =>
      match w.toList with
      | '-' :: d :: ds => if d.isDigit then "-w" :: String.ofList (d :: ds) :: ws else c.words
      | _ => c.words
    | [] => [] }
  c.withOptions { letters := "w:sb" } 1 fun os files => do
    let (texts, fine) ← c.inputs files
    let width := max 1 (((argumentOf? os 'w').bind String.toNat?).getD 80)
    let (ls, ended) := linesOf (texts.flatMap Prod.snd)
    let parts := ls.flatMap fun l => foldLine width (hasOption os 's') l.length l
    c.print (String.ofList (joined parts (ended || parts = []))) (if fine then 0 else 1)

def expandTabs (c : Call) : Act Nat := do
  c.withOptions { letters := "t:i" } 1 fun os files => do
    let (texts, fine) ← c.inputs files
    let width := max 1 (((argumentOf? os 't').bind String.toNat?).getD 8)
    let step (state : Nat × List Char) (x : Char) : Nat × List Char :=
      let (column, done) := state
      if x = '\n' then (0, x :: done)
      else if x = '\t' then
        let k := width - column % width
        (column + k, List.replicate k ' ' ++ done)
      else (column + 1, x :: done)
    let (_, done) := (texts.flatMap Prod.snd).foldl step (0, [])
    c.print (String.ofList done.reverse) (if fine then 0 else 1)

def copyOut (c : Call) : Act Nat := do
  c.withOptions { letters := "aip", names := [("append", 'a', false)] } 1 fun os files => do
    let text := String.ofList (← Act.readAll 0)
    let mut status := 0
    for file in files do
      match ← Act.writePath (if hasOption os 'a' then .append else .output true) file text with
      | .ok () => pure ()
      | .error fault =>
        c.complain (file ++ ": " ++ Fault.words fault)
        status := 1
    c.print text status

end Utility

end InlineRemote.Shell
