import InlineRemote.Shell.Utility.Files

/-! # How files differ

Two files are compared character by character, or line by line.  What leads from one list of lines to
another is a list of edits that keeps as many lines as can be kept; the changes in it are shown in
hunks. -/
namespace InlineRemote.Shell

namespace Utility

/-- What happens to a line on the way from one file to another. -/
inductive Edit (α : Type) where
  | keep (x : α)
  | drop (x : α)
  | add (x : α)

namespace Edit

def keeps {α : Type} : Edit α → Bool
  | .keep _ => true
  | _ => false

def before? {α : Type} : Edit α → Option α
  | .keep x => some x
  | .drop x => some x
  | .add _ => none

def after? {α : Type} : Edit α → Option α
  | .keep x => some x
  | .drop _ => none
  | .add x => some x

/-- How many elements a list has in common with each end of another list, the longest end first; given
the same for the list without its first element. -/
def commons {α : Type} (same : α → α → Bool) (x : α) : List α → List Nat → List Nat
  | [], _ => [0]
  | y :: ys, counts =>
    let rest := commons same x ys counts.tail
    let count :=
      if same x y then 1 + (counts.tail.head?.getD 0)
      else max (counts.head?.getD 0) (rest.head?.getD 0)
    count :: rest

def table {α : Type} (same : α → α → Bool) (as bs : List α) : List (List Nat) :=
  as.foldr (fun x rows => commons same x bs (rows.head?.getD []) :: rows) [0 :: bs.map fun _ => 0]

def along {α : Type} (same : α → α → Bool) : List α → List α → List (List Nat) → List (Edit α)
  | [], bs, _ => bs.map .add
  | as, [], _ => as.map .drop
  | a :: as, b :: bs, rows =>
    let count (i j : Nat) : Nat := ((rows[i]?.bind (·[j]?))).getD 0
    if same a b then .keep a :: along same as bs (rows.tail.map List.tail)
    else if count 0 1 ≤ count 1 0 then .drop a :: along same as (b :: bs) rows.tail
    else .add b :: along same (a :: as) bs (rows.map List.tail)
  termination_by as bs => as.length + bs.length

def between {α : Type} (same : α → α → Bool) (as bs : List α) : List (Edit α) :=
  along same as bs (table same as bs)

end Edit

/-- A line of a file, and whether it has an end. -/
structure FileLine where
  text : List Char
  ended : Bool
  deriving DecidableEq

/-- Changes that stand together, with the numbers of lines before them in both files. -/
structure Hunk where
  first : Nat
  second : Nat
  edits : List (Edit FileLine)

namespace Hunk

def old (h : Hunk) : List FileLine :=
  h.edits.filterMap Edit.before?

def new (h : Hunk) : List FileLine :=
  h.edits.filterMap Edit.after?

/-- The hunks of a list of edits, where so many lines are kept around a change. -/
def hunks (context : Nat) (es : List (Edit FileLine)) : List Hunk :=
  let isNear (i : Nat) : Bool :=
    ((es.drop (i - context)).take (context + min i context + 1)).any (!·.keeps)
  let step (e : Edit FileLine × Nat) (done : List Hunk × Option Hunk × Nat × Nat) :
      List Hunk × Option Hunk × Nat × Nat :=
    let (hs, open?, first, second) := done
    let first := first - if e.1.before?.isSome then 1 else 0
    let second := second - if e.1.after?.isSome then 1 else 0
    if isNear e.2 then
      let edits := e.1 :: (open?.map Hunk.edits).getD []
      (hs, some { first, second, edits }, first, second)
    else (open?.toList ++ hs, none, first, second)
  let (hs, open?, _, _) := es.zipIdx.foldr step
    ([], none, (es.filterMap Edit.before?).length, (es.filterMap Edit.after?).length)
  open?.toList ++ hs

def marked (mark : String) (l : FileLine) : String :=
  mark ++ String.ofList l.text ++ "\n" ++ if l.ended then "" else "\\ No newline at end of file\n"

def range (start length : Nat) : String :=
  if length = 0 then toString start
  else if length = 1 then toString (start + 1)
  else toString (start + 1) ++ "," ++ toString (start + length)

def plain (h : Hunk) : String :=
  let (old, new) := (h.old, h.new)
  let letter := if old = [] then "a" else if new = [] then "d" else "c"
  let parts := if old ≠ [] ∧ new ≠ [] then "---\n" else ""
  range h.first old.length ++ letter ++ range h.second new.length ++ "\n" ++
    "".intercalate (old.map (marked "< ")) ++ parts ++ "".intercalate (new.map (marked "> "))

def unified (h : Hunk) : String :=
  let side (start length : Nat) : String :=
    let start := if length = 0 then start else start + 1
    toString start ++ if length = 1 then "" else "," ++ toString length
  let line (e : Edit FileLine) : String :=
    match e with
    | .keep l => marked " " l
    | .drop l => marked "-" l
    | .add l => marked "+" l
  "@@ -" ++ side h.first h.old.length ++ " +" ++ side h.second h.new.length ++ " @@\n" ++
    "".intercalate (h.edits.map line)

def sideLines (letter : String) (mine : Edit FileLine → Option FileLine) (es : List (Edit FileLine)) :
    List String :=
  let rec go : Nat → List (Edit FileLine) → List String
    | 0, _ => []
    | _, [] => []
    | n + 1, e :: es =>
      if e.keeps then (mine e).toList.map (marked "  ") ++ go n es
      else
        let change := (e :: es).takeWhile (!·.keeps)
        let both : Bool := change.any (·.before?.isSome) && change.any (·.after?.isSome)
        (change.filterMap mine).map (marked ((if both then "!" else letter) ++ " ")) ++
          go n ((e :: es).drop change.length)
  go (es.length + 1) es

def context (h : Hunk) : String :=
  let changes (f : Edit FileLine → Option FileLine) : Bool :=
    h.edits.any fun e => !e.keeps && (f e).isSome
  let lines (letter : String) (f : Edit FileLine → Option FileLine) : String :=
    if changes f then "".intercalate (sideLines letter f h.edits) else ""
  "***************\n*** " ++ range h.first h.old.length ++ " ****\n" ++ lines "-" Edit.before? ++
    "--- " ++ range h.second h.new.length ++ " ----\n" ++ lines "+" Edit.after?

end Hunk

/-- How files are compared line by line. -/
structure Comparing where
  /-- Only whether they differ is shown. -/
  brief : Bool
  /-- It is shown if they do not. -/
  tells : Bool
  /-- The lines around a change, and whether they are shown as one list; no lines if not given. -/
  context : Option (Nat × Bool)
  foldCase : Bool
  /-- Amounts of blanks do not count. -/
  evens : Bool
  /-- Blanks do not count. -/
  ignoresBlanks : Bool
  /-- Changes of empty lines do not count. -/
  ignoresEmpty : Bool
  deep : Bool
  /-- A file that is not there is empty. -/
  supplies : Bool
  asText : Bool
  labels : List String
  /-- The words for the options, which are shown with the names of files. -/
  words : List String

namespace Comparing

def view (k : Comparing) (l : FileLine) : List Char × Bool :=
  let t := if k.foldCase then l.text.map Char.toLower else l.text
  let words := wordsOf t
  if k.ignoresBlanks then (words.flatten, true)
  else if k.evens then
    let lead : List Char := if t.head?.any isGap && words ≠ [] then [' '] else []
    (lead ++ [' '].intercalate words, true)
  else (t, l.ended)

def lines (t : List Char) : List FileLine :=
  let (ls, ended) := linesOf t
  ls.zipIdx.map fun (l, i) => ⟨l, ended || i + 1 < ls.length⟩

/-- Compares two texts; the answer is what is shown, and whether they differ. -/
def compare (k : Comparing) (titles : List String) (names : List String) (a b : List Char) :
    String × Bool :=
  let both := " and ".intercalate names
  let same (x y : FileLine) : Bool := k.view x = k.view y
  let alike := if k.tells then "Files " ++ both ++ " are identical\n" else ""
  if a = b then (alike, false)
  else if !k.asText && (a.contains '\x00' || b.contains '\x00') then
    ((if k.brief then "Files " ++ both ++ " differ\n" else "Binary files " ++ both ++ " differ\n"),
      true)
  else
    let es := Edit.between same (lines a) (lines b)
    let counts (h : Hunk) : Bool :=
      !k.ignoresEmpty ||
        (h.edits.filter (!·.keeps)).any fun e => (e.before?.or e.after?).any (·.text ≠ [])
    let hs := (Hunk.hunks 0 es).filter counts
    if hs = [] then (alike, false)
    else if k.brief then ("Files " ++ both ++ " differ\n", true)
    else
      let title (mark : String) (n : Nat) : String :=
        mark ++ " " ++ (k.labels[n]?.getD (titles[n]?.getD "")) ++ "\n"
      match k.context with
      | none => ("".intercalate (hs.map Hunk.plain), true)
      | some (n, true) =>
        (title "---" 0 ++ title "+++" 1 ++ "".intercalate ((Hunk.hunks n es).map Hunk.unified), true)
      | some (n, false) =>
        (title "***" 0 ++ title "---" 1 ++ "".intercalate ((Hunk.hunks n es).map Hunk.context), true)

def title (k : Comparing) (s : Session) (path : String) : String :=
  let time := ((s.node? true path).map fun e => e.2.time).getD 0
  let form := match k.context with
    | some (_, false) => "%a %b %e %H:%M:%S %Y"
    | _ => "%Y-%m-%d %H:%M:%S.%N %z"
  path ++ "\t" ++ (Moment.ofSeconds (time / 1000000)).format (time % 1000000) form

/-- Compares what two paths lead to, directories at most so deep; `inner` says that they were met in
directories. -/
def paths (k : Comparing) (c : Call) : Nat → Bool → String → String → Act Nat
  | 0, _, _, _ => return 2
  | n + 1, inner, a, b => do
    let s ← get
    let isDirectory (p : String) : Bool := p ≠ "-" && matterOf? s true p = some .directory
    let isThere (p : String) : Bool := p = "-" || (s.node? true p).isSome
    match isDirectory a, isDirectory b with
    | true, true =>
      if inner && !k.deep then
        Act.print ("Common subdirectories: " ++ a ++ " and " ++ b ++ "\n")
        return 0
      let names (p : String) : List String :=
        match s.find p with
        | .ok (place, _, _) => s.disk.list place
        | .error _ => []
      let (as, bs) := (names a, names b)
      let all := (as ++ bs.filter (!as.contains ·)).mergeSort (· ≤ ·)
      let mut status := 0
      for name in all do
        let (x, y) := (as.contains name, bs.contains name)
        if (x && y) || k.supplies then
          status := max status (← paths k c n true (inside a name) (inside b name))
        else
          Act.print ("Only in " ++ (if x then a else b) ++ ": " ++ name ++ "\n")
          status := max status 1
      return status
    | true, false =>
      if inner && isThere b then
        Act.print ("File " ++ a ++ " is a directory while file " ++ b ++ " is a regular file\n")
        return 1
      paths k c n inner (inside a (baseName b)) b
    | false, true =>
      if inner && isThere a then
        Act.print ("File " ++ a ++ " is a regular file while file " ++ b ++ " is a directory\n")
        return 1
      paths k c n inner a (inside b (baseName a))
    | false, false =>
      let read (p : String) : Act (Option (List Char)) := do
        if k.supplies && !isThere p then return some []
        match ← Call.input p with
        | .ok t => return some t
        | .error fault =>
          c.complain (p ++ ": " ++ Fault.words fault)
          return none
      let x? ← read a
      let y? ← if a = b then pure x? else read b
      match x?, y? with
      | some x, some y =>
        let (text, differs) := k.compare [k.title s a, k.title s b] [a, b] x y
        let lead :=
          if inner && differs && !k.brief then " ".intercalate ("diff" :: k.words ++ [a, b]) ++ "\n"
          else ""
        Act.print (lead ++ text)
        return if differs then 1 else 0
      | _, _ => return 2

end Comparing

/-- Shows how files differ in their lines. -/
def difference (c : Call) : Act Nat := do
  let names := [("brief", 'q', false), ("report-identical-files", 's', false),
    ("recursive", 'r', false), ("new-file", 'N', false), ("ignore-case", 'i', false),
    ("ignore-space-change", 'b', false), ("ignore-all-space", 'w', false),
    ("ignore-blank-lines", 'B', false), ("text", 'a', false), ("unified", 'u', false),
    ("context", 'c', false), ("label", 'L', true), ("normal", 'n', false),
    ("ignore-trailing-space", 'Z', false), ("minimal", 'd', false), ("expand-tabs", 't', false),
    ("strip-trailing-cr", '\r', false), ("color", 'k', false)]
  c.withOptions { letters := "qsrNibwBauU:cC:L:ZdtEpT0123456789", names } 2 fun os ws => do
    match ws with
    | [a, b] =>
      let has (o : Char) : Bool := hasOption os o
      let digits := (os.map Given.letter).filter Char.isDigit
      let wanted? (o : Char) : Option Nat := (argumentOf? os o).bind count?
      let given : Nat := if digits = [] then 3 else Text.ofDigits 10 digits
      let context :=
        if has 'U' then some ((wanted? 'U').getD 3, true)
        else if has 'u' then some (given, true)
        else if has 'C' then some ((wanted? 'C').getD 3, false)
        else if has 'c' then some (given, false)
        else none
      let k : Comparing :=
        { brief := has 'q', tells := has 's', context
          foldCase := has 'i', evens := has 'b' || has 'Z', ignoresBlanks := has 'w'
          ignoresEmpty := has 'B', deep := has 'r', supplies := has 'N', asText := has 'a'
          labels := (os.filter (·.letter = 'L')).map Given.argument
          words := c.words.filter fun w => w.toList.head? = some '-' && w ≠ "-" }
      k.paths c 40 false a b
    | [] => c.lacksOperand 2
    | [a] =>
      c.complain ("missing operand after '" ++ a ++ "'")
      return 2
    | _ => c.fail ("extra operand '" ++ ws[2]?.getD "" ++ "'") 2

/-- Shows where files differ in their characters. -/
def firstDifference (c : Call) : Act Nat := do
  let names := [("print-bytes", 'b', false), ("ignore-initial", 'i', true), ("verbose", 'l', false),
    ("bytes", 'n', true), ("quiet", 's', false), ("silent", 's', false)]
  c.withOptions { letters := "bci:ln:s", names } 2 fun os ws => do
    let has (o : Char) : Bool := hasOption os o
    let shows := has 'b' || has 'c'
    match ws with
    | [] => c.lacksOperand 2
    | a :: rest =>
      let b := rest.headD "-"
      let starts := ((argumentOf? os 'i').getD "0").splitOn ":"
      let skip? (n : Nat) : Option Nat :=
        match ws[n + 2]? with
        | some w => sized? w
        | none => sized? (starts[n]?.getD (starts.headD ""))
      let most? := (argumentOf? os 'n').map sized?
      match skip? 0, skip? 1, most? with
      | none, _, _ | _, none, _ =>
        c.fail ("invalid --ignore-initial value '" ++ (argumentOf? os 'i').getD "" ++ "'") 2
      | _, _, some none => c.fail ("invalid --bytes value '" ++ (argumentOf? os 'n').getD "" ++ "'") 2
      | some i, some j, most? =>
        if 4 < ws.length then return ← c.fail ("extra operand '" ++ ws[4]?.getD "" ++ "'") 2
        let cut (n : Nat) (t : List Char) : List Char :=
          match most? with
          | some (some m) => (t.drop n).take m
          | _ => t.drop n
        let read (p : String) : Act (Option (List Char)) := do
          match ← Call.input p with
          | .ok t => return some t
          | .error fault =>
            if !has 's' || fault ≠ .notFound then c.complain (p ++ ": " ++ Fault.words fault)
            return none
        match ← read a with
        | none => return 2
        | some x =>
          let y? ← if a = b then pure (some x) else read b
          match y? with
          | none => return 2
          | some y =>
            let (x, y) := (cut i x, cut j y)
            let pairs := (x.zip y).zipIdx.filter fun e => e.1.1 ≠ e.1.2
            let octal (ch : Char) : String := atRight 3 (String.ofList (Nat.toDigits 8 ch.toNat))
            let seen (ch : Char) : String :=
              String.ofList (if ch = '\n' then ['^', 'J'] else if ch = '\t' then ['^', 'I'] else visible ch)
            let breaks (t : List Char) : Nat := (t.filter (· = '\n')).length
            let finish : Act Nat := do
              if x.length = y.length then return if pairs = [] then 0 else 1
              let (file, t) := if x.length < y.length then (a, x) else (b, y)
              if !has 's' then
                if t = [] then c.complain ("EOF on " ++ file ++ " which is empty")
                else
                  let line := if has 'l' then "" else if t.getLast? = some '\n' then
                    ", line " ++ toString (breaks t) else ", in line " ++ toString (breaks t + 1)
                  c.complain ("EOF on " ++ file ++ " after byte " ++ toString t.length ++ line)
              return 1
            match pairs with
            | [] => finish
            | ((p, q), n) :: _ =>
              if has 's' then return 1
              if has 'l' then
                let width := (toString (min x.length y.length)).length
                let line (e : (Char × Char) × Nat) : String :=
                  let number := atRight width (toString (e.2 + 1))
                  if shows then
                    let first := seen e.1.1
                    number ++ " " ++ octal e.1.1 ++ " " ++ first ++
                      String.ofList (List.replicate (4 - first.length) ' ') ++ " " ++
                      octal e.1.2 ++ " " ++ seen e.1.2 ++ "\n"
                  else number ++ " " ++ octal e.1.1 ++ " " ++ octal e.1.2 ++ "\n"
                Act.print ("".intercalate (pairs.map line))
                let _ ← finish
                return 1
              let unit := if shows then "byte " else "char "
              let more :=
                if shows then
                  " is " ++ octal p ++ " " ++ seen p ++ " " ++ octal q ++ " " ++ seen q
                else ""
              Act.print (a ++ " " ++ b ++ " differ: " ++ unit ++ toString (n + 1) ++ ", line " ++
                toString (breaks (x.take n) + 1) ++ more ++ "\n")
              return 1

end Utility

end InlineRemote.Shell
