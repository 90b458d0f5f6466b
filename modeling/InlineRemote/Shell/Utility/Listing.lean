import InlineRemote.Shell.Utility.Files

/-! # Programs that list files

Files are shown by their names, with facts about them if these are wanted.  Names may stand in rows
or in columns. -/
namespace InlineRemote.Shell

namespace Utility

def kindOf (m : Matter) : Char × String :=
  match m with
  | .file t => ('-', if t = "" then "regular empty file" else "regular file")
  | .program _ => ('-', "regular file")
  | .directory => ('d', "directory")
  | .link _ => ('l', "symbolic link")
  | .device _ => ('c', "character special file")
  | .pipe _ => ('p', "fifo")

/-- What a letter means in the form in which facts about a file are shown. -/
def fact (s : Session) (path : String) (i : Nat) (x : Node) (letter : Char) : String :=
  let seconds := x.time / 1000000
  let bits (m : Matter) : Nat :=
    match m with
    | .file _ | .program _ => 32768
    | .directory => 16384
    | .link _ => 40960
    | .device _ => 8192
    | .pipe _ => 4096
  match letter with
  | 'n' => path
  | 'N' =>
    match x.matter with
    | .link t => "'" ++ path ++ "' -> '" ++ t ++ "'"
    | _ => "'" ++ path ++ "'"
  | 's' => toString (s.length i)
  | 'b' =>
    match x.matter with
    | .link _ => "0"
    | _ => toString ((s.length i + 4095) / 4096 * 8)
  | 'B' => "512"
  | 'o' => "4096"
  | 'a' => octalText 1 x.mode
  | 'A' => String.ofList ((kindOf x.matter).1 :: Rights.letters x.mode)
  | 'f' => String.ofList (Nat.toDigits 16 (bits x.matter + x.mode))
  | 'F' => (kindOf x.matter).2
  | 'u' | 'g' => "0"
  | 'U' | 'G' => "root"
  | 'h' =>
    let below (p : Place) : List String := (s.disk.list p).filter fun n => s.disk.isDirectory (p ++ [n])
    let more := ((s.disk.names.find? (·.2 = i)).map fun e => (below e.1).length + 1).getD 0
    toString (s.disk.links i + if x.matter = .directory then more else 0)
  | 'i' => toString (i + 2)
  | 'd' => "2049"
  | 'D' => "801"
  | 't' | 'T' => "0"
  | 'm' => "/"
  | 'X' | 'Y' | 'Z' | 'W' => toString seconds
  | 'x' | 'y' | 'z' | 'w' =>
    (Moment.ofSeconds seconds).format (x.time % 1000000) "%Y-%m-%d %H:%M:%S.%N %z"
  | '%' => "%"
  | c => "?" ++ String.singleton c

def facts (s : Session) (path : String) (i : Nat) (x : Node) (escapes : Bool) :
    List Char → List Char
  | '%' :: c :: r => (fact s path i x c).toList ++ facts s path i x escapes r
  | '\\' :: 'n' :: r => if escapes then '\n' :: facts s path i x escapes r
    else '\\' :: 'n' :: facts s path i x escapes r
  | '\\' :: 't' :: r => if escapes then '\t' :: facts s path i x escapes r
    else '\\' :: 't' :: facts s path i x escapes r
  | c :: r => c :: facts s path i x escapes r
  | [] => []

def stat (c : Call) : Act Nat := do
  let names := [("format", 'c', true), ("printf", 'p', true), ("dereference", 'L', false),
    ("file-system", 'f', false), ("terse", 't', false)]
  c.withOptions { letters := "c:Lft", names } 1 fun os ws => do
    if ws = [] then return ← c.lacksOperand 1
    forEach ws fun w => do
      let s ← get
      match s.disk.find (hasOption os 'L') s.directory w with
      | .error fault =>
        c.complain ("cannot stat '" ++ w ++ "': " ++ Fault.words fault)
        return false
      | .ok (_, i, x) =>
        let usual := "  File: %N\n  Size: %s\tBlocks: %b\tIO Block: %o %F\nDevice: 8,1\tInode: %i" ++
          "\tLinks: %h\nAccess: (%a/%A)  Uid: (    0/    root)   Gid: (    0/    root)\n" ++
          "Access: %x\nModify: %y\nChange: %z\n Birth: -"
        let shown := match argumentOf? os 'p', argumentOf? os 'c' with
          | some f, _ => facts s w i x true f.toList
          | none, some f => facts s w i x false f.toList ++ ['\n']
          | none, none => facts s w i x false usual.toList ++ ['\n']
        Act.print (String.ofList shown)
        return true

/-! ## Lists -/

/-- Blanks from one column of a line to another; a tab stands for as many of them as it can. -/
def gapTo (start stop : Nat) : List Char :=
  if _h : start < stop then
    if (start + 1) / 8 < stop / 8 then '\t' :: gapTo ((start / 8 + 1) * 8) stop
    else ' ' :: gapTo (start + 1) stop
  else []
  termination_by stop - start

/-- The widths of so many columns for names of given lengths, which go down the columns or along the
rows. -/
def columnWidths (down : Bool) (columns : Nat) (lengths : List Nat) : List Nat :=
  let height := (lengths.length + columns - 1) / columns
  let column (i : Nat) : Nat := if down then i / max height 1 else i % columns
  (List.range columns).map fun k =>
    let between := if k + 1 = columns then 0 else 2
    let there := lengths.zipIdx.filter fun e => column e.2 = k
    (there.map fun e => e.1 + between).foldl max 3

/-- Names in as many columns as there is room for. -/
def inColumns (down : Bool) (width : Nat) (names : List String) : String :=
  let lengths := names.map String.length
  let fits (columns : Nat) : Bool := (columnWidths down columns lengths).foldl (· + ·) 0 < width
  let most := min names.length (max 1 (width / 3))
  let columns := (((List.range most).reverse.map (· + 1)).find? fits).getD 1
  let widths := columnWidths down columns lengths
  let height := (names.length + columns - 1) / columns
  let line (ns : List String) : List Char :=
    let step (acc : List Char × Nat × Nat) (e : String × Nat) : List Char × Nat × Nat :=
      let (text, reached, start) := acc
      (text ++ gapTo reached start ++ e.1.toList, start + e.1.length, start + e.2)
    ((ns.zip widths).foldl step ([], 0, 0)).1
  let rows := (List.range height).map fun r =>
    if down then (List.range columns).filterMap fun k => names[k * height + r]?
    else (names.drop (r * columns)).take columns
  "".intercalate (rows.map fun r => String.ofList (line r) ++ "\n")

def withCommas (width : Nat) (names : List String) : String :=
  let step (acc : List Char × Nat) (name : String) : List Char × Nat :=
    let (text, reached) := acc
    if text = [] then (name.toList, name.length)
    else if width = 0 || reached + name.length + 2 < width then
      (text ++ [',', ' '] ++ name.toList, reached + 2 + name.length)
    else (text ++ [',', '\n'] ++ name.toList, name.length)
  if names = [] then "" else String.ofList (names.foldl step ([], 0)).1 ++ "\n"

def humanSize (n : Nat) : String :=
  if n < 1024 then toString n
  else
    let rec go : Nat → Nat → List String → String
      | _, _, [] => ""
      | n, unit, u :: us =>
        let tenths := (n * 10 + unit - 1) / unit
        if tenths < 100 then toString (tenths / 10) ++ "." ++ toString (tenths % 10) ++ u
        else
          let whole := (n + unit - 1) / unit
          if whole < 1024 ∨ us = [] then toString whole ++ u else go n (unit * 1024) us
    go n 1024 ["K", "M", "G", "T"]

/-- A file that is listed. -/
structure Entry where
  name : String
  number : Nat
  node : Node

def versionOrder : Nat → List Char → List Char → Bool
  | 0, _, _ => true
  | _, [], _ => true
  | _, _ :: _, [] => false
  | n + 1, c :: cs, d :: ds =>
    if c.isDigit && d.isDigit then
      let (xs, ys) := ((c :: cs).takeWhile Char.isDigit, (d :: ds).takeWhile Char.isDigit)
      let (x, y) := (Text.ofDigits 10 xs, Text.ofDigits 10 ys)
      if x ≠ y then x < y
      else versionOrder n ((c :: cs).drop xs.length) ((d :: ds).drop ys.length)
    else if c ≠ d then c < d
    else versionOrder n cs ds

/-- A list of files as it is asked for. -/
structure Listing where
  session : Session
  options : List Given
  width : Nat
  /-- The form of times; the usual one if not given. -/
  times : Option String

namespace Listing

def has (k : Listing) (letter : Char) : Bool :=
  hasOption k.options letter

def long (k : Listing) : Bool :=
  ['l', 'n', 'g', 'o'].any k.has

def blocks (k : Listing) (e : Entry) : Nat :=
  match e.node.matter with
  | .link _ => 0
  | _ => (k.session.length e.number + 4095) / 4096 * 4

/-- Files in the order in which they are listed. -/
def order (k : Listing) (es : List Entry) : List Entry :=
  let s := k.session
  let byName := es.mergeSort fun a b => a.name ≤ b.name
  let ending (e : Entry) : String :=
    let r := e.name.toList.reverse
    if r.contains '.' then String.ofList ('.' :: (r.takeWhile (· ≠ '.')).reverse) else ""
  let sorted :=
    if k.has 'U' || k.has 'f' then es
    else if k.has 't' then byName.mergeSort fun a b => b.node.time ≤ a.node.time
    else if k.has 'S' then byName.mergeSort fun a b => s.length b.number ≤ s.length a.number
    else if k.has 'v' then byName.mergeSort fun a b => versionOrder 300 a.name.toList b.name.toList
    else if k.has 'X' then byName.mergeSort fun a b => ending a ≤ ending b
    else byName
  let sorted := if k.has 'r' then sorted.reverse else sorted
  if k.has '/' then
    let (directories, others) := sorted.partition (·.node.matter = .directory)
    directories ++ others
  else sorted

def mark (k : Listing) (x : Node) : String :=
  match x.matter with
  | .directory => if k.has 'F' || k.has 'p' then "/" else ""
  | .link _ => if k.has 'F' && !k.long then "@" else ""
  | .pipe _ => if k.has 'F' then "|" else ""
  | .device _ => ""
  | _ => if k.has 'F' && x.mode &&& 73 ≠ 0 then "*" else ""

def named (k : Listing) (name : String) : String :=
  let escaped (c : Char) : List Char :=
    if c = '\n' then ['\\', 'n'] else if c = '\t' then ['\\', 't'] else if c = '\\' then ['\\', '\\']
    else if c = '"' && k.has 'Q' then ['\\', '"'] else if c = ' ' && !k.has 'Q' then ['\\', ' '] else [c]
  if k.has 'Q' then "\"" ++ String.ofList (name.toList.flatMap escaped) ++ "\""
  else if k.has 'b' then String.ofList (name.toList.flatMap escaped)
  else if k.has 'q' then
    String.ofList (name.toList.map fun c => if c.toNat < 32 ∨ c.toNat = 127 then '?' else c)
  else name

/-- The time of a file; one that is half a year away is shown by its year. -/
def time (k : Listing) (x : Node) : String :=
  let age : Int := (k.session.time : Int) - x.time
  let form :=
    match k.times with
    | some form => form
    | none => if 0 ≤ age ∧ age < 15778476000000 then "%b %e %H:%M" else "%b %e  %Y"
  (Moment.ofSeconds (x.time / 1000000)).format (x.time % 1000000) form

def size (k : Listing) (e : Entry) : String :=
  match e.node.matter with
  | .device _ => "1, 3"
  | _ =>
    let n := k.session.length e.number
    if k.has 'h' then humanSize n else toString n

/-- The facts in front of names, filled up to the same width. -/
def rows (k : Listing) (es : List Entry) : List String :=
  let s := k.session
  let even (f : Entry → String) : Entry → String :=
    let width := (es.map fun e => (f e).length).foldl max 0
    fun e => atRight width (f e) ++ " "
  let inode := even fun e => toString (e.number + 2)
  let taken := even fun e => if k.has 'h' then humanSize (k.blocks e * 1024) else toString (k.blocks e)
  let linked := even fun e => fact s e.name e.number e.node 'h'
  let sized := even k.size
  let owner := if k.has 'g' then "" else if k.has 'n' then "0 " else "root "
  let group := if k.has 'o' || k.has 'G' then "" else if k.has 'n' then "0 " else "root "
  es.map fun e =>
    let target := match e.node.matter with
      | .link t => if k.long then " -> " ++ k.named t else ""
      | _ => ""
    let facts :=
      if k.long then
        fact s e.name e.number e.node 'A' ++ " " ++ linked e ++ owner ++ group ++ sized e ++
          k.time e.node ++ " "
      else ""
    (if k.has 'i' then inode e else "") ++ (if k.has 's' then taken e else "") ++ facts ++
      k.named e.name ++ k.mark e.node ++ target

def text (k : Listing) (es : List Entry) : String :=
  let shown := k.rows (k.order es)
  -- The last of the options that say how names are laid out counts.
  let layout := (k.options.reverse.map Given.letter).find? (['1', 'C', 'm', 'x'].contains ·)
  let wide := if k.width = 0 then 1000000 else k.width
  if k.long then "".intercalate (shown.map (· ++ "\n"))
  else
    match layout with
    | some 'm' => withCommas k.width shown
    | some 'C' => inColumns true wide shown
    | some 'x' => inColumns false wide shown
    | _ => "".intercalate (shown.map (· ++ "\n"))

def entries (k : Listing) (p : Place) : List Entry :=
  let s := k.session
  let dots := if k.has 'a' || k.has 'f' then [(".", p), ("..", p.dropLast)] else []
  let names := (s.disk.list p).filter fun n =>
    (k.has 'a' || k.has 'A' || k.has 'f' || n.toList.head? ≠ some '.') &&
      !(k.has 'B' && n.toList.getLast? = some '~')
  (dots ++ names.map fun n => (n, p ++ [n])).filterMap fun (n, q) => do
    let i ← s.disk.at? q
    let x ← s.disk.node? i
    some ⟨n, i, x⟩

/-- The lists of a directory, and of those below it if wanted; directories nest at most so deep. -/
def blocksOf (k : Listing) : Nat → Bool → String → Place → List String
  | 0, _, _, _ => []
  | n + 1, titled, path, p =>
    let es := k.entries p
    let title := if titled then path ++ ":\n" else ""
    let amount := (es.map k.blocks).foldl (· + ·) 0
    let amount := if k.has 'h' then humanSize (amount * 1024) else toString amount
    let total := if k.long || k.has 's' then "total " ++ amount ++ "\n" else ""
    let inner :=
      if !k.has 'R' then []
      else
        (k.order es).flatMap fun e =>
          if e.node.matter = .directory && e.name ≠ "." && e.name ≠ ".." then
            blocksOf k n true (inside path e.name) (p ++ [e.name])
          else []
    (title ++ total ++ k.text es) :: inner

end Listing

def listNames : List (String × Char × Bool) :=
  [("all", 'a', false), ("almost-all", 'A', false), ("directory", 'd', false),
    ("recursive", 'R', false), ("reverse", 'r', false), ("classify", 'F', false),
    ("inode", 'i', false), ("size", 's', false), ("human-readable", 'h', false),
    ("width", 'w', true), ("sort", '=', true), ("group-directories-first", '/', false),
    ("full-time", 'T', false), ("time-style", '+', true), ("no-group", 'G', false),
    ("numeric-uid-gid", 'n', false), ("quote-name", 'Q', false), ("literal", 'N', false),
    ("escape", 'b', false), ("ignore-backups", 'B', false), ("dereference", 'L', false),
    ("hide-control-chars", 'q', false), ("format", '-', true), ("file-type", 'p', false)]

def listLetter? (o : Given) : Option Char :=
  if o.letter = '=' then
    [("size", 'S'), ("time", 't'), ("none", 'U'), ("version", 'v'), ("extension", 'X')].lookup o.argument
  else if o.letter = '-' then
    [("long", 'l'), ("verbose", 'l'), ("commas", 'm'), ("across", 'x'), ("horizontal", 'x'),
      ("vertical", 'C'), ("single-column", '1')].lookup o.argument
  else if o.letter = 'T' then some 'l'
  else none

/-- Lists files and what is in directories. -/
def list (c : Call) : Act Nat := do
  let words := c.words.filter fun w => !"--color".toList.isPrefixOf w.toList
  let usual := if c.name = "dir" then ["-C", "-b"] else if c.name = "vdir" then ["-l", "-b"] else []
  let c := { c with words := usual ++ words }
  let letters := "aAbBcCdDfFgGhHiI:klLmnNopqQrRsSt=:uUvw:xXZ1"
  c.withOptions { letters, names := listNames } 2 fun os ws => do
    let s ← get
    let os := os ++ (os.filterMap listLetter?).map (⟨·, ""⟩)
    let ofTime? := (argumentOf? os '+').map fun t =>
      match t.toList with
      | '+' :: form => String.ofList form
      | _ =>
        match t with
        | "full-iso" => "%Y-%m-%d %H:%M:%S.%N %z"
        | "long-iso" => "%Y-%m-%d %H:%M"
        | _ => "%m-%d %H:%M"
    let times := if hasOption os 'T' then some "%Y-%m-%d %H:%M:%S.%N %z" else ofTime?
    let given := (argumentOf? os 'w').or (s.value? "COLUMNS")
    let k : Listing := { session := s, options := os, width := (given.bind count?).getD 80, times }
    let mut status := 0
    let mut files : List Entry := []
    let mut directories : List (Entry × Place) := []
    for w in if ws = [] then ["."] else ws do
      let follow : Bool := !(k.long || k.has 'd' || k.has 'F') || k.has 'L' || k.has 'H'
      match s.disk.find follow s.directory w, s.disk.find false s.directory w with
      | .ok (p, i, x), _ =>
        if x.matter = .directory && !k.has 'd' then directories := directories ++ [(⟨w, i, x⟩, p)]
        else files := files ++ [⟨w, i, x⟩]
      | .error _, .ok (_, i, x) => files := files ++ [⟨w, i, x⟩]
      | .error fault, _ =>
        status := 2
        let _ ← cannot c "access" w fault
    let titled : Bool := 1 < ws.length || k.has 'R'
    let blocks := (k.order (directories.map Prod.fst)).flatMap fun e =>
      match directories.find? (·.1.name = e.name) with
      | some (_, p) => k.blocksOf 40 titled e.name p
      | none => []
    let first := if files = [] then [] else [k.text files]
    c.print ("\n".intercalate (first ++ blocks)) status

end Utility

end InlineRemote.Shell
