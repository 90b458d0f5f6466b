import InlineRemote.Shell.Builtin
import InlineRemote.Shell.Utility.Call

/-! # Programs about the system

Programs that say who and where one is, that look for other programs, and those that do what a shell
can do by itself. -/
namespace InlineRemote.Shell

namespace Utility

def echo (c : Call) : Act Nat :=
  match c.words with
  | ["--help"] => c.print "Usage: echo [SHORT-OPTION]... [STRING]...\n" 0
  | ["--version"] => c.print "echo (GNU coreutils)\n" 0
  | ws => c.print (Printing.echo .program ws) 0

def printf (c : Call) : Act Nat := do
  let words := if c.words.head? = some "--" then c.words.drop 1 else c.words
  match words with
  | [] => c.lacksOperand 1
  | form :: ws =>
    let o := Printing.printf .program (← get).time form ws
    for e in o.complaints do c.complain e
    c.print o.text o.status

def test (c : Call) : Act Nat := do
  let s ← get
  let (status, complaint) := Test.status ⟨true⟩ { s with extended := true } (c.name = "[") c.words
  if let some e := complaint then c.complain e
  return status

def kill (c : Call) : Act Nat := do
  if c.words = [] then
    return ← c.fail "not enough arguments" 1
  modify ({ · with extended := true })
  tryCatch (Builtin.kill c.words) fun e =>
    match e with
    | .fault _ => return 1
    | e => throw e

def directory (c : Call) : Act Nat :=
  c.withOptions { letters := "LP", names := [("logical", 'L', false), ("physical", 'P', false)] } 1
    fun os _ => do
      let s ← get
      let given? := if os.getLast?.any (·.letter = 'L') then s.value? "PWD" else none
      c.print (given?.getD (pathOf s.directory) ++ "\n") 0

def terminal (c : Call) : Act Nat :=
  c.withOptions { letters := "s", names := [("silent", 's', false), ("quiet", 's', false)] } 2
    fun os ws =>
      match ws with
      | w :: _ => c.fail ("extra operand '" ++ w ++ "'") 2
      | [] => c.print (if hasOption os 's' then "" else "not a tty\n") 1

def constant (text : String) (status : Nat) (c : Call) : Act Nat :=
  c.withOptions { letters := "" } 1 fun _ ws =>
    match ws with
    | w :: _ => c.fail ("extra operand '" ++ w ++ "'") 1
    | [] => c.print text status

def loginName (c : Call) : Act Nat :=
  c.withOptions { letters := "" } 1 fun _ _ => c.fail "no login name" 1

def groups (c : Call) : Act Nat :=
  c.withOptions { letters := "" } 1 fun _ ws => do
    let known := ["root", "daemon", "bin", "sys"]
    match ws.find? fun w => !known.contains w with
    | some w => c.fail ("'" ++ w ++ "': no such user") 1
    | none =>
      let row (w : String) : String := w ++ " : " ++ w ++ "\n"
      c.print (if ws = [] then "root\n" else "".intercalate (ws.map row)) 0

def processors (c : Call) : Act Nat :=
  c.withOptions { letters := "", names := [("all", 'a', false), ("ignore", 'i', true)] } 1
    fun _ ws =>
      match ws with
      | w :: _ => c.fail ("extra operand '" ++ w ++ "'") 1
      | [] => c.print "4\n" 0

def hostName (c : Call) : Act Nat :=
  c.withOptions { letters := "aAdfFbiIsyv:" } 255 fun os ws =>
    match ws with
    | _ :: _ => c.fail "you don't have permission to set the host name" 1
    | [] => c.print (if hasOption os 'd' then "\n" else "localhost\n") 0

def which (c : Call) : Act Nat := do
  let (os, ws) := (c.words.takeWhile (·.startsWith "-"), c.words.dropWhile (·.startsWith "-"))
  if os.any fun o => o ≠ "-a" ∧ o ≠ "-s" ∧ o ≠ "--" then
    Act.print ("Usage: " ++ c.called ++ " [-as] args\n")
    return ← c.fail "Illegal option" 2
  let s ← get
  let mut status := if ws = [] then 1 else 0
  for w in ws do
    let there := if w.toList.contains '/' then [w] else Session.candidates s.searchPath w
    let found := there.filter fun path => s.fileAt? path = some true
    if found = [] then status := 1
    if !os.contains "-s" then
      let shown := if os.contains "-a" then found else found.take 1
      Act.print ("".intercalate (shown.map (· ++ "\n")))
  return status

def configured : List (String × String) :=
  [("PATH", "/bin:/usr/bin"), ("ARG_MAX", "2097152"), ("PAGE_SIZE", "4096"), ("PAGESIZE", "4096"),
    ("_NPROCESSORS_ONLN", "4"), ("_NPROCESSORS_CONF", "4"), ("NAME_MAX", "255"),
    ("PATH_MAX", "4096"), ("LONG_BIT", "64"), ("CHAR_BIT", "8"), ("INT_MAX", "2147483647"),
    ("INT_MIN", "-2147483648"), ("CLK_TCK", "100"), ("OPEN_MAX", "1048576"), ("PIPE_BUF", "4096"),
    ("CHILD_MAX", "128620"), ("LINE_MAX", "2048"), ("UCHAR_MAX", "255"), ("_POSIX_VERSION", "200809"),
    ("POSIX_VERSION", "200809"), ("NGROUPS_MAX", "65536"), ("HOST_NAME_MAX", "64")]

def configuration (c : Call) : Act Nat := do
  match c.words with
  | ["-a"] => c.print ("".intercalate (configured.map fun (x, v) => x ++ " " ++ v ++ "\n")) 0
  | x :: _ =>
    match configured.lookup x with
    | some v => c.print (v ++ "\n") 0
    | none => c.fail ("Unrecognized variable \x60" ++ x ++ "'") 2
  | [] => c.fail "Usage: getconf variable_name [pathname]" 2

/-- Shows entries of the tables of users, groups and hosts. -/
def entries (c : Call) : Act Nat := do
  let s ← get
  match c.words with
  | [] => c.fail "wrong number of arguments" 1
  | table :: keys =>
    if !(["passwd", "group", "hosts", "services", "protocols"].contains table) then
      return ← c.fail ("Unknown database: " ++ table) 1
    let text := match s.disk.at? ["etc", table] with
      | some i => s.content i
      | none => ""
    let rows := (text.splitOn "\n").filter (· ≠ "")
    let fits (key row : String) : Bool :=
      let fields := if table = "passwd" ∨ table = "group" then row.splitOn ":" else row.splitOn " "
      fields.head? = some key || fields[1]? = some key ||
        ((table = "passwd" || table = "group") && fields[2]? = some key)
    if keys = [] then return ← c.print ("".intercalate (rows.map (· ++ "\n"))) 0
    let found := keys.filterMap fun k => rows.find? (fits k)
    c.print ("".intercalate (found.map (· ++ "\n"))) (if found.length = keys.length then 0 else 2)

def primeFactors : Nat → Nat → Nat → List Nat
  | 0, _, n => [n]
  | k + 1, d, n =>
    if n < d * d then (if 1 < n then [n] else [])
    else if n % d = 0 then d :: primeFactors k d (n / d)
    else primeFactors k (d + 1) n

def factor (c : Call) : Act Nat :=
  c.withOptions { letters := "h", names := [("exponents", 'h', false)] } 1 fun _ ws => do
    let words ← if ws = [] then do
        pure ((wordsOf (← Act.readAll 0)).map String.ofList)
      else pure ws
    let mut status := 0
    for w in words do
      match count? w with
      | some n =>
        let row := (primeFactors 1000000 2 n).map fun d => " " ++ toString d
        Act.print (toString n ++ ":" ++ "".intercalate row ++ "\n")
      | none =>
        c.complain ("'" ++ w ++ "' is not a valid positive integer")
        status := 1
    return status

/-- Shows lines, or the numbers of a range, in some order. -/
def shuffle (c : Call) : Act Nat := do
  let names := [("echo", 'e', false), ("input-range", 'i', true), ("head-count", 'n', true),
    ("output", 'o', true), ("repeat", 'r', false), ("zero-terminated", 'z', false)]
  c.withOptions { letters := "ei:n:o:rz", names } 1 fun os ws => do
    let items? : Option (List String) ←
      if hasOption os 'e' then pure (some ws)
      else
        match argumentOf? os 'i' with
        | some range =>
          match (range.splitOn "-").map count? with
          | [some a, some b] => pure (some ((List.range (b + 1 - a)).map fun k => toString (a + k)))
          | _ => do
            c.complain ("invalid input range: '" ++ range ++ "'")
            pure none
        | none => do
          let (texts, fine) ← c.inputs ws
          let ls := lines (texts.flatMap Prod.snd)
          pure (if fine then some (ls.map String.ofList) else none)
    match items? with
    | none => return 1
    | some items =>
      let most := ((argumentOf? os 'n').bind count?).getD items.length
      c.print ("".intercalate ((items.reverse.take most).map (· ++ "\n"))) 0

/-- Shows processes. -/
def processes (c : Call) : Act Nat := do
  let s ← get
  let names := [("pid", 'p', true), ("format", 'o', true), ("no-headers", 'h', false)]
  let grammar : Grammar := { letters := "Aaefxlup:o:C:", names }
  let words := match c.words with
    | w :: ws => if w.startsWith "-" then c.words else ("-" ++ w) :: ws
    | [] => []
  match grammar.read words with
  | .error _ => c.fail "error: unsupported option" 1
  | .ok (os, _) =>
    let there := s.chain.reverse ++ (s.processes.filter (·.exit.isNone)).map Process.number
    let wanted : List Nat := match argumentOf? os 'p' with
      | some list =>
        let separate (t : List Char) := t.splitOnP fun c => c = ',' || c = ' '
        (separate list.toList).filterMap fun t => count? (String.ofList t)
      | none => there
    let found : List Nat := wanted.filter there.contains
    let columns := ((argumentOf? os 'o').map fun t => t.splitOn ",").getD ["pid=PID", "comm=CMD"]
    let name (column : String) : String := (column.splitOn "=").headD ""
    let title (column : String) : String :=
      match column.splitOn "=" with
      | [x] => x.toUpper
      | _ :: t :: _ => t
      | [] => ""
    let cell (process : Nat) (column : String) : String :=
      match name column with
      | "pid" => toString process
      | "ppid" => toString (((s.chain.dropWhile (· ≠ process)).drop 1).headD (s.host.process - 1))
      | _ => if process = s.current then "ps" else "sh"
    let titles := columns.map title
    let head := if titles.all (· = "") then "" else " ".intercalate titles ++ "\n"
    let row (process : Nat) : String := " ".intercalate (columns.map (cell process)) ++ "\n"
    c.print (head ++ "".intercalate (found.map row)) (if found = [] then 1 else 0)

def mountPoint (c : Call) : Act Nat := do
  let ws := c.words.filter fun w => !w.startsWith "-"
  let quiet := c.words.contains "-q"
  match ws with
  | [w] =>
    let s ← get
    match s.find w with
    | .error fault => c.fail (w ++ ": " ++ Fault.words fault) 1
    | .ok (p, _, _) =>
      let isMounted : Bool := [[], ["proc"], ["sys"], ["dev"], ["dev", "pts"], ["dev", "shm"]].contains p
      let text := w ++ (if isMounted then " is a mountpoint\n" else " is not a mountpoint\n")
      c.print (if quiet then "" else text) (if isMounted then 0 else 32)
  | _ => c.fail "bad usage" 1

def quotedAlways (w : String) : String :=
  let inside (c : Char) : List Char := if c = '\'' then ['\'', '\\', '\'', '\''] else [c]
  String.ofList ('\'' :: w.toList.flatMap inside ++ ['\''])

/-- Puts the options among words in order. -/
def orderOptions (c : Call) : Act Nat := do
  let names := [("options", 'o', true), ("longoptions", 'l', true), ("long", 'l', true),
    ("name", 'n', true), ("quiet", 'q', false), ("unquoted", 'u', false), ("shell", 's', true),
    ("test", 'T', false), ("alternative", 'a', false)]
  let own : Grammar := { letters := "o:l:n:as:qQuT", names, mixed := false }
  match own.read c.words with
  | .error e => c.fail e 2
  | .ok (os, rest) =>
    if hasOption os 'T' then return 4
    let simple : Bool := (argumentOf? os 'o').isNone && (c.words.head?.any fun w => !w.startsWith "-")
    let (letters, ws) := match argumentOf? os 'o', rest with
      | some l, ws => (l, ws)
      | none, l :: ws => (l, if ws.head? = some "--" && simple then ws.drop 1 else ws)
      | none, [] => ("", [])
    if (argumentOf? os 'o').isNone && rest = [] then
      return ← c.fail "missing optstring argument" 2
    let long := ((os.filter (·.letter = 'l')).flatMap fun o => o.argument.splitOn ",").filter (· ≠ "")
    -- Names go by private letters while the words are read.
    let coded := long.zipIdx.map fun (x, n) =>
      let name := x.toList.takeWhile (· ≠ ':')
      (String.ofList name, Char.ofNat (1000 + n), name.length < x.length)
    let stays := letters.startsWith "+"
    let g : Grammar := { letters, names := coded, mixed := !stays }
    let quote (w : String) : String := if simple || hasOption os 'u' then w else quotedAlways w
    let shown (o : Given) : String :=
      match coded.find? (·.2.1 = o.letter) with
      | some (x, _, needs) => " --" ++ x ++ if needs then " " ++ quote o.argument else ""
      | none =>
        " -" ++ String.singleton o.letter ++
          if g.need? o.letter = some .none then "" else " " ++ quote o.argument
    match g.read ws with
    | .error e =>
      c.complain e
      c.print " --\n" 1
    | .ok (found, operands) =>
      c.print ("".intercalate (found.map shown) ++ " --" ++
        "".intercalate (operands.map fun w => " " ++ quote w) ++ "\n") 0

end Utility

end InlineRemote.Shell
