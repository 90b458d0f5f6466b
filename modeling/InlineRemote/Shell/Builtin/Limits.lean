import InlineRemote.Shell.Builtin.Options
import InlineRemote.Shell.Rights

/-! # Commands for limits

What a process may use is limited: a soft limit counts, and may be raised up to a hard one.  New files
lack the rights that are kept from them. -/
namespace InlineRemote.Shell

namespace Builtin

/-- Something that is limited: its letter, how the limit is called, how much one unit is, and its
limits at first. -/
structure Resource where
  letter : Char
  name : String
  unit : Nat := 1
  soft : Option Nat := none
  hard : Option Nat := none

def plainResources : List Resource :=
  [⟨'t', "time(seconds)", 1, none, none⟩, ⟨'f', "file(blocks)", 512, none, none⟩,
    ⟨'d', "data(kbytes)", 1024, none, none⟩, ⟨'s', "stack(kbytes)", 1024, some 8388608, none⟩,
    ⟨'c', "coredump(blocks)", 512, some 0, none⟩, ⟨'m', "memory(kbytes)", 1024, none, none⟩,
    ⟨'l', "locked memory(kbytes)", 1024, some 8388608, some 8388608⟩,
    ⟨'p', "process", 1, some 128620, some 128620⟩, ⟨'n', "nofiles", 1, some 1048576, some 1048576⟩,
    ⟨'v', "vmemory(kbytes)", 1024, none, none⟩, ⟨'w', "locks", 1, none, none⟩,
    ⟨'r', "rtprio", 1, some 0, some 0⟩]

/-- What is limited, in the order in which the extended dialect shows it. -/
def extendedResources : List Resource :=
  [⟨'R', "real-time non-blocking time  (microseconds, -R) ", 1, none, none⟩,
    ⟨'c', "core file size              (blocks, -c) ", 1024, some 0, none⟩,
    ⟨'d', "data seg size               (kbytes, -d) ", 1024, none, none⟩,
    ⟨'e', "scheduling priority                 (-e) ", 1, some 0, some 0⟩,
    ⟨'f', "file size                   (blocks, -f) ", 1024, none, none⟩,
    ⟨'i', "pending signals                     (-i) ", 1, some 128620, some 128620⟩,
    ⟨'l', "max locked memory           (kbytes, -l) ", 1024, some 8388608, some 8388608⟩,
    ⟨'m', "max memory size             (kbytes, -m) ", 1024, none, none⟩,
    ⟨'n', "open files                          (-n) ", 1, some 1048576, some 1048576⟩,
    ⟨'p', "pipe size                (512 bytes, -p) ", 512, some 4096, some 4096⟩,
    ⟨'q', "POSIX message queues         (bytes, -q) ", 1, some 819200, some 819200⟩,
    ⟨'r', "real-time priority                  (-r) ", 1, some 0, some 0⟩,
    ⟨'s', "stack size                  (kbytes, -s) ", 1024, some 8388608, none⟩,
    ⟨'t', "cpu time                   (seconds, -t) ", 1, none, none⟩,
    ⟨'u', "max user processes                  (-u) ", 1, some 128620, some 128620⟩,
    ⟨'v', "virtual memory              (kbytes, -v) ", 1024, none, none⟩,
    ⟨'x', "file locks                          (-x) ", 1, none, none⟩]

def resources (extended : Bool) : List Resource :=
  if extended then extendedResources else plainResources

def limitOf (s : Session) (r : Resource) (hard : Bool) : Option Nat :=
  (s.limits.lookup (r.letter, hard)).getD (if hard then r.hard else r.soft)

def limitText (r : Resource) : Option Nat → String
  | none => "unlimited"
  | some n => toString (n / r.unit)

def isBeyond : Option Nat → Option Nat → Bool
  | _, none => false
  | none, some _ => true
  | some a, some b => b < a

def setLimit (r : Resource) (soft hard : Bool) (value : Option Nat) : Act Nat := do
  let s ← get
  let newHard := if hard then value else limitOf s r true
  let newSoft := if soft then value else limitOf s r false
  let refused : Option String :=
    if isBeyond newHard (limitOf s r true) then some "Operation not permitted"
    else if isBeyond newSoft newHard then some "Invalid argument" else none
  match refused with
  | some reason =>
    if s.extended then
      wrong "ulimit" (r.name ++ ": cannot modify limit: " ++ reason) 1
    else wrong "ulimit" ("error setting limit (" ++ reason ++ ")") 2
  | none =>
    modify fun s => { s with
      limits := withKey (withKey s.limits (r.letter, true) (some newHard)) (r.letter, false)
        (some newSoft) }
    return 0

/-- The options among at most so many words, where a letter may come with a limit that follows it:
the letters that say which limits count, those of what is limited, and the words that are left. -/
def limitWords (extended : Bool) :
    Nat → List String → Act (List Char × List (Char × Option String) × List String)
  | 0, ws => return ([], [], ws)
  | _, [] => return ([], [], [])
  | n + 1, w :: ws => do
    let letters := (resources extended).map Resource.letter
    match w.toList with
    | ['-', '-'] => return ([], [], ws)
    | '-' :: cs =>
      if cs = [] then return ([], [], w :: ws)
      match cs.find? fun c => !(['H', 'S', 'a'].contains c || letters.contains c) with
      | some c =>
        if extended then wrong "ulimit" ("-" ++ String.singleton c ++ ": invalid option") 2
        else wrong "ulimit" ("Illegal option -" ++ String.singleton c) 2
      | none =>
        let flags := cs.filter ['H', 'S', 'a'].contains
        let wanted := cs.filter letters.contains
        let (value?, ws) : Option String × List String :=
          match extended, ws with
          | true, v :: r =>
            if wanted ≠ [] ∧ v.toList.head? ≠ some '-' then (some v, r) else (none, ws)
          | _, _ => (none, ws)
        let front := wanted.dropLast.map fun c => (c, (none : Option String))
        let last := (wanted.getLast?).toList.map fun c => (c, value?)
        let (f, m, r) ← limitWords extended n ws
        return (flags ++ f, front ++ last ++ m, r)
    | _ => return ([], [], w :: ws)

/-- Shows or sets limits. -/
def ulimit (ws : List String) : Act Nat := do
  let s ← get
  let (flags, wanted, rest) ← limitWords s.extended ws.length ws
  let all := resources s.extended
  let hard := flags.contains 'H'
  if flags.contains 'a' then
    for r in all do
      let fill := if s.extended then ""
        else String.ofList (List.replicate (20 - r.name.length) ' ') ++ " "
      Act.print (r.name ++ fill ++ limitText r (limitOf s r hard) ++ "\n")
    return 0
  let wanted := if s.extended then wanted else wanted.reverse.take 1
  let wanted := if wanted = [] then [('f', (none : Option String))] else wanted
  if !s.extended ∧ 1 < rest.length then wrong "ulimit" "too many arguments" 2
  let several : Bool := 1 < wanted.length
  let mut status := 0
  for (c, value?) in wanted do
    let value? := value?.or (if several then none else rest.head?)
    match all.find? (·.letter = c) with
    | none => status := 1
    | some r =>
      match value? with
      | none =>
        let name := if several then r.name else ""
        Act.print (name ++ limitText r (limitOf (← get) r hard) ++ "\n")
      | some v =>
        let both := !hard && !flags.contains 'S'
        let set (n : Option Nat) : Act Nat :=
          setLimit r (both || flags.contains 'S') (both || hard) n
        let n ←
          if v = "unlimited" then set none
          else if s.extended && v = "hard" then set (limitOf s r true)
          else if s.extended && v = "soft" then set (limitOf s r false)
          else if v ≠ "" && v.toList.all Char.isDigit then
            set (v.toNat?.map (· * r.unit))
          else if s.extended then do
            complain "ulimit" (v ++ ": invalid number")
            pure 1
          else if v = "" then set (some 0)
          else wrong "ulimit" "bad number" 2
        if n ≠ 0 then status := n
  return status

def allowed (mask : Nat) : String :=
  let part (who : Char) (shift : Nat) : String :=
    let bits := (511 - mask) >>> shift
    let flag (n : Nat) (c : Char) : List Char := if bits &&& n ≠ 0 then [c] else []
    String.ofList ([who, '='] ++ flag 4 'r' ++ flag 2 'w' ++ flag 1 'x')
  part 'u' 6 ++ "," ++ part 'g' 3 ++ "," ++ part 'o' 0

/-- Sets or shows which rights new files lack. -/
def umask (ws : List String) : Act Nat := do
  let s ← get
  let given := (ws.takeWhile fun w => w ≠ "--").filter fun w =>
    w.startsWith "-" && w ≠ "-" && w.toList.any fun c => c = 'S' || c = 'p'
  let (os, ws) ← options "umask" (if s.extended then "Sp" else "S") ws
  let front := if hasOption os 'p' then "umask " ++ (if hasOption os 'S' then "-S " else "") else ""
  let shown (mask : Nat) : String :=
    let ds := Nat.toDigits 8 mask
    front ++ (if hasOption os 'S' then allowed mask
      else String.ofList (List.replicate (4 - ds.length) '0' ++ ds)) ++ "\n"
  match ws.head? with
  | none => print "umask" (shown s.mask) 0
  | some w =>
    let cs := w.toList
    let change (mask : Nat) : Act Nat := do
      modify ({ · with mask })
      if s.extended && given ≠ [] && hasOption os 'S' then Act.print (allowed mask ++ "\n")
      return 0
    if cs.head?.any Char.isDigit then
      if !cs.all Text.isOctalDigit ∨ (s.extended ∧ 4095 < Text.ofDigits 8 cs) then
        if s.extended then wrong "umask" (w ++ ": octal number out of range") 1
        else wrong "umask" ("Illegal number: " ++ w) 2
      change (Text.ofDigits 8 cs % 512)
    else
      let plain :=
        if s.extended then w
        else if w = "" then "u+"
        else if cs.getLast? = some ',' && w ≠ "," then String.ofList cs.dropLast else w
      match Rights.read? false 0 (511 - s.mask) plain with
      | some rights => change ((511 - rights % 512) % 512)
      | none =>
        if s.extended then wrong "umask" ("\x60" ++ w ++ "': invalid symbolic mode operator") 1
        else wrong "umask" ("Illegal mode: " ++ w) 2

end Builtin

end InlineRemote.Shell
