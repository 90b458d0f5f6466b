import InlineRemote.Shell.Builtin.Options

/-! # Commands for signals

Signals go by number or by name.  A shell says what runs when a signal comes, and sends signals to
processes.  In the extended dialect there are traps for events in the shell itself, too. -/
namespace InlineRemote.Shell

namespace Builtin

def events : List (Nat × String) :=
  [(65, "DEBUG"), (66, "ERR"), (67, "RETURN")]

def signal? (extended : Bool) (least : Nat) (w : String) : Option Nat :=
  match count? w with
  | some n => if n ≤ lastSignal then some n else none
  | none =>
    let name := w.toUpper
    let plain :=
      if extended && name.startsWith "SIG" then String.ofList (name.toList.drop 3) else name
    signalNamed? least plain

def trapped? (extended : Bool) (w : String) : Option Nat :=
  (signal? extended 0 w).or <|
    if extended then (events.find? fun e => e.2 = w.toUpper).map Prod.fst else none

def trapName (extended : Bool) (n : Nat) : String :=
  match events.lookup n with
  | some name => name
  | none => if extended && n ≠ 0 then "SIG" ++ signalName n else signalName n

def showTraps (wanted : Nat → Bool) : Act Unit := do
  let s ← get
  let all := (if s.extended then s.shownTraps else none).getD s.traps
  let there := (all.filter fun e => wanted e.1).mergeSort fun a b => a.1 ≤ b.1
  let row (e : Nat × String) : String :=
    let action := if s.extended then Quoting.single e.2 else Quoting.plain e.2
    "trap -- " ++ action ++ " " ++ trapName s.extended e.1 ++ "\n"
  Act.print ("".intercalate (there.map row))

def signalTable : String :=
  let there := (List.range lastSignal).map (· + 1) |>.filter fun n => n ≠ 32 && n ≠ 33
  let cell (e : Nat × Nat) : String :=
    let (n, i) := e
    let name := if n = 16 then "SIGSTKFLT" else "SIG" ++ signalName n
    let digits := toString n
    let fill := if digits.length = 1 then " " else ""
    fill ++ digits ++ ") " ++ name ++ if i % 5 = 4 then "\n" else "\t"
  "".intercalate (there.zipIdx.map cell) ++ "\n"

def misused (usage : String) : Act Nat := do
  Act.complain usage
  return 2

def setTrap (n : Nat) (action : Option String) : Act Unit :=
  modify fun s => { s with traps := withKey s.traps n action, shownTraps := none }

/-- Sets what runs when signals come. -/
def trap (ws : List String) : Act Nat := do
  let extended := (← get).extended
  let usage := "trap: usage: trap [-lp] [[arg] signal_spec ...]"
  let (os, ws) ←
    if ws.head? = some "-" then pure ([], ws) else options "trap" (if extended then "lp" else "") ws
  if hasOption os 'l' then
    Act.print signalTable
    return 0
  if hasOption os 'p' ∨ ws = [] then
    let wanted := ws.filterMap (trapped? extended)
    showTraps fun n => ws = [] || wanted.contains n
    return if wanted.length = ws.length then 0 else 1
  let (action, names) : Option String × List String :=
    match ws with
    | [w] => (none, [w])
    | w :: names =>
      if w = "-" then (none, names)
      else if extended && (count? w).isNone then (some w, names)
      else if (signal? extended 0 w).isSome then (none, w :: names)
      else (some w, names)
    | [] => (none, [])
  if extended ∧ ws.length = 1 ∧ (names.filterMap (trapped? extended)) = [] then
    return ← misused usage
  let mut status := 0
  for name in names do
    match trapped? extended name with
    | some n => setTrap n action
    | none =>
      if extended then
        complain "trap" (name ++ ": invalid signal specification")
        status := 1
      else
        Act.complain ("trap: " ++ name ++ ": bad trap")
        return 1
  return status

def jobOf? (s : Session) (w : String) : Option Job :=
  let jobs := s.shownJobs
  match w with
  | "" | "%" | "+" => jobs.getLast?
  | "-" => (jobs.dropLast.getLast?).or jobs.getLast?
  | w => (count? w).bind fun n => jobs.find? (·.number = n)

/-- Sends a signal to the process that a word stands for; the answer is whether that worked. -/
def sendTo (signal : Nat) (w : String) : Act Bool := do
  let s ← get
  let process ← match w.toList with
    | '%' :: r =>
      match jobOf? s (String.ofList r) with
      | some j => pure (some j.process)
      | none =>
        if s.extended then
          complain "kill" (w ++ ": no such job")
          return false
        else wrong "kill" ("No such job: " ++ w) 2
    | '-' :: r =>
      if s.extended ∧ (count? (String.ofList r)).isNone then
        complain "kill" (w ++ ": arguments must be process or job IDs")
        return false
      let _ ← demandCount "kill" (String.ofList r)
      pure none
    | _ =>
      match count? w with
      | some 0 => pure (some s.process)
      | some n => pure (some n)
      | none =>
        if s.extended then
          complain "kill" (w ++ ": arguments must be process or job IDs")
          return false
        else do pure (some (← demandCount "kill" w))
  let there ← match process with
    | some p => Act.send signal p
    | none => pure false
  if !there then
    complain "kill" ((if s.extended then "(" ++ w ++ ") - " else "") ++ "No such process")
  return there

def killUsage : String :=
  "Usage: kill [-s sigspec | -signum | -sigspec] [pid | job]... or\nkill -l [exitstatus]"

/-- The signal and the processes among the words of `kill`, or whether signals are listed. -/
def killWords (extended : Bool) : List String → Act (Option Nat × Bool × List String)
  | [] => return (none, false, [])
  | "--" :: ws => return (none, false, ws)
  | w :: ws => do
    let named (x : String) : Act Nat :=
      match signal? extended (if extended then 0 else 1) x with
      | some n => pure n
      | none =>
        if extended then wrong "kill" (x ++ ": invalid signal specification") 1
        else wrong "kill" ("invalid signal number or name: " ++ x) 2
    let takes (cs : List Char) : Bool := cs = ['s'] || (extended && cs = ['n'])
    match if extended && w = "-L" then ['-', 'l'] else w.toList with
    | ['-', 'l'] =>
      let (m, _, rest) ← killWords extended ws
      return (m, true, rest)
    | '-' :: c :: cs =>
      if takes (c :: cs) then
        match ws with
        | [] =>
          if extended then wrong "kill" (w ++ ": option requires an argument") 1
          else wrong "kill" "No arg for -s option" 2
        | x :: ws =>
          let n ← named x
          let (m, list, rest) ← killWords extended ws
          return (m.or (some n), list, rest)
      else if extended then
        let joined : Bool := (c = 's' && cs.head?.any Char.isAlpha) ||
          (c = 'n' && cs.head?.any Char.isDigit)
        let n ← named (String.ofList (if joined then cs else c :: cs))
        let (m, list, rest) ← killWords extended ws
        return (m.or (some n), list, rest)
      else if c = 's' then
        let n ← named (String.ofList cs)
        let (m, list, rest) ← killWords extended ws
        return (m.or (some n), list, rest)
      else wrong "kill" ("Illegal option -" ++ String.singleton c) 2
    | _ => return (none, false, w :: ws)

/-- Shows the names of signals, or the numbers of names. -/
def listSignals (ws : List String) : Act Nat := do
  let extended := (← get).extended
  match ws with
  | [] =>
    let names := (List.range lastSignal).map fun n => signalName (n + 1)
    Act.print (if extended then signalTable else "\n".intercalate ("0" :: names) ++ "\n")
    return 0
  | w :: _ =>
    if !extended then
      let n ← demandCount "kill" w
      let n := if 128 < n then n - 128 else n
      if n = 0 ∨ lastSignal < n then
        wrong "kill" ("invalid signal number or exit status: " ++ w) 2
      Act.print (signalName n ++ "\n")
      return 0
    let mut status := 0
    for w in ws do
      let shown? : Option String :=
        match count? w with
        | some n =>
          let n := if 128 < n then n - 128 else n
          if n ≤ lastSignal then some (signalName n) else none
        | none => (signal? true 0 w).map toString
      match shown? with
      | some t => Act.print (t ++ "\n")
      | none =>
        complain "kill" (w ++ ": invalid signal specification")
        status := 1
    return status

def kill (ws : List String) : Act Nat := do
  let extended := (← get).extended
  let named? : Option Nat := do
    let w ← ws.head?
    let '-' :: s := w.toList | none
    signal? extended (if extended then 0 else 1) (String.ofList s)
  let (signal, list, processes) ← match named? with
    | some n => pure (some n, false, ws.drop 1)
    | none => killWords extended ws
  if list then return ← listSignals processes
  let processes :=
    if extended ∧ named?.isSome ∧ processes.head? = some "--" then processes.drop 1 else processes
  if processes = [] then
    if extended then return ← misused "kill: usage: kill [-s sigspec | -n signum | -sigspec] pid"
    wrong "kill" killUsage 2
  let mut sent := 0
  for w in processes do
    if ← sendTo (signal.getD 15) w then sent := sent + 1
  return if extended then (if 0 < sent then 0 else 1) else if sent = processes.length then 0 else 1

end Builtin

end InlineRemote.Shell
