import InlineRemote.Shell.Builtin.Signals

/-! # Commands for jobs

A shell waits for the commands that it started beside itself, and shows how they are doing. -/
namespace InlineRemote.Shell

namespace Builtin

def endOf? (s : Session) (process : Nat) : Option Exit :=
  (s.processes.find? (·.number = process)).bind Process.exit

/-- Waits until something holds, or until a signal with a trap comes; the answer is the status of
that signal, which does not count in the plain dialect if both have come. -/
def waitUntil (ready : Session → Bool) : Act (Option Nat) := do
  Act.await none fun s => ready s || s.isCalled || s.pending ≠ []
  let s ← get
  if !s.extended && ready s then return none
  return s.pending.head?.map (128 + ·)

/-- The job that a word stands for. -/
def jobNamed? (w : String) : Act (Option Job) := do
  let s ← get
  match w.toList with
  | '%' :: r =>
    match jobOf? s (String.ofList r) with
    | some j => return some j
    | none =>
      if s.extended then
        complain "wait" (w ++ ": no such job")
        return none
      else wrong "wait" ("No such job: " ++ w) 2
  | _ =>
    match count? w with
    | some n =>
      let job? := s.jobs.find? fun j => j.process = n && !j.foreign
      if job?.isNone && s.extended then
        complain "wait" ("pid " ++ w ++ " is not a child of this shell")
      return job?
    | none =>
      if s.extended then wrong "wait" ("\x60" ++ w ++ "': not a pid or valid job spec") 1
      else
        let _ ← demandCount "wait" w
        return none

def waitForNext (jobs : List Job) (kept : Option String) : Act Nat := do
  if jobs = [] then return 127
  let ended (s : Session) (j : Job) : Bool := (endOf? s j.process).isSome
  if let some status := ← waitUntil fun s => jobs.any (ended s) then return status
  let s ← get
  match jobs.find? (ended s) with
  | some j =>
    modify fun s => { s with jobs := s.jobs.filter (· ≠ j) }
    if let some x := kept then Act.assign x (toString j.process)
    return ((endOf? s j.process).map Exit.status).getD 127
  | none => return 127

/-- Waits for jobs: for all, or for those that are named; the status is that of the last one. -/
def wait (ws : List String) : Act Nat := do
  let s ← get
  let (os, names) ← options "wait" (if s.extended then "fnp:" else "") ws
  if hasOption os 'n' then
    let jobs ← if names = [] then pure (s.jobs.filter (!·.foreign)) else names.filterMapM jobNamed?
    return ← waitForNext jobs (argumentOf? os 'p')
  if names = [] then
    let all (s : Session) : Bool := s.jobs.all fun j => j.foreign || (endOf? s j.process).isSome
    if let some status := ← waitUntil all then return status
    modify fun s => { s with
      jobs := if s.extended then [] else s.jobs.map ({ · with waited := true }) }
    return 0
  let mut status := 127
  for w in names do
    match ← jobNamed? w with
    | some j =>
      if let some n := ← waitUntil fun s => (endOf? s j.process).isSome then return n
      let s ← get
      status := ((endOf? s j.process).map Exit.status).getD 127
      modify fun s => { s with jobs := s.jobs.map fun k => { k with waited := k.waited || k = j } }
    | none => if s.extended then status := 127
  return status

def stateOf (s : Session) (j : Job) : String :=
  match endOf? s j.process with
  | none => "Running"
  | some (.code 0) => "Done"
  | some (.code n) => (if s.extended then "Exit " ++ toString n else "Done(" ++ toString n ++ ")")
  | some (.signal n) =>
    let words := [(1, "Hangup"), (2, "Interrupt"), (3, "Quit"), (6, "Aborted"), (9, "Killed"),
      (13, "Broken pipe"), (14, "Alarm clock"), (15, "Terminated")]
    (words.lookup n).getD ("Signal " ++ toString n)

/-- Shows jobs; those that came to their end are then forgotten. -/
def jobs (ws : List String) : Act Nat := do
  let s ← get
  let (os, names) ← options "jobs" (if s.extended then "lnprsx" else "lp") ws
  let mut status := 0
  let mut shown : List Job := []
  if names = [] then shown := if s.extended then s.shownJobs else s.jobs.reverse
  for w in names do
    let name := if w.toList.head? = some '%' then String.ofList (w.toList.drop 1) else w
    match jobOf? s name with
    | some j => shown := shown ++ [j]
    | none =>
      if s.extended then
        complain "jobs" (w ++ ": no such job")
        status := 1
      else wrong "jobs" ("No such job: " ++ w) 2
  let mark (j : Job) : String :=
    let later := (s.jobs.dropWhile (· ≠ j)).drop 1
    let left := if s.extended then later else later.filter fun k => (endOf? s k.process).isNone
    match left.length with
    | 0 => "+"
    | 1 => "-"
    | _ => " "
  let pad (n : Nat) (t : String) : String := t ++ String.ofList (List.replicate (n - t.length) ' ')
  for j in shown do
    let number := "[" ++ toString j.number ++ "]"
    let process := if hasOption os 'l' then toString j.process ++ " " else ""
    let ended := (endOf? s j.process).isSome
    if hasOption os 'p' then Act.print (toString j.process ++ "\n")
    else if hasOption os 'r' && ended || hasOption os 's' then pure ()
    else if s.extended then
      let rest := if ended then "" else " &"
      Act.print (number ++ mark j ++ " " ++ (if process = "" then " " else process) ++
        pad 24 (stateOf s j) ++ rest ++ "\n")
    else
      let width := if process = "" then 27 else 21
      Act.print (number ++ " " ++ mark j ++ " " ++ process ++ pad width (stateOf s j) ++ "\n")
  modify fun t => { t with
    jobs := t.jobs.filter fun j => !(shown.contains j && (endOf? s j.process).isSome) }
  return status

/-- Refuses to bring a job to the front or to let it go on, for jobs are not controlled. -/
def foreground (name : String) (ws : List String) : Act Nat := do
  let s ← get
  if s.extended then wrong name "no job control" 1
  let w := ws.head?.getD ""
  let named := if w.toList.head? = some '%' then String.ofList (w.toList.drop 1) else w
  match jobOf? s named with
  | some _ =>
    wrong name ("job " ++ (if w = "" then "(null)" else w) ++ " not created under job control") 2
  | none => wrong name (if w = "" then "No current job" else "No such job: " ++ w) 2

def disown (ws : List String) : Act Nat := do
  let s ← get
  let (os, names) ← options "disown" "ahr" ws
  if hasOption os 'a' then
    modify ({ · with jobs := [] })
    return 0
  let mut status := 0
  for w in if names = [] then ["%+"] else names do
    let job? :=
      match w.toList with
      | '%' :: r => jobOf? s (String.ofList r)
      | _ => s.jobs.find? fun j => toString j.process = w
    match job? with
    | some j => if !hasOption os 'h' then modify fun s => { s with jobs := s.jobs.filter (· ≠ j) }
    | none =>
      complain "disown" ((if names = [] then "current" else w) ++ ": no such job")
      status := 1
  return status

def times (ws : List String) : Act Nat := do
  if (← get).extended then
    let _ ← options "times" "" ws
    Act.print "0m0.000s 0m0.000s\n0m0.000s 0m0.000s\n"
  else Act.print "0m0.000000s 0m0.000000s\n0m0.000000s 0m0.000000s\n"
  return 0

end Builtin

end InlineRemote.Shell
