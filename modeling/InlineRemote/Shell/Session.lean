import InlineRemote.Shell.Exit
import InlineRemote.Shell.Host
import InlineRemote.Shell.Pattern
import InlineRemote.Shell.Syntax

/-! # The state of a shell

A session holds what the commands of a script can change.  One part of it, the world, is shared with
the processes that run beside the shell: the disk, what is open, the time, and the processes
themselves.  All else is the shell's own. -/
namespace InlineRemote.Shell

/-- What a variable holds: a text, or in the extended dialect values by numbers or by names. -/
inductive Value where
  | text (s : String)
  | row (items : List (Nat × String))
  | table (items : List (String × String))
  deriving DecidableEq, Repr

/-- A variable: it may have attributes before it has a value. -/
structure Variable where
  value : Option Value := none
  exported : Bool := false
  fixed : Bool := false
  /-- Whether what is assigned is calculated first. -/
  integer : Bool := false
  /-- How the letters change of what is assigned. -/
  change : Option LetterChange := none
  /-- Whether it stands for the variable that its value names. -/
  reference : Bool := false
  deriving DecidableEq, Repr

/-- What is open under a stream's number. -/
inductive Stream where
  /-- Nothing can be read, and what is written is lost. -/
  | nothing
  /-- Nothing can be written. -/
  | full
  | zeros
  | noise
  /-- A text that is read. -/
  | text (left : List Char)
  /-- What is written is kept. -/
  | collector (written : String)
  /-- A place in a file. -/
  | file (node offset : Nat) (reads writes appends : Bool)
  deriving DecidableEq, Repr

/-- A process that runs beside others, as they see it: how it ended, and what it holds open. -/
structure Process where
  number : Nat
  exit : Option Exit := none
  holds : List Nat := []
  deriving DecidableEq, Repr

/-- A signal on its way to a process. -/
structure Notice where
  process : Nat
  signal : Nat
  deriving DecidableEq, Repr

/-- What all processes share. -/
structure World where
  disk : Disk
  streams : List (Nat × Stream) := []
  /-- A number under which nothing was open yet. -/
  freeStream : Nat := 0
  /-- The time, in microseconds. -/
  time : Nat
  notices : List Notice := []
  processes : List Process := []
  /-- The last process that was started. -/
  lastProcess : Nat

/-- A command that a shell started beside itself. -/
structure Job where
  number : Nat
  process : Nat
  /-- Whether a command has waited for it to come to its end. -/
  waited : Bool := false
  /-- Whether it is the job of a shell that this one is a copy of. -/
  foreign : Bool := false
  deriving DecidableEq, Repr

/-- The texts that run when a signal comes; number nought stands for the end of the shell. -/
abbrev Traps := List (Nat × String)

/-- The state of a shell. -/
structure Session extends World where
  host : Host
  /-- Whether the extended dialect is understood. -/
  extended : Bool := false
  /-- The name that the shell was started by. -/
  name : String
  arguments : List String := []
  bindings : List (String × Variable) := []
  functions : List (String × Command) := []
  aliases : List (String × String) := []
  /-- The programs that were found in the search path. -/
  known : List (String × String) := []
  /-- The status of the last command. -/
  status : Nat := 0
  /-- The statuses of the parts of the last pipeline. -/
  statuses : List Nat := []
  /-- The status of the last command whose output went into a word. -/
  substituted : Nat := 0
  /-- The letters of the options that are on. -/
  options : List Char := []
  /-- The options without a letter that are on. -/
  features : List String := []
  traps : Traps := []
  /-- Signals that are ignored whatever the traps say, as they were when the process started. -/
  ignored : List Nat := []
  /-- The traps of the shell that this one is a copy of. -/
  shownTraps : Option Traps := none
  /-- Signals that came and whose traps did not run yet. -/
  pending : List Nat := []
  /-- The status from before a trap, while it runs. -/
  interrupted : Option Nat := none
  directory : Place
  /-- The path that led to the directory. -/
  path : String
  /-- The earlier directories that are kept. -/
  stack : List String := []
  /-- The numbers of the streams, and what is open there. -/
  descriptors : List (Nat × Nat)
  /-- What else is open while streams are led elsewhere. -/
  kept : List Nat := []
  /-- Whether something could not be written. -/
  lost : Bool := false
  jobs : List Job := []
  /-- The process of the last job. -/
  lastJob : Option Nat := none
  /-- The process that the script calls its own, and the one that runs. -/
  process : Nat
  current : Nat
  /-- The process that started this one. -/
  parent : Nat
  /-- The processes that wait for this one, the next first, with their traps. -/
  above : List (Nat × Traps) := []
  /-- Signals that come at a time, to the process that runs and to those that it starts. -/
  alarms : List (Nat × Nat) := []
  /-- The variables that functions cover up, the innermost function first. -/
  covered : List (List (String × Option Variable)) := []
  /-- The functions that run, the innermost first. -/
  callers : List String := []
  /-- How many copies of shells are around. -/
  nesting : Nat := 0
  /-- Streams that were opened for a word, with the commands that read what is written there. -/
  outlets : List (Nat × Option Command) := []
  /-- How many files run inside each other. -/
  sourced : Nat := 0
  /-- How many loops are around a command. -/
  loops : Nat := 0
  /-- The place of the next word with options, and how far the last one was looked at. -/
  optionIndex : Nat := 1
  optionOffset : Nat := 0
  /-- The rights that new files lack. -/
  mask : Nat := 18
  /-- How far the process lets others go first. -/
  courtesy : Int := 0
  /-- The limits that were set, by their letters: the soft ones and the hard ones. -/
  limits : List ((Char × Bool) × Option Nat) := []
  /-- The line of the command that runs. -/
  line : Nat := 1
  /-- The last random number. -/
  seed : Nat := 1
  /-- The time from which the seconds of the shell count. -/
  born : Nat := 0

def optionNames : List (Char × String) :=
  [('e', "errexit"), ('f', "noglob"), ('I', "ignoreeof"), ('i', "interactive"), ('m', "monitor"),
    ('n', "noexec"), ('s', "stdin"), ('x', "xtrace"), ('v', "verbose"), ('V', "vi"),
    ('E', "emacs"), ('C', "noclobber"), ('a', "allexport"), ('b', "notify"), ('u', "nounset"),
    ('p', "privileged")]

def optionNamesThere : List (Char × String) :=
  [('a', "allexport"), ('B', "braceexpand"), ('e', "errexit"), ('E', "errtrace"),
    ('T', "functrace"), ('h', "hashall"), ('H', "histexpand"), ('k', "keyword"), ('m', "monitor"),
    ('C', "noclobber"), ('n', "noexec"), ('f', "noglob"), ('b', "notify"), ('u', "nounset"),
    ('t', "onecmd"), ('P', "physical"), ('p', "privileged"), ('v', "verbose"), ('x', "xtrace")]

/-- The place of a name among names that are listed in no other order: names are kept in so many rows, by
the codes of their letters. -/
def row (name : String) : Nat :=
  let codes := name.toList.map Char.toNat
  codes.foldl (· + ·) (16 * codes.headD 0) % 39

def byRow {α : Type} (es : List (String × α)) : List (String × α) :=
  es.mergeSort fun a b => row a.1 ≤ row b.1

def withKey {α β : Type} [DecidableEq α] (es : List (α × β)) (key : α) (value : Option β) :
    List (α × β) :=
  let others := es.filter (·.1 ≠ key)
  match value with
  | some v => (key, v) :: others
  | none => others

def Value.plain? : Value → Option String
  | text s => some s
  | row items => items.lookup 0
  | table items => items.lookup "0"

def Value.items : Value → List (String × String)
  | text s => [("0", s)]
  | row items => items.map fun (n, s) => (toString n, s)
  | table items => items

def LetterChange.apply (how : LetterChange) (c : Char) : Char :=
  match how with
  | upper => c.toUpper
  | lower => c.toLower
  | swap => if c.isUpper then c.toLower else c.toUpper

namespace Session

def referent (s : Session) : Nat → String → String
  | 0, name => name
  | n + 1, name =>
    match s.bindings.lookup name with
    | some { reference := true, value := some (.text other), .. } => s.referent n other
    | _ => name

def binding? (s : Session) (name : String) : Option Variable :=
  s.bindings.lookup (s.referent 8 name)

def value? (s : Session) (name : String) : Option String :=
  ((s.binding? name).bind Variable.value).bind Value.plain?

def put (s : Session) (name : String) (v : Option Variable) : Session :=
  { s with bindings := withKey s.bindings name v }

def has (s : Session) (option : Char) : Bool :=
  s.options.contains option

def shownOptions (s : Session) : List Char :=
  if s.extended then "abefhkmnptuvxBCEHPTcs".toList.filter s.options.contains else s.options

def feature? (s : Session) (option : String) : Bool :=
  s.features.contains option

def isOn (s : Session) (option : String) : Bool :=
  s.feature? option || (optionNamesThere.find? (·.2 = option)).any fun (c, _) => s.has c

def separators (s : Session) : List Char :=
  (s.value? "IFS").elim [' ', '\t', '\n'] String.toList

def style (s : Session) : PatternStyle :=
  { caret := s.extended
    groups := s.extended && s.feature? "extglob"
    foldCase := s.extended && s.feature? "nocasematch" }

def stream? (s : Session) (n : Nat) : Option Stream :=
  (s.descriptors.lookup n).bind fun i => s.streams.lookup i

def putStream (s : Session) (i : Nat) (x : Stream) : Session :=
  { s with streams := withKey s.streams i (some x) }

def openStream (s : Session) (x : Stream) : Nat × Session :=
  (s.freeStream,
    { s with streams := (s.freeStream, x) :: s.streams, freeStream := s.freeStream + 1 })

def lead (s : Session) (n : Nat) (target : Option Nat) : Session :=
  { s with descriptors := withKey s.descriptors n target }

def content (s : Session) (i : Nat) : String :=
  match (s.disk.node? i).map Node.matter with
  | some (.file t) | some (.pipe t) => t
  | some (.program name) => "\x7fELF" ++ name
  | _ => ""

def find (s : Session) (path : String) : Except Fault (Place × Nat × Node) :=
  s.disk.find true s.directory path

def exports (s : Session) : List (String × String) :=
  s.bindings.filterMap fun (x, v) =>
    if v.exported then (v.value.bind Value.plain?).map (x, ·) else none

def isDeadly (traps : Traps) (signal : Nat) : Bool :=
  signal = 9 || ((traps.lookup signal).isNone && !harmless.contains signal)

def guarded (s : Session) : Traps :=
  s.traps ++ s.ignored.map (·, "") ++ if s.extended then [(3, "")] else []

def chain (s : Session) : List Nat :=
  s.current :: s.above.map Prod.fst

def isAlive (s : Session) (process : Nat) : Bool :=
  s.chain.contains process || s.processes.any fun p => p.number = process && p.exit.isNone

def isAlone (s : Session) : Bool :=
  s.processes.all fun p => p.exit.isSome || s.chain.contains p.number

def death? (s : Session) : Option Notice :=
  s.notices.find? fun n =>
    ((s.current, s.guarded) :: s.above).any fun (p, traps) =>
      p = n.process && isDeadly traps n.signal

def isTrapped (s : Session) (signal : Nat) : Bool :=
  (s.traps.lookup signal).any (· ≠ "") && !s.ignored.contains signal

def isCalled (s : Session) : Bool :=
  s.notices.any fun n => n.process = s.current && s.isTrapped n.signal

def rung (s : Session) : Session :=
  let (due, later) := s.alarms.partition fun (time, _) => time ≤ s.time
  let came := due.map fun (_, signal) => Notice.mk s.current signal
  { s with alarms := later, notices := s.notices ++ came }

def shownJobs (s : Session) : List Job :=
  if s.extended then s.jobs.filter fun j => s.isAlive j.process else s.jobs

/-- The number for a new job, and the session without a job that had it.  In the plain dialect a job
that was waited for makes room for another one. -/
def jobNumber (s : Session) : Nat × Session :=
  if s.extended then ((s.jobs.map Job.number).foldl max 0 + 1, s)
  else
    let isOver (j : Job) : Bool :=
      j.waited && (s.processes.find? (·.number = j.process)).all (·.exit.isSome)
    let isFree (n : Nat) : Bool := (s.jobs.find? (·.number = n)).all isOver
    let n := ((List.range s.jobs.length).map (· + 1)).find? isFree
    let n := n.getD (s.jobs.length + 1)
    (n, { s with jobs := s.jobs.filter (·.number ≠ n) })

def place (s : Session) : String :=
  if s.extended then s.name ++ ": line " ++ toString s.line ++ ": "
  else s.name ++ ": " ++ toString s.line ++ ": "

end Session

end InlineRemote.Shell
