import InlineRemote.Shell.Condition
import InlineRemote.Shell.Program
import InlineRemote.Shell.Redirection

/-! # Running commands

How commands change a session.  What runs a command hands the commands inside it to a worker, and
the workers form a tower of a fixed height: commands may nest and call each other that deep, and a
deeper call is a fault. -/
namespace InlineRemote.Shell

namespace Worker

/-! ## Assignments -/

/-- The values of a row that words stand for, put into what is there. -/
def fill (w : Worker) (v : Variable) : Nat → Value → List Item → Act Value
  | _, value, [] => return value
  | next, value, .mk key added ps :: rest => do
    let calculated (t : String) : Act String := do
      if v.integer then return toString (← Act.calculate t) else return v.changed t
    match key with
    | some key =>
      let k ← w.expandText key
      let t ← w.expandValue ps
      let k ← match value with
        | .table _ => pure (Key.name k)
        | _ => do pure (Key.number (← Act.calculate k).toNat)
      let old := if added then (value.at? k).getD "" else ""
      let after := match k with
        | .number n => n + 1
        | .name _ => next
      fill w v after (Value.put (some value) (some k) (← calculated (old ++ t))) rest
    | none =>
      let mut value := value
      let mut next := next
      for t in ← w.expandFields ps do
        value := Value.put (some value) (some (.number next)) (← calculated t)
        next := next + 1
      fill w v next value rest

def pairs : List String → List (String × String)
  | k :: v :: ts => (k, v) :: pairs ts
  | [k] => [(k, "")]
  | [] => []

/-- Gives a variable a row of values. -/
def assignRow (w : Worker) (name : String) (added : Bool) (items : List Item) : Act Unit := do
  let s ← get
  let v := (s.binding? name).getD {}
  let base : Value := match v.value, added with
    | some (.table t), true => .table t
    | some (.table _), false => .table []
    | some (.row r), true => .row r
    | some (.text t), true => .row [(0, t)]
    | _, _ => .row []
  let start := match base with
    | .row r => (r.getLast?.map fun e => e.1 + 1).getD 0
    | _ => 0
  let isKeyed : Item → Bool
    | .mk key _ _ => key.isSome
  let value ← match base, items.any isKeyed with
    | .table t, false => do
      let ts ← items.flatMapM fun
        | .mk _ _ ps => w.expandFields ps
      pure (Value.table ((pairs ts).foldl (fun t (k, v) => insertNamed k v t) t))
    | base, _ => w.fill v start base items
  modify fun s =>
    s.put (s.referent 8 name) (some { v with value, exported := v.exported || s.has 'a' })

def assignOne (w : Worker) : Assignment → Act Bool
  | .mk name subscript added ps => do
    match ps with
    | [.row items] =>
      if !(← Act.mayChange name) then return false
      w.assignRow name added items
      return true
    | _ =>
      let value ← w.expandValue ps
      let key ← subscript.mapM w.expandText
      Act.store Act.calculate name key added value

def assignedName : Assignment → String
  | .mk name _ _ _ => name

def assignAll (w : Worker) : List Assignment → Act Unit
  | [] => return
  | a :: rest => do
    if !(← w.assignOne a) then
      Act.leave 1
      throw .discard
    assignAll w rest

def lend (w : Worker) : List Assignment → Act Unit
  | [] => return
  | a :: rest => do
    if ← w.assignOne a then
      let name := assignedName a
      modify fun s => s.put name ((s.bindings.lookup name).map ({ · with exported := true }))
    lend w rest

def lending (w : Worker) (assignments : List Assignment) (a : Act Unit) : Act Unit := do
  if assignments.isEmpty then a
  else
    Act.after (do w.lend assignments; a) fun before s =>
      let s := assignments.foldl (fun s a =>
        s.put (assignedName a) (before.bindings.lookup (assignedName a))) s
      if assignments.any fun a => assignedName a = "PATH" then { s with known := before.known } else s

/-! ## Functions and files -/

def hiddenTraps (s : Session) : Traps :=
  s.traps.filter fun (n, _) =>
    (n = 66 && !s.has 'E') || ((n = 65 || n = 67) && !s.has 'T')

/-- Calls a function: it has arguments of its own, and loops around the call are not its own. -/
def call (w : Worker) (tested : Bool) (name : String) (body : Command) (arguments : List String) :
    Act Unit := do
  let hidden := hiddenTraps (← get)
  let act : Act Unit := do
    modify fun s => { s with
      arguments
      loops := 0
      covered := [] :: s.covered
      callers := name :: s.callers
      traps := s.traps.filter fun t => !hidden.contains t
      optionIndex := if s.extended then s.optionIndex else 1
      optionOffset := if s.extended then s.optionOffset else 0 }
    tryCatch (w.run tested body) fun e => if e = .returning then pure () else throw e
    w.runHook 67
  Act.after act fun before s =>
    let frame := s.covered.head?.getD []
    let s := frame.foldl (fun s (x, v) => s.put x v) s
    let index := if !s.extended then before.optionIndex
      else if (frame.lookup "OPTIND").isSome then
        ((s.value? "OPTIND").bind String.toNat?).getD 1
      else s.optionIndex
    { s with
      arguments := before.arguments
      loops := before.loops
      covered := before.covered
      callers := before.callers
      traps := s.traps ++ hidden.filter fun t => (s.traps.lookup t.1).isNone
      optionIndex := index
      optionOffset := if s.extended then s.optionOffset else before.optionOffset }

/-- Runs a text in the middle of other commands, and answers with a status.  In the extended dialect
a text that is not well formed has a status and nothing more. -/
def statusOf (w : Worker) (tested : Bool) (text : String) : Act Nat := do
  match ← runLines (fun _ => w.run tested) (text.length + 1) false
      (Source.ofText text.toList (← get).line) with
  | some true => return (← get).status
  | some false => return 0
  | none =>
    if (← get).extended then
      Act.report "syntax error"
      return 2
    else Act.fail "Syntax error" 2

def sourcePath? (s : Session) (word : String) : Option String :=
  if word.toList.contains '/' then some word
  else
    let there := Session.candidates s.searchPath word
    (there.find? fun path => (s.fileAt? path).isSome).or
      (if s.extended then some word else none)

/-- Runs the commands of a file in this shell. -/
def source (w : Worker) (tested : Bool) (ws : List String) : Act Nat := do
  let s ← get
  match if ws.head? = some "--" then ws.drop 1 else ws with
  | [] =>
    if s.extended then
      Builtin.complain "." "filename argument required"
      return 2
    else return 0
  | word :: words =>
    let refuse (reason : String) : Act Nat := do
      if s.extended then
        Act.report (word ++ ": " ++ reason)
        return 1
      else Act.fail (".: cannot open " ++ word ++ ": " ++ reason) 2
    match sourcePath? s word with
    | none => Act.fail (".: " ++ word ++ ": not found") 2
    | some path =>
      match ← Act.readPath path with
      | .error .isDirectory => if s.extended then refuse "is a directory" else return 0
      | .error fault => refuse (Fault.words fault)
      | .ok text =>
        let replaces : Bool := s.extended && words ≠ []
        let act : Act Nat := do
          modify fun s => { s with
            sourced := s.sourced + 1
            arguments := if replaces then words else s.arguments }
          tryCatch (w.statusOf tested (String.ofList text)) fun e =>
            if e = .returning then do return (← get).status else throw e
        Act.after act fun before s => { s with
          sourced := before.sourced
          arguments := if replaces then before.arguments else s.arguments }

/-! ## Programs -/

def missing (extended : Bool) (fault : Fault) : Nat :=
  let absent : List Fault :=
    if extended then [.notFound] else [.notFound, .notDirectory, .tooManyLinks, .nameTooLong]
  if absent.contains fault then 127 else 126

def usualPath : String :=
  "/usr/local/sbin:/usr/local/bin:/usr/sbin:/usr/bin:/sbin:/bin"

def become (w : Worker) (extended : Bool) (path word : String) (words : List String) :
    Act Nat := do
  Act.pass 1000
  match ← w.execute extended 40 path word words with
  | .ok status => return status
  | .error fault =>
    Act.complain (word ++ ": " ++ Fault.words fault)
    return missing extended fault

/-- Runs the program that a word stands for, as a process or in the place of this one. -/
def runProgram (w : Worker) (inPlace usual : Bool) (word : String) (words : List String) :
    Act Nat := do
  let s ← get
  match if usual then s.searched? usualPath word else s.locate? word with
  | none =>
    Act.report (word ++ if s.extended then ": command not found" else ": not found")
    return 127
  | some path =>
    if !word.toList.contains '/' && !usual then
      modify fun s => { s with known := withKey s.known word (some path) }
    let run := w.become s.extended path word words
    if inPlace then
      modify Session.asProgram
      let status ← run
      Act.leave status
      throw .exit
    else
      let exit ← Act.inside true Session.asProgram do return .code (← run)
      return exit.status

def execWords : Nat → Option String → List String → Option String × Bool × List String
  | 0, name, ws => (name, false, ws)
  | n + 1, name, w :: ws =>
    match w, ws with
    | "-a", x :: ws => execWords n (some x) ws
    | "-c", ws => let (name, _, ws) := execWords n name ws; (name, true, ws)
    | "-l", ws => execWords n name ws
    | "--", ws => (name, false, ws)
    | w, ws => (name, false, w :: ws)
  | _, name, [] => (name, false, [])

/-- Puts a program in the place of the shell. -/
def exec (w : Worker) (ws : List String) : Act Nat := do
  let s ← get
  let (name?, clears, ws) :=
    if s.extended then execWords ws.length none ws
    else (none, false, ws)
  match ws with
  | [] => return 0
  | word :: words =>
    let refuse (status : Nat) (reason : String) : Act Nat := do
      Builtin.complain "exec" (word ++ ": " ++ reason)
      if s.extended && s.feature? "execfail" then return status
      Act.leave status
      throw .exit
    match s.locate? word with
    | none =>
      if word = "" && !s.extended then refuse 126 "Permission denied" else refuse 127 "not found"
    | some path =>
      match s.runnable path with
      | .error fault => refuse (missing s.extended fault) (Fault.words fault)
      | .ok _ =>
        modify fun s => { s.asProgram with
          bindings := if clears then [] else s.exports.map fun (x, v) =>
            (x, { value := some (.text v), exported := true }) }
        let status ← w.become s.extended path (name?.getD word) words
        Act.leave status
        throw .exit

def builtin? (w : Worker) (tested extended : Bool) (name : String) :
    Option (List String → Act Nat) :=
  match name with
  | "eval" => some fun ws =>
    let ws := if extended && ws.head? = some "--" then ws.drop 1 else ws
    w.statusOf tested (" ".intercalate ws)
  | "." => some (w.source tested)
  | "source" => if extended then some (w.source tested) else none
  | "exec" => some w.exec
  | name => Builtin.simple? extended name

/-! ## Simple commands -/

/-- How the words of a command ask for it. -/
inductive Plea where
  /-- A command, which may be no function, or a program that is found as usual, or a command of the
  shell only. -/
  | run (plain usual own : Bool) (name : String) (words : List String)
  | describe (long : Bool) (words : List String)
  | nothing
  | wrong (letter : Char)

def frontOptions : List String → List Char × List String
  | [] => ([], [])
  | w :: ws =>
    match w.toList with
    | ['-', '-'] => ([], ws)
    | '-' :: c :: cs => let (a, r) := frontOptions ws; (c :: cs ++ a, r)
    | _ => ([], w :: ws)

/-- What words ask for, with an amount that bounds how often they start with a word that only says
how the next one is meant. -/
def plea (extended : Bool) : Nat → Bool → Bool → Bool → List String → Plea
  | 0, _, _, _, _ | _, _, _, _, [] => .nothing
  | n + 1, plain, usual, own, name :: ws =>
    if name = "command" then
      let (letters, rest) := frontOptions ws
      match letters.find? fun c => c ≠ 'p' && c ≠ 'v' && c ≠ 'V' with
      | some c => .wrong c
      | none =>
        if letters.contains 'v' || letters.contains 'V' then .describe (letters.contains 'V') rest
        else plea extended n true (usual || letters.contains 'p') own rest
    else if extended && name = "builtin" then
      plea extended n true usual true (if ws.head? = some "--" then ws.drop 1 else ws)
    else .run plain usual own name ws

def declaring (extended : Bool) : List String :=
  if extended then ["declare", "export", "local", "readonly", "typeset"]
  else ["export", "local", "readonly"]

/-- A row of values that is given to a variable by a word. -/
structure RowWord where
  name : String
  added : Bool
  items : List Item

/-- The fields of the words of a command, and the rows of values among them. -/
def expandCommand (w : Worker) (words : List (List Piece)) : Act (List String × List RowWord) := do
  let extended := (← get).extended
  let mut fields : List String := []
  let mut rows : List RowWord := []
  for ps in words do
    let declares := (fields.find? fun f => f ≠ "command" ∧ f ≠ "builtin").any
      (declaring extended).contains
    match declares, Reading.assignment? extended ps with
    | true, some (.mk x _ added [.row items]) =>
      fields := fields ++ [x]
      rows := rows ++ [⟨x, added, items⟩]
    | true, some (.mk x _ added v) =>
      fields := fields ++ [x ++ (if added then "+=" else "=") ++ (← w.expandValue v)]
    | _, _ => fields := fields ++ (← w.expandFields ps)
  return (fields, rows)

def trace (texts : List String) : Act Unit := do
  let s ← get
  if s.has 'x' then
    let front := (s.value? "PS4").getD "+ "
    let shown := texts.map fun t =>
      if s.extended && (t = "" || Quoting.hasSigns t) then Quoting.single t else t
    let _ ← Act.writeTo 2 (front ++ " ".intercalate shown ++ "\n")

/-- Runs a command of the shell; a mistake in its words is its status, unless it runs other commands
or is to end the shell. -/
def runOwn (special : Bool) (name : String) (run : Act Nat) : Act Unit := do
  let s ← get
  let passes : Bool := special || (s.extended && ["eval", ".", "source", "exec"].contains name)
  let status ← tryCatch run fun e =>
    match e with
    | .fault n => if passes then throw e else return n
    | e => throw e
  let s ← get
  set { s with status := if s.lost then max status 1 else status, lost := false }

/-- Carries out a command that is a word with arguments. -/
def carryOut (w : Worker) (tested inPlace : Bool) (assignments : List Assignment)
    (redirects : List Redirect) (rows : List RowWord) (asked : Plea) : Act Unit := do
  let s ← get
  let led : Bool ← match asked with
    | .nothing => w.redirecting redirects (Act.leave 0)
    | .wrong c => w.redirecting redirects do
      Builtin.complain "command" ("Illegal option -" ++ String.singleton c)
      Act.leave 2
    | .describe long words =>
      let act := runOwn false "command" (Builtin.describe long words)
      w.redirecting redirects (w.lending assignments act)
    | .run plain usual own name words =>
      let special : Bool := !s.extended && specialBuiltins.contains name && !plain
      let function? := if plain || special then none else s.functions.lookup name
      let fillRows : Act Unit := for r in rows do w.assignRow r.name r.added r.items
      match special, function?, w.builtin? tested s.extended name with
      | true, _, some run =>
        let act : Act Unit := do
          w.assignAll assignments
          runOwn true name (run words)
        let led ←
          if name = "exec" && words = [] then do
            let (led, _) ← w.redirect redirects
            if led then act
            pure led
          else w.redirecting redirects act
        if !led then throw (.fault 2)
        pure true
      | _, some body, _ =>
        w.redirecting redirects (w.lending assignments (w.call tested name body words))
      | _, none, some run =>
        if name = "exec" && words = [] then do
          let (led, _) ← w.redirect redirects
          if led then Act.leave 0
          pure led
        else
          w.redirecting redirects <| w.lending assignments do
            runOwn false name (run words)
            fillRows
      | _, none, none =>
        if own then
          w.redirecting redirects do
            Builtin.complain "builtin" (name ++ ": not a shell builtin")
            Act.leave 1
        else
          w.redirecting redirects <| w.lending assignments do
            Act.leave (← w.runProgram inPlace usual name words)
  if !led then Act.leave (if s.extended then 1 else 2)

/-- Runs a simple command.  Without words, its assignments last, and its status is that of the last
command whose output went into one of them. -/
def runSimple (w : Worker) (tested inPlace : Bool) (line : Nat) (assignments : List Assignment)
    (words : List (List Piece)) (redirects : List Redirect) : Act Unit := do
  modify ({ · with line, substituted := 0 })
  Act.pass 1
  w.runHook 65
  let (fields, rows) ← w.expandCommand words
  if fields ≠ [] then trace fields
  match fields with
  | [] =>
    let led ←
      if (← get).extended then do
        w.assignAll assignments
        w.redirecting redirects (pure ())
      else w.redirecting redirects (w.assignAll assignments)
    modify fun s => { s with
      status := if led then s.substituted else if s.extended then 1 else 2 }
  | fields =>
    let extended := (← get).extended
    w.carryOut tested inPlace assignments redirects rows
      (plea extended (fields.length + 1) false false false fields)
    if extended then
      modify fun s => { s with
        bindings := withKey s.bindings "_" (some { value := some (.text (fields.getLast?.getD "")) }) }

/-! ## Loops and choices -/

/-- How a part of a loop came to its end. -/
inductive Pace where
  | done
  | again
  | out
  deriving DecidableEq, Repr

def inLoop (a : Act Unit) : Act Pace :=
  tryCatch (do a; return .done) fun e =>
    match e with
    | .breaking n => if n ≤ 1 then return .out else throw (.breaking (n - 1))
    | .continuing n => if n ≤ 1 then return .again else throw (.continuing (n - 1))
    | e => throw e

def looping (a : Act Unit) : Act Unit :=
  Act.after (do modify fun s => { s with loops := s.loops + 1 }; a)
    fun before s => { s with loops := before.loops }

def turnLimit : Nat := 100000000

def turn (w : Worker) (tested whileTrue : Bool) (test body : Command) (last : Nat) :
    Act (Nat ⊕ Nat) := do
  Act.pass 1
  match ← inLoop (w.run true test) with
  | .out => return .inr last
  | .again => return .inl last
  | .done =>
    if ((← get).status = 0 : Bool) ≠ whileTrue then return .inr last
    let pace ← inLoop (w.run tested body)
    let status := (← get).status
    return if pace = .out then .inr status else .inl status

def turnsOver (w : Worker) (tested : Bool) (name : String) (body : Command) :
    List String → Act Unit
  | [] => return
  | v :: vs => do
    Act.pass 1
    if !isName name.toList then
      Act.report ("\x60" ++ name ++ "': not a valid identifier")
      return ← Act.leave 1
    if (← get).extended && !(← Act.mayChange name) then return ← Act.leave 1
    Act.assign name v
    if (← inLoop (w.run tested body)) ≠ .out then turnsOver w tested name body vs

/-- The value of an expression of a loop, where no expression is one; a mistake has none. -/
def stage (w : Worker) (e : List Piece) : Act (Option Int) := do
  let text ← w.expandText e
  if text.toList.all isGap then return some 1
  tryCatch (do return some (← Act.calculate text)) fun e =>
    if e = .discard then return none else throw e

/-- One turn of a loop with expressions: the status of the last body, and whether that is all. -/
def countedTurn (w : Worker) (tested : Bool) (test step : List Piece) (body : Command)
    (last : Nat) : Act (Nat ⊕ Nat) := do
  Act.pass 1
  match ← w.stage test with
  | none => return .inr 1
  | some 0 => return .inr last
  | some _ =>
    let pace ← inLoop (w.run tested body)
    let status := (← get).status
    if pace = .out then return .inr status
    match ← w.stage step with
    | none => return .inr 1
    | some _ => return .inl status

/-- One turn of a loop that lets its reader choose among values. -/
def choosingTurn (w : Worker) (tested : Bool) (name : String) (values : List String)
    (body : Command) : Unit → Act (Unit ⊕ Unit) := fun _ => do
  let row (e : String × Nat) : String := toString (e.2 + 1) ++ ") " ++ e.1 ++ "\n"
  let _ ← Act.writeTo 2 ("".intercalate (values.zipIdx.map row) ++ "#? ")
  let (line, ended) ← Act.readTo '\n' 0
  if !ended && line = [] then
    Act.print "\n"
    Act.leave 1
    return .inr ()
  let reply := String.ofList line
  Act.assign "REPLY" reply
  let chosen := match (Utility.wordsOf line).map String.ofList with
    | [t] => ((count? t).bind fun n => if n = 0 then none else values[n - 1]?).getD ""
    | _ => ""
  if line = [] then return .inl ()
  Act.assign name chosen
  return if (← inLoop (w.run tested body)) = .out then .inr () else .inl ()

def fitsAny (w : Worker) (text : String) : List (List Piece) → Act Bool
  | [] => return false
  | ps :: rest => do
    let p ← w.expandPattern ps
    if fits (← get).style p text.toList then return true else fitsAny w text rest

/-- Runs the first arm that fits, and those that it hands on to.  The flag says that an arm is to run
whatever its patterns. -/
def choose (w : Worker) (tested : Bool) (text : String) :
    Bool → List (List (List Piece) × Command × ArmEnd) → Act Unit
  | _, [] => Act.leave 0
  | falls, (patterns, body, finish) :: rest => do
    if falls || (← w.fitsAny text patterns) then
      match body with
      | .nothing => Act.leave 0
      | body => w.run tested body
      match finish with
      | .leave => return
      | .fall => choose w tested text true rest
      | .retry => choose w tested text false rest
    else choose w tested text false rest

/-! ## All commands -/

def insist (w : Worker) (tested : Bool) : Act Unit := do
  let s ← get
  if !tested && s.status ≠ 0 then
    w.runHook 66
    if s.has 'e' then throw .exit

def startJob (c : Command) : Act Unit := do
  let s ← get
  let process := s.lastProcess + 1
  let (i, s) := s.openStream .nothing
  set s
  let child : Session := 
    { s.copied with current := process, parent := s.current, above := [], kept := [], jobs := [] }
  fun s => .starting c (child.lead 0 (some i)) s fun t => .ended (.ok ()) t
  modify fun s =>
    let (number, s) := s.jobNumber
    { s with lastJob := some process, jobs := s.jobs ++ [{ number, process }], status := 0 }

/-- Runs a command that was started beside a shell.  It is not to be interrupted from then on. -/
def runJob (w : Worker) (c : Command) : Act Exit :=
  w.asShell do
    Act.collect
    modify fun s =>
      if s.extended then { s with traps := withKey (withKey s.traps 2 (some "")) 3 (some "") }
      else { s with ignored := 2 :: 3 :: s.ignored }
    match c with
    | .negated body => if (← get).extended then w.run false body else w.run false c
    | .redirected body redirects =>
      let (led, _) ← w.redirect redirects
      if !led then Act.leave (if (← get).extended then 1 else 2)
      else if (← get).extended then w.run false body
      else w.runLast false true body
    | c => w.runLast false true c

/-- Runs a command, which hands the commands inside it to a worker. -/
def runCommand (w : Worker) (tested : Bool) (c : Command) : Act Unit := do
  match c with
  | .nothing => return
  | .simple line assignments words redirects =>
    w.runSimple tested false line assignments words redirects
  | .redirected body redirects =>
    if !(← w.redirecting redirects (w.run tested body)) then
      Act.leave (if (← get).extended then 1 else 2)
  | .subshell body => do
    Act.leave (← w.apart true ({ · with jobs := [] }) (w.runLast tested true body)).status
  | .pipeline parts =>
    let statuses := (← w.pipe tested parts).map Exit.status
    let s ← get
    let last := statuses.getLast?.getD 0
    let worst := (statuses.reverse.find? (· ≠ 0)).getD 0
    set { s with statuses, status := if s.feature? "pipefail" then worst else last }
  | .negated body =>
    let invert : Act Unit := modify fun s => { s with status := if s.status = 0 then 1 else 0 }
    tryCatch (w.run true body) fun e => do
      match e with
      | .breaking _ | .continuing _ => if (← get).extended then invert
      | _ => pure ()
      throw e
    invert
  | .timed body =>
    w.run tested body
    let _ ← Act.writeTo 2 "\nreal\t0m0.001s\nuser\t0m0.000s\nsys\t0m0.000s\n"
  | .background body => startJob body
  | .both first second =>
    w.run true first
    if (← get).status = 0 then w.run tested second
  | .either first second =>
    w.run true first
    if (← get).status ≠ 0 then w.run tested second
  | .sequence first second =>
    w.run tested first
    w.run tested second
  | .conditional test yes no =>
    w.run true test
    if (← get).status = 0 then w.run tested yes
    else
      match no with
      | .nothing => Act.leave 0
      | no => w.run tested no
  | .loop whileTrue test body =>
    looping do Act.leave (← Act.iterate (w.turn tested whileTrue test body) turnLimit 0)
  | .each choosing name words body =>
    let values ← match words with
      | some ws => ws.flatMapM w.expandFields
      | none => pure (← get).arguments
    if values = [] then Act.leave 0
    else if choosing then
      looping (Act.iterate (w.choosingTurn tested name values body) turnLimit ())
    else looping (w.turnsOver tested name body values)
  | .counted line start test step body =>
    modify ({ · with line })
    match ← w.stage start with
    | none => Act.leave 1
    | some _ =>
      looping do Act.leave (← Act.iterate (w.countedTurn tested test step body) turnLimit 0)
  | .choice subject arms =>
    let text ← w.expandWhole subject
    w.choose tested text false arms
  | .condition line c =>
    modify ({ · with line })
    Act.leave (← w.conditionStatus c)
  | .calculation line e =>
    modify ({ · with line })
    let text ← w.expandText e
    let n ← tryCatch (Act.calculate text) fun e => if e = .discard then return 0 else throw e
    Act.leave (if n = 0 then 1 else 0)
  | .definition name body =>
    modify fun s => { s with functions := withKey s.functions name (some body), status := 0 }

def isSingle : Command → Bool
  | .simple .. | .subshell .. | .pipeline .. | .condition .. | .calculation .. => true
  | _ => false

/-- Closes the streams that were opened for words of a command; what was written there goes to the
commands that wait for it. -/
def closeOutlets (w : Worker) (before : Nat) : Act Unit := do
  let s ← get
  let fresh := s.outlets.take (s.outlets.length - before)
  if fresh.isEmpty then return
  set { s with outlets := s.outlets.drop fresh.length }
  for (n, reader?) in fresh do
    let s ← get
    match s.descriptors.lookup n, reader? with
    | some i, some c =>
      let (j, s) := (s.lead n none).openStream (.text (s.written i).toList)
      set s
      let _ ← w.apart true (·.lead 0 (some j)) (w.run false c)
      modify ({ · with status := s.status })
    | _, _ => set (s.lead n none)

def conclude (w : Worker) (tested : Bool) (c : Command) (outlets : Nat) : Act Unit := do
  if (← get).outlets.length ≠ outlets then w.closeOutlets outlets
  if isSingle c then
    match c with
    | .pipeline _ => pure ()
    | _ => if (← get).extended then modify fun s => { s with statuses := [s.status] }
    insist w tested
  w.runTraps

def runWith (w : Worker) (tested : Bool) (c : Command) : Act Unit := do
  let s ← get
  if s.has 'n' then return
  w.runCommand tested c
  w.conclude tested c s.outlets.length

/-- Runs a command after which its process is to end: a program takes the place of the process, if no
trap can run any more.  In the extended dialect that holds for fewer commands, and for one with
redirections only if the process is there for it alone. -/
def runLastWith (w : Worker) (tested alone : Bool) (c : Command) : Act Unit := do
  let s ← get
  let isFree : Bool := s.traps.all fun t => t.2 = ""
  let last (c : Command) : Act Unit := w.runLast tested false c
  match c with
  | .simple line assignments words redirects =>
    if isFree && (alone || !s.extended || redirects.isEmpty) && !s.has 'n' then
      w.runSimple tested true line assignments words redirects
      w.conclude tested c s.outlets.length
    else w.run tested c
  | .sequence first second =>
    w.run tested first
    last second
  | .both first second =>
    w.run true first
    if (← get).status = 0 then last second
  | .either first second =>
    w.run true first
    if (← get).status ≠ 0 then last second
  | .subshell body =>
    if isFree && (alone || !s.extended) then
      modify fun s => { s.copied with jobs := [] }
      w.runLast tested true body
      throw .exit
    else w.run tested c
  | .redirected body redirects =>
    if redirects.isEmpty && !s.extended then last body else w.run tested c
  | .conditional test yes no =>
    if s.extended then w.run tested c
    else
      w.run true test
      if (← get).status = 0 then last yes
      else
        match no with
        | .nothing => Act.leave 0
        | no => last no
  | .choice subject arms =>
    if s.extended then w.run tested c
    else
      let text ← w.expandWhole subject
      Worker.choose { w with run := fun _ c => last c } tested text false arms
  | c => w.run tested c

/-- Opens a stream for a word: from a command, or to one that reads what was written in the end.  The
answer is the path of the stream. -/
def openOutlet (w : Worker) (fromCommand : Bool) (c : Command) : Act String := do
  let x ←
    if fromCommand then do
      let (_, text) ← Act.collecting [1] (w.apart true id (w.run false c))
      pure (Stream.text text.toList)
    else pure (Stream.collector "")
  let (i, s) := (← get).openStream x
  let free := ((List.range 50).map (63 - ·)).find? fun n => (s.descriptors.lookup n).isNone
  let n := free.getD 63
  let outlets := (n, if fromCommand then none else some c) :: s.outlets
  set { s.lead n (some i) with outlets }
  return "/dev/fd/" ++ toString n

def expandWith (w : Worker) : List Piece → Act (List Mark)
  | [] => return []
  | p :: ps => do
    let ms ← match p with
      | .text [] quoted => pure (if quoted then [.field] else [])
      | .text s quoted => pure (s.map (.letter · quoted false))
      | .parameter name reach use quoted => w.expandParameter name reach use quoted
      | .arithmetic e quoted => do pure (Mark.ofValue quoted (← w.expandArithmetic e))
      | .output c quoted => do pure (Mark.ofValue quoted (String.ofList (← w.capture c)))
      | .stream fromCommand c => do pure (Mark.ofValue true (← w.openOutlet fromCommand c))
      | .row _ => pure []
    return ms ++ (← expandWith w ps)

def tower : Nat → Worker
  | 0 =>
    { run := fun _ _ => throw (.fault 2)
      runLast := fun _ _ _ => throw (.fault 2)
      expand := fun _ => throw (.fault 2) }
  | n + 1 =>
    { run := fun tested c => (tower n).runWith tested c
      runLast := fun tested alone c => (tower n).runLastWith tested alone c
      expand := fun ps => (tower n).expandWith ps }

end Worker

end InlineRemote.Shell
