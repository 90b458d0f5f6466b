import InlineRemote.Shell.Starter
import InlineRemote.Shell.Utility.System
import InlineRemote.Shell.Utility.Values

/-! # Programs that run one other program

They change how the process is, and then become the other program, or wait for it for some time. -/
namespace InlineRemote.Shell

namespace Launcher

/-- Changes the environment of a program. -/
def withVariables (k : Starter) (c : Call) : Act Nat := do
  let names := [("ignore-environment", 'i', false), ("unset", 'u', true), ("chdir", 'C', true),
    ("split-string", 'S', true), ("null", '0', false), ("debug", 'v', false)]
  -- A string of words stands for those words.
  let rec spread : Nat → List String → List String
    | 0, ws => ws
    | _ + 1, [] => []
    | n + 1, w :: ws =>
      let words (t : List Char) := (Utility.wordsOf t).map String.ofList
      match w.toList, ws with
      | ['-', 'S'], t :: ws => words t.toList ++ ws
      | '-' :: 'S' :: t, ws => words t ++ ws
      | '-' :: _, ws => w :: spread n ws
      | _, ws => w :: ws
  let words := spread c.words.length c.words
  let grammar : Grammar := { letters := "iu:C:0v", names, mixed := false }
  let c : Call := { c with words }
  c.withOptions grammar 125 fun os ws => do
    let (os, ws) := if ws.head? = some "-" then (⟨'i', ""⟩ :: os, ws.drop 1) else (os, ws)
    if hasOption os 'i' then modify ({ · with bindings := [] })
    for o in os do
      if o.letter = 'u' then modify (·.put o.argument none)
    let sets (w : String) : Bool := w.toList.contains '='
    for w in ws.takeWhile sets do
      let (x, v) := (w.toList.takeWhile (· ≠ '='), w.toList.dropWhile (· ≠ '='))
      modify (·.put (String.ofList x) (some
        { value := some (.text (String.ofList (v.drop 1))), exported := true }))
    if let some d := argumentOf? os 'C' then
      match (← get).find d with
      | .ok (p, _, node) =>
        if node.matter ≠ .directory then
          return ← c.fail ("cannot change directory to '" ++ d ++ "': Not a directory") 125
        modify ({ · with directory := p, path := pathOf p })
      | .error fault =>
        return ← c.fail ("cannot change directory to '" ++ d ++ "': " ++ Fault.words fault) 125
    match ws.dropWhile sets with
    | word :: rest => k.replace c word rest
    | [] =>
      let finish := if hasOption os '0' then "\x00" else "\n"
      c.print ("".intercalate ((← get).exports.reverse.map fun (x, v) => x ++ "=" ++ v ++ finish)) 0

/-- Lets a program go after others. -/
def withCourtesy (k : Starter) (c : Call) : Act Nat := do
  let words := c.words.map fun w =>
    match w.toList with
    | '-' :: d :: ds => if (d :: ds).all Char.isDigit then "-n" ++ String.ofList (d :: ds) else w
    | _ => w
  let words := if words.head?.any (·.startsWith "-n") then words.take 1 ++ c.words.drop 1 else c.words
  let grammar : Grammar :=
    { letters := "n:", names := [("adjustment", 'n', true)], mixed := false }
  let c : Call := { c with words }
  c.withOptions grammar 125 fun os ws => do
    match (argumentOf? os 'n').map (number? true) with
    | some none => c.fail ("invalid adjustment '" ++ ((argumentOf? os 'n').getD "") ++ "'") 125
    | adjustment =>
      let more : Int := match adjustment with
        | some (some n) => n
        | _ => 10
      match ws with
      | [] =>
        if os ≠ [] then c.fail "a command must be given with an adjustment" 125
        else c.print (toString (← get).courtesy ++ "\n") 0
      | word :: rest =>
        modify fun s => { s with courtesy := max (-20) (min 19 (s.courtesy + more)) }
        k.replace c word rest

/-- Ends a program after a time. -/
def withLimit (k : Starter) (c : Call) : Act Nat := do
  let names := [("signal", 's', true), ("kill-after", 'k', true), ("preserve-status", 'p', false),
    ("foreground", 'f', false), ("verbose", 'v', false)]
  c.withOptions { letters := "s:k:pfv", names, mixed := false } 125 fun os ws => do
    match ws with
    | time :: word :: words =>
      let signal? := match argumentOf? os 's' with
        | some x => Builtin.signal? true 0 x
        | none => some 15
      let later? := match argumentOf? os 'k' with
        | some t => (Utility.duration? t).map some
        | none => some none
      match signal?, later?, Utility.duration? time with
      | none, _, _ => c.fail (((argumentOf? os 's').getD "") ++ ": invalid signal") 125
      | _, none, _ => c.fail ("invalid time interval '" ++ ((argumentOf? os 'k').getD "") ++ "'") 125
      | _, _, none => c.fail ("invalid time interval '" ++ time ++ "'") 125
      | some signal, some later?, some duration =>
        let limit := (← get).time + duration
        let alarms := (if signal = 0 then [] else [(limit, signal)]) ++
          (match later? with
            | some (d + 1) => [(limit + d + 1, 9)]
            | _ => [])
        let alarms := if duration = 0 then [] else alarms
        let change (s : Session) : Session := { s with alarms := alarms ++ s.alarms }
        match ← k.start change word words with
        | .error fault =>
          c.fail ("failed to run command '" ++ word ++ "': " ++ Fault.words fault)
            (Starter.refusal fault)
        | .ok exit =>
          let late : Bool := duration ≠ 0 && limit ≤ (← get).time
          if late then
            if hasOption os 'p' then return exit.status
            if exit = .signal 9 then Act.endAs exit else return 124
          else Act.endAs exit
    | _ =>
      Act.complain ("Try '" ++ c.called ++ " --help' for more information.")
      return 125

def withoutHangup (k : Starter) (c : Call) : Act Nat :=
  c.withOptions { letters := "", mixed := false } 125 fun _ ws =>
    match ws with
    | [] => c.lacksOperand 125
    | word :: words => do
      modify fun s => { s with ignored := 1 :: s.ignored }
      k.replace c word words

def plainly (letters : String) (names : List (String × Char × Bool)) (needsOption : Bool)
    (lacking : Nat) (k : Starter) (c : Call) : Act Nat :=
  c.withOptions { letters, names, mixed := false } lacking fun os ws =>
    match ws with
    | [] => c.lacksOperand lacking
    | word :: words =>
      if needsOption && os = [] then c.fail "you must specify a buffering mode option" lacking
      else k.replace c word words

def onProcessors (k : Starter) (c : Call) : Act Nat :=
  c.withOptions { letters := "apc", names := [("cpu-list", 'c', false)], mixed := false } 1
    fun _ ws =>
      match ws with
      | _ :: word :: words => k.replace c word words
      | _ => c.fail "bad usage" 1

/-- Becomes another program below a directory that is its root. -/
def belowRoot (k : Starter) (c : Call) : Act Nat :=
  c.withOptions { letters := "", mixed := false } 125 fun _ ws => do
    match ws with
    | [] => c.lacksOperand 125
    | root :: rest =>
      match (← get).find root with
      | .error fault =>
        c.fail ("cannot change root directory to '" ++ root ++ "': " ++ Fault.words fault) 125
      | .ok (p, _, _) =>
        if p ≠ [] then c.fail ("failed to run command: No such file or directory") 127
        else
          match rest with
          | [] => k.replace c "/bin/sh" ["-i"]
          | word :: words => k.replace c word words

/-- Runs a program while a file is locked, which nobody else does. -/
def whileLocked (k : Starter) (c : Call) : Act Nat := do
  let names := [("shared", 's', false), ("exclusive", 'x', false), ("unlock", 'u', false),
    ("nonblock", 'n', false), ("timeout", 'w', true), ("conflict-exit-code", 'E', true),
    ("close", 'o', false), ("command", 'c', true), ("no-fork", 'F', false), ("verbose", 'v', false)]
  c.withOptions { letters := "sexunw:E:oFv", names, mixed := false } 64 fun _ ws => do
    match ws with
    | [] => c.fail "not enough arguments" 64
    | [n] =>
      match count? n with
      | none => c.fail ("bad file descriptor: '" ++ n ++ "'") 64
      | some n =>
        if ((← get).stream? n).isSome then return 0 else c.fail (toString n ++ ": Bad file descriptor") 65
    | file :: rest =>
      match ← Act.openPath .append file with
      | .error fault => c.fail ("cannot open lock file " ++ file ++ ": " ++ Fault.words fault) 66
      | .ok _ =>
        let (word, words) := match rest with
          | "-c" :: text :: _ => ("/bin/sh", ["-c", text])
          | word :: words => (word, words)
          | [] => ("true", [])
        match ← k.start id word words with
        | .error fault => c.fail ("failed to execute " ++ word ++ ": " ++ Fault.words fault) 69
        | .ok exit => return exit.status

/-- Runs a shell, or in one form any program, as a user. -/
def asUser (k : Starter) (c : Call) : Act Nat := do
  let (login, words) := (c.words.contains "-", c.words.filter (· ≠ "-"))
  let names := [("command", 'c', true), ("shell", 's', true), ("login", 'l', false),
    ("preserve-environment", 'm', false), ("user", 'u', true)]
  let mixed := !(c.name = "runuser" && words.any (·.startsWith "-u"))
  let c : Call := { c with words }
  c.withOptions { letters := "c:s:lmpu:fP", names, mixed } 1 fun os ws => do
    let known := ["root", "daemon", "bin", "sys", "nobody"]
    let run (word : String) (words : List String) : Act Nat := do
      match ← k.start id word words with
      | .ok exit => return exit.status
      | .error fault =>
        c.fail ("failed to execute " ++ word ++ ": " ++ Fault.words fault) (Starter.refusal fault)
    match argumentOf? os 'u' with
    | some user =>
      if !known.contains user then
        c.fail ("user " ++ user ++ " does not exist") 1
      else
        match ws with
        | word :: words => run word words
        | [] => run "/bin/bash" []
    | none =>
      let user := ws.headD "root"
      if !known.contains user then
        c.fail ("user " ++ user ++ " does not exist") 1
      else if user ≠ "root" ∧ (argumentOf? os 's').isNone then return 1
      else
        let home := if user = "root" then "/root" else "/nonexistent"
        modify (·.put "HOME" (some { value := some (.text home), exported := true }))
        if login || hasOption os 'l' then
          match (← get).find home with
          | .ok (p, _, _) => modify ({ · with directory := p, path := pathOf p })
          | .error _ => pure ()
        let command := match argumentOf? os 'c' with
          | some text => ["-c", text]
          | none => []
        run ((argumentOf? os 's').getD "/bin/bash") (command ++ ws.drop 1)

end Launcher

end InlineRemote.Shell
