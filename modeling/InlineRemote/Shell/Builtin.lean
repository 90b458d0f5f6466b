import InlineRemote.Shell.Builtin.Directories
import InlineRemote.Shell.Builtin.Flow
import InlineRemote.Shell.Builtin.Jobs
import InlineRemote.Shell.Builtin.Limits
import InlineRemote.Shell.Builtin.Names
import InlineRemote.Shell.Builtin.Variables
import InlineRemote.Shell.Printing
import InlineRemote.Shell.Test.Counted

/-! # The shell's own commands

Commands that the shell carries out itself, because they look at its state or change it.  Each
takes its words and answers with a status.  A mistake in the words is a fault; whether that ends
the script depends on the command and is decided where commands are run. -/
namespace InlineRemote.Shell

namespace Builtin

def echo (ws : List String) : Act Nat := do
  let s ← get
  let p : Printer := if s.extended && !s.feature? "xpg_echo" then .extended else .plain
  print "echo" (Printing.echo p ws) 0

/-- Writes words in a format, or gives a variable what would be written. -/
def printf (ws : List String) : Act Nat := do
  let s ← get
  let (os, ws) ← options "printf" (if s.extended then "v:" else "") ws
  match ws with
  | [] =>
    if s.extended then
      Act.complain "printf: usage: printf [-v var] format [arguments]"
      return 2
    wrong "printf" "usage: printf format [arg ...]" 2
  | form :: ws =>
    let o := Printing.printf (if s.extended then .extended else .plain) s.time form ws
    for e in o.complaints do complain "printf" e
    match argumentOf? os 'v' with
    | none => print "printf" o.text o.status
    | some x =>
      if !isName (subscripted x).1.toList then
        complain "printf" ("\x60" ++ x ++ "': not a valid identifier")
        return 2
      if ← storeNamed x false o.text then return o.status else return 1

def test (name : String) (ws : List String) : Act Nat := do
  let (status, complaint) := Test.status ⟨false⟩ (← get) (name = "[") ws
  if let some e := complaint then complain name e
  return status

def complete (ws : List String) : Act Nat := do
  let (os, rest) ← options "compgen" "abcdefgjksuvo:A:G:W:F:C:X:P:S:" ws
  let s ← get
  let kind := argumentOf? os 'A'
  let all :=
    (((argumentOf? os 'W').map fun t => (Utility.wordsOf t.toList).map String.ofList).getD []) ++
    (if hasOption os 'v' || kind = some "variable" then (s.bindings.map Prod.fst).mergeSort (· ≤ ·)
      else []) ++
    (if kind = some "function" then (s.functions.map Prod.fst).mergeSort (· ≤ ·) else []) ++
    (if hasOption os 'b' || kind = some "builtin" then
      (specialBuiltins ++ plainNames ++ namesThere).mergeSort (· ≤ ·) else []) ++
    (if hasOption os 'k' || kind = some "keyword" then
      (Reading.reserved ++ Reading.reservedThere).mergeSort (· ≤ ·) else []) ++
    (if hasOption os 'a' || kind = some "alias" then
      (s.aliases.map Prod.fst).mergeSort (· ≤ ·) else [])
  let found := all.filter fun x => (rest.headD "").toList.isPrefixOf x.toList
  Act.print ("".intercalate (found.map (· ++ "\n")))
  return if found = [] then 1 else 0

def caller : Act Nat := do
  let s ← get
  if s.callers = [] then return 1
  Act.print (toString s.line ++ " " ++ s.name ++ "\n")
  return 0

def enable (ws : List String) : Act Nat := do
  let mut status := 0
  for w in ws.filter fun w => !w.startsWith "-" do
    if !isBuiltin true w then
      complain "enable" (w ++ ": not a shell builtin")
      status := 1
  return status

def help (ws : List String) : Act Nat := do
  let names := ws.filter fun w => !w.startsWith "-"
  let known (w : String) : Bool := isBuiltin true w || isReserved true w
  Act.print ("".intercalate ((if names = [] then ["help"] else names.filter known).map fun w =>
    w ++ ": " ++ w ++ "\n"))
  if names.all fun w => !known w then
    if names ≠ [] then
      complain "help" ("no help topics match \x60" ++ names.headD "" ++ "'.")
      return 1
  return 0

def simpleThere? (name : String) : Option (List String → Act Nat) :=
  match name with
  | "declare" | "typeset" => some (declare name)
  | "let" => some calculateAll
  | "mapfile" | "readarray" => some (readRow name)
  | "shopt" => some features
  | "dirs" => some dirs
  | "pushd" => some pushd
  | "popd" => some popd
  | "disown" => some disown
  | "compgen" => some complete
  | "caller" => some fun _ => caller
  | "enable" => some enable
  | "help" => some help
  | "bind" | "complete" | "compopt" | "fc" | "history" => some fun _ => return 0
  | "suspend" => some fun _ => wrong name "cannot suspend: no job control" 1
  | "logout" => some fun _ => wrong name "not login shell: use \x60exit'" 1
  | _ => none

/-- The commands that need nothing but the state of the shell. -/
def simple? (extended : Bool) (name : String) : Option (List String → Act Nat) :=
  match name with
  | ":" | "true" => some fun _ => return 0
  | "false" => some fun _ => return 1
  | "times" => some times
  | "jobs" => some jobs
  | "fg" | "bg" => some (foreground name)
  | "set" => some set
  | "export" => some exportAll
  | "readonly" => some fix
  | "unset" => some unset
  | "shift" => some shift
  | "local" => some localize
  | "trap" => some trap
  | "kill" => some kill
  | "wait" => some wait
  | "cd" => some cd
  | "chdir" => if extended then none else some cd
  | "pwd" => some pwd
  | "read" => some read
  | "umask" => some umask
  | "ulimit" => some ulimit
  | "type" => some type
  | "hash" => some hash
  | "alias" => some setAliases
  | "unalias" => some unalias
  | "getopts" => some nextOption
  | "echo" => some echo
  | "printf" => some printf
  | "test" | "[" => some (test name)
  | "exit" => some exit
  | "return" => some giveBack
  | "break" | "continue" => some (skipLoops name)
  | name => if extended then simpleThere? name else none

end Builtin

end InlineRemote.Shell
