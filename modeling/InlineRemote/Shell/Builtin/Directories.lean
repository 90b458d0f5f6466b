import InlineRemote.Shell.Builtin.Options

/-! # Commands for directories

A shell is in a directory, and knows the path that led there.  Going up from a path takes away its
last name, whatever links there are.  The extended dialect keeps a stack of directories. -/
namespace InlineRemote.Shell

namespace Builtin

/-- The names of a path after the steps of another one: a dot stays, two dots go up. -/
def steps (names : List String) (path : String) : List String :=
  (FileTree.names path).foldl (fun names name =>
    if name = "" ∨ name = "." then names
    else if name = ".." then names.dropLast else names ++ [name]) names

def reached (directory path : String) : String :=
  let start (t : String) : String :=
    match t.toList with
    | '/' :: '/' :: '/' :: _ => "/"
    | '/' :: '/' :: _ => "//"
    | _ => "/"
  let whole := if path.toList.head? = some '/' then path else directory
  let first := steps [] whole
  start whole ++ "/".intercalate (if whole = path then first else steps first path)

/-- Where the shell goes for a word, and whether it says so. -/
def destination (word : String) : Act (String × Bool) := do
  let s ← get
  let direct := match word.toList with
    | '/' :: _ | ['.'] | ['.', '.'] | '.' :: '/' :: _ | '.' :: '.' :: '/' :: _ => true
    | _ => false
  match s.value? "CDPATH" with
  | none => return (word, false)
  | some searched =>
    if direct || word = "" then return (word, false)
    let there (d : String) : Option (String × Bool) :=
      let path := if d = "" then word else d ++ "/" ++ word
      match s.find path with
      | .ok (_, _, node) => if node.matter = .directory then some (path, d ≠ "") else none
      | .error _ => none
    return ((Host.directories searched).findSome? there).getD (word, false)

/-- Goes to a directory; the fault is why that is not possible. -/
def enter (name : String) (physical : Bool) (path : String) : Act (Option Fault) := do
  let s ← get
  let logical := reached s.path path
  let target :=
    if physical then path else if s.extended && (s.find path).toOption.isNone then path else logical
  match s.find target with
  | .error fault => return some fault
  | .ok (place, _, node) =>
    if node.matter ≠ .directory then return some .notDirectory
    let new := if physical then pathOf place else logical
    let old := if s.extended then (s.value? "PWD").getD s.path else s.path
    modify ({ · with directory := place, path := new })
    let mut fine := true
    for (x, v) in [("OLDPWD", old), ("PWD", new)] do
      if (s.binding? x).any Variable.fixed && !s.extended then wrong name (x ++ ": is read only") 2
      if ← Act.store Act.calculate x none false v then
        modify fun s => s.put x ((s.binding? x).map ({ · with exported := true }))
      else fine := false
    if !fine then throw (.fault 1)
    return none

/-- Goes to another directory. -/
def cd (ws : List String) : Act Nat := do
  let s ← get
  let (os, ws) ← options "cd" (if s.extended then "LPe@" else "LP") ws
  let physical := ((os.filter fun o => o.letter = 'L' || o.letter = 'P').getLast?).any
    (·.letter = 'P') || s.has 'P'
  if s.extended ∧ 1 < ws.length then wrong "cd" "too many arguments" 1
  let (word, back) ← match ws with
    | [] =>
      match s.value? "HOME" with
      | some home => pure (home, false)
      | none => if s.extended then wrong "cd" "HOME not set" 1 else pure ("", false)
    | "-" :: _ =>
      match s.value? "OLDPWD" with
      | some old => pure (old, true)
      | none => if s.extended then wrong "cd" "OLDPWD not set" 1 else pure ("", true)
    | w :: _ => pure (w, false)
  let (path, found) ← if back then pure (word, true) else destination word
  match ← enter "cd" physical (if path = "" then "." else path) with
  | none =>
    if found then Act.print ((← get).path ++ "\n")
    return 0
  | some fault =>
    if s.extended then wrong "cd" (word ++ ": " ++ Fault.words fault) 1
    else wrong "cd" ("can't cd to " ++ word) 2

def pwd (ws : List String) : Act Nat := do
  let s ← get
  let (os, _) ← options "pwd" "LP" ws
  let physical := (os.getLast?.any (·.letter = 'P')) || (s.has 'P' && os = [])
  print "pwd" ((if physical then pathOf s.directory else s.path) ++ "\n") 0

def shortened (s : Session) (path : String) : String :=
  match s.value? "HOME" with
  | none => path
  | some home =>
    let (p, h) := (path.toList, home.toList)
    if h ≠ [] ∧ h.isPrefixOf p ∧ (p.length = h.length ∨ p[h.length]? = some '/') then
      String.ofList ('~' :: p.drop h.length)
    else path

def stackIndex? (size : Nat) (w : String) : Option (Option Nat) :=
  match w.toList with
  | '+' :: r => (count? (String.ofList r)).map fun n => if n < size then some n else none
  | '-' :: r => (count? (String.ofList r)).map fun n => if n < size then some (size - 1 - n) else none
  | _ => none

/-- Shows the stack of directories. -/
def dirs (ws : List String) : Act Nat := do
  let s ← get
  let all := s.path :: s.stack
  let letters := (ws.filter fun w => w.startsWith "-" && (stackIndex? 0 w).isNone).flatMap
    (·.toList.drop 1)
  if letters.any fun c => !(['c', 'l', 'p', 'v'].contains c) then
    wrong "dirs" ((ws.headD "") ++ ": invalid option") 2
  if letters.contains 'c' then
    modify ({ · with stack := [] })
    return 0
  let shown (path : String) : String := if letters.contains 'l' then path else shortened s path
  match ws.findSome? (stackIndex? all.length) with
  | some none =>
    if s.stack = [] then wrong "dirs" "directory stack empty" 1
    else wrong "dirs" "directory stack index out of range" 1
  | some (some i) => Act.print (shown (all[i]?.getD "") ++ "\n")
  | none =>
    if letters.contains 'v' then
      Act.print ("".intercalate (all.zipIdx.map fun (p, n) =>
        Utility.atRight 2 (toString n) ++ "  " ++ shown p ++ "\n"))
    else if letters.contains 'p' then
      Act.print ("".intercalate (all.map fun p => shown p ++ "\n"))
    else Act.print (" ".intercalate (all.map shown) ++ "\n")
  return 0

def goTo (name path : String) : Act Unit := do
  match ← enter name false path with
  | none => return
  | some fault => wrong name (path ++ ": " ++ Fault.words fault) 1

/-- Puts a directory on the stack, or turns the stack around. -/
def pushd (ws : List String) : Act Nat := do
  let s ← get
  let all := s.path :: s.stack
  let stays := ws.contains "-n"
  let ws := ws.filter fun w => w ≠ "-n" ∧ w ≠ "--"
  let turn (i : Nat) : Act Nat := do
    let turned := all.drop i ++ all.take i
    if !stays then goTo "pushd" (turned.headD "")
    modify ({ · with stack := turned.drop 1 })
    dirs []
  match ws with
  | [] =>
    match s.stack with
    | [] => wrong "pushd" "no other directory" 1
    | top :: rest =>
      if !stays then goTo "pushd" top
      modify ({ · with stack := s.path :: rest })
      dirs []
  | w :: _ =>
    match stackIndex? all.length w with
    | some (some i) => turn i
    | some none =>
      if s.stack = [] then wrong "pushd" "directory stack empty" 1
      else wrong "pushd" (w ++ ": directory stack index out of range") 1
    | none =>
      if stays then modify ({ · with stack := w :: s.stack })
      else
        goTo "pushd" w
        modify ({ · with stack := s.path :: s.stack })
      dirs []

def popd (ws : List String) : Act Nat := do
  let s ← get
  let stays := ws.contains "-n"
  let ws := ws.filter fun w => w ≠ "-n" ∧ w ≠ "--"
  let index ← match ws.head? with
    | none => pure (if stays then 1 else 0)
    | some w =>
      match stackIndex? (s.stack.length + 1) w with
      | some (some i) => pure i
      | some none =>
        if s.stack = [] then wrong "popd" "directory stack empty" 1
        else wrong "popd" (w ++ ": directory stack index out of range") 1
      | none => wrong "popd" (w ++ ": invalid argument") 2
  match s.stack with
  | [] => wrong "popd" "directory stack empty" 1
  | top :: rest =>
    if index = 0 then
      if !stays then goTo "popd" top
      modify ({ · with stack := rest })
    else modify ({ · with stack := s.stack.eraseIdx (index - 1) })
    dirs []

end Builtin

end InlineRemote.Shell
