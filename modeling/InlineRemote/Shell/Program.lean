import InlineRemote.Shell.Launcher
import InlineRemote.Shell.Utility

/-! # Running programs

A file is run as the program that it is, or as a script by the program that its first line names, or
else by a shell.  A shell reads its options, and then runs a command, a file or what it reads. -/
namespace InlineRemote.Shell

/-- How a shell is started, as far as its words are read. -/
structure Startup where
  /-- Whether a command is given among the words. -/
  given : Bool := false
  /-- Whether the commands are read from the first stream. -/
  reads : Bool := false
  options : List Char := []
  features : List String := []
  words : List String := []

namespace Startup

def turn (k : Startup) (on : Bool) (c : Char) : Startup :=
  let others := k.options.filter (· ≠ c)
  { k with options := if on then others ++ [c] else others }

/-- Turns an option with a long name on or off; `none` if there is no such option. -/
def turnNamed (extended on : Bool) (k : Startup) (name : String) : Option Startup :=
  let known := if extended then optionNamesThere else optionNames
  match known.find? (·.2 = name) with
  | some (c, _) => some (k.turn on c)
  | none =>
    let others := if extended then ["emacs", "history", "ignoreeof", "interactive-comments", "nolog",
      "pipefail", "posix", "vi"] else ["nolog", "debug"]
    if !others.contains name then none
    else
      let features := k.features.filter (· ≠ name)
      some { k with features := if on then name :: features else features }

/-- Reads the letters of a word; the names that letters need come from the words after it.  The answer
has the words that are left, or `none` if a letter or a name is unknown. -/
def letters (extended on : Bool) : List Char → Startup → List String → Option (Startup × List String)
  | [], k, ws => some (k, ws)
  | c :: cs, k, ws =>
    let known := if extended then optionNamesThere else optionNames
    if c = 'c' then letters extended on cs { k with given := true } ws
    else if c = 's' then letters extended on cs { k.turn on 's' with reads := on } ws
    else if c = 'l' || (extended && ['i', 'r', 'D'].contains c) then letters extended on cs k ws
    else if c = 'o' then
      match ws with
      | [] => letters extended on cs k []
      | name :: ws =>
        match turnNamed extended on k name with
        | some k => letters extended on cs k ws
        | none => none
    else if extended && c = 'O' then
      match ws with
      | [] => letters extended on cs k []
      | name :: ws =>
        if !Builtin.featureNames.contains name then none
        else
          let others := k.features.filter (· ≠ name)
          letters extended on cs
            { k with features := if on then name :: others else others } ws
    else if (known.lookup c).isSome then letters extended on cs (k.turn on c) ws
    else none

/-- The long options of a shell of the extended dialect, and whether a word goes with each. -/
def longOptions : List (String × Bool) :=
  [("--debugger", false), ("--dump-po-strings", false), ("--dump-strings", false),
    ("--init-file", true), ("--login", false), ("--noediting", false), ("--noprofile", false),
    ("--norc", false), ("--posix", false), ("--pretty-print", false), ("--rcfile", true),
    ("--restricted", false), ("--verbose", false)]

/-- Reads at most so many words that a shell is started with; `none` if there is an option that it does
not know. -/
def read (extended : Bool) : Nat → Startup → List String → Option Startup
  | 0, k, ws => some { k with words := ws }
  | _, k, [] => some k
  | n + 1, k, w :: ws =>
    match w.toList with
    | ['-'] | ['-', '-'] => some { k with words := ws }
    | '-' :: '-' :: _ =>
      if !extended then none
      else
        match longOptions.lookup w with
        | some false => read extended n k ws
        | some true => read extended n k (ws.drop 1)
        | none => none
    | '-' :: cs => (letters extended true cs k ws).bind fun (k, ws) => read extended n k ws
    | '+' :: cs => (letters extended false cs k ws).bind fun (k, ws) => read extended n k ws
    | _ => some { k with words := w :: ws }

end Startup

namespace Session

def ownBindings (s : Session) (extended : Bool) (name : String) : List (String × Variable) :=
  let text (x v : String) : String × Variable := (x, { value := some (.text v) })
  let both := [text "IFS" " \t\n", text "OPTIND" "1", text "PPID" (toString s.parent), text "PS4" "+ "]
  if !extended then both ++ [text "PS1" "# ", text "PS2" "> "]
  else
    let level := (((s.value? "SHLVL").bind String.toNat?).getD 0) + 1
    let version := ["5", "2", "21", "1", "release", "x86_64-pc-linux-gnu"]
    let fixed (e : String × Variable) : String × Variable := (e.1, { e.2 with fixed := true })
    let number (e : String × Variable) : String × Variable :=
      (e.1, { e.2 with fixed := true, integer := true })
    both.filter (·.1 ≠ "PPID") ++
      [number (text "PPID" (toString s.parent)), number (text "UID" "0"), number (text "EUID" "0"),
        text "BASH" name, text "BASH_VERSION" "5.2.21(1)-release", text "HOSTNAME" "localhost",
        text "HOSTTYPE" "x86_64", text "MACHTYPE" "x86_64-pc-linux-gnu", text "OSTYPE" "linux-gnu",
        text "OPTERR" "1", text "TERM" "dumb", text "_" name,
        fixed ("BASH_VERSINFO", { value := some (.row (version.zipIdx.map fun (v, n) => (n, v))) }),
        ("GROUPS", { value := some (.row [(0, "0")]) }),
        ("SHLVL", { value := some (.text (toString level)), exported := true }),
        ("OLDPWD", { exported := true })]

/-- What a shell starts with as a process that is there already. -/
def asShell (s : Session) (extended : Bool) (name : String) : Session :=
  let own := s.ownBindings extended name
  let path := match s.value? "PWD" with
    | some p =>
      match p.toList.head?, s.find p with
      | some '/', .ok (place, _, _) => if place = s.directory then p else pathOf s.directory
      | _, _ => pathOf s.directory
    | none => pathOf s.directory
  let usual := "/usr/local/sbin:/usr/local/bin:/usr/sbin:/usr/bin:/sbin:/bin"
  let searched : List (String × Variable) :=
    if (s.value? "PATH").isSome then [] else [("PATH", { value := some (.text usual) })]
  let always := ["IFS", "PPID", "OPTIND", "SHLVL", "UID", "EUID", "BASH", "BASH_VERSION",
    "BASH_VERSINFO", "GROUPS", "PWD", "_"]
  let given := s.exports.filter fun (x, _) => isName x.toList && !always.contains x
  let kept := own.filter fun (x, _) => (given.lookup x).isNone
  { toWorld := s.toWorld
    host := s.host
    extended, name, path
    directory := s.directory
    bindings := ("PWD", { value := some (.text path), exported := true }) ::
      given.map (fun (x, v) => (x, { value := some (.text v), exported := true })) ++ searched ++ kept
    ignored := s.deaf
    descriptors := s.descriptors
    kept := s.kept
    process := s.current
    current := s.current
    parent := s.parent
    above := s.above
    alarms := s.alarms
    mask := s.mask
    limits := s.limits
    courtesy := s.courtesy
    features := if extended then ["checkwinsize", "cmdhist", "complete_fullquote", "extquote",
      "force_fignore", "globasciiranges", "globskipdots", "hostcomplete", "interactive_comments",
      "patsub_replacement", "progcomp", "promptvars", "sourcepath", "interactive-comments"] else []
    options := if extended then ['h', 'B'] else []
    born := s.time }

end Session

namespace Worker

def runScript (w : Worker) (endsThere : Bool) (text : String) : Act Unit := do
  let run (last : Bool) (c : Command) : Act Unit := do
    let s ← get
    if endsThere && s.extended && last then w.runLast false false c else w.run false c
  let _ ← runText run text

/-- Runs the commands that are read from the first stream, each before the next is read. -/
def runInput (w : Worker) : Nat → Act Unit
  | 0 => return
  | n + 1 => do
    match ← Act.left? 0 with
    | none => return
    | some text =>
      let s ← get
      let source := Source.ofText text 1
      match nextLine { source with
          extended := s.extended, groups := s.style.groups
          aliases := if s.feature? "expand_aliases" then s.aliases else [] } with
      | .ended => Act.skip 0 text.length
      | .mistaken m => Act.fail "Syntax error" (if m = .plain then 2 else 127)
      | .command c rest =>
        Act.skip 0 (text.length - rest.rest.length)
        tryCatch (w.run false c) fun e => if e = .discard then pure () else throw e
        runInput w n

/-- The text of a script in a file, or the status for one that cannot be read. -/
def scriptIn (file : String) : Act (Except Nat String) := do
  let s ← get
  let found :=
    if s.extended && !file.toList.contains '/' && (s.find file).toOption.isNone then
      (s.searched? s.searchPath file).getD file
    else file
  match ← Act.readPath found with
  | .ok text => return .ok (String.ofList text)
  | .error .isDirectory =>
    if !s.extended then return .ok ""
    Act.complain (s.name ++ ": " ++ file ++ ": Is a directory")
    return .error 126
  | .error fault =>
    Act.complain (s.name ++ ": " ++ file ++ ": " ++ Fault.words fault)
    return .error (if !s.extended then 2 else if fault = .notFound then 127 else 126)

/-- Becomes a shell that is started with some words. -/
def becomeShell (w : Worker) (extended : Bool) (called : String) (words : List String) :
    Act Nat := do
  if extended && words.head? = some "--version" then
    Act.print "GNU bash, version 5.2.21(1)-release (x86_64-pc-linux-gnu)\n"
    return 0
  if extended && words.head? = some "--help" then
    Act.print ("Usage:\t" ++ called ++ " [option] ...\n")
    return 0
  modify fun s => s.asShell extended called
  match Startup.read extended (words.length + 1) {} words with
  | none =>
    Act.complain (called ++ ": invalid option")
    return 2
  | some k =>
    let letters := if k.given && extended then ['c'] else []
    modify fun s => { s with
      options := s.options ++ k.options ++ letters, features := k.features ++ s.features }
    let exit ←
      match k.given, k.words with
      | true, [] => do
        Act.complain (called ++ ": -c requires an argument")
        return 2
      | true, text :: rest => do
        modify fun s => { s with name := rest.head?.getD s.name, arguments := rest.drop 1 }
        w.asShell (w.runScript true text)
      | false, words => do
        if k.reads || words = [] then
          modify fun s => { s with
            arguments := words, options := if s.has 's' then s.options else s.options ++ ['s'] }
          if extended then w.asShell (w.runInput 100000)
          else
            let text ← Act.readAll 0
            w.asShell (w.runScript false (String.ofList text))
        else
          let file := words.headD ""
          modify fun s => { s with arguments := words.drop 1 }
          match ← scriptIn file with
          | .error status => return status
          | .ok text =>
            modify ({ · with name := file })
            w.asShell (w.runScript false text)
    Act.endAs exit

def interpreter? (text : String) : Option (List String) :=
  match text.toList with
  | '#' :: '!' :: s =>
    let line := s.takeWhile (· ≠ '\n')
    let isBlank (c : Char) : Bool := c = ' ' || c = '\t'
    let line := line.dropWhile isBlank
    let path := line.takeWhile (!isBlank ·)
    let rest := (((line.drop path.length).dropWhile isBlank).reverse.dropWhile isBlank).reverse
    if path = [] then none
    else some (String.ofList path :: if rest = [] then [] else [String.ofList rest])
  | _ => none

/-- Becomes what a path leads to; the answer may be why that cannot be run.  Scripts may name other
scripts, and programs become others, so many times.  A script that names no program is left to a shell
of a dialect. -/
def execute (w : Worker) (extended : Bool) : Nat → String → String → List String →
    Act (Except Fault Nat)
  | 0, _, _, _ => return .error .tooManyLinks
  | n + 1, path, called, words => do
    let k : Starter := { become := fun word words => do
      match (← get).program? word with
      | none => return .error .notFound
      | some path => execute w false n path word words }
    match (← get).runnable path with
    | .error fault => return .error fault
    | .ok (.program name) =>
      if name = "bash" ∨ name = "dash" then
        return .ok (← w.becomeShell (name = "bash") called words)
      let c : Call := ⟨name, called, words⟩
      if Utility.asksForHelp c then return .ok (← Utility.run c)
      match Launcher.run? k name with
      | some act => return .ok (← act c)
      | none => return .ok (← Utility.run c)
    | .ok (.script text) =>
      match interpreter? text with
      | some (program :: more) => execute w false n program program (more ++ path :: words)
      | _ =>
        if (text.toList.takeWhile (· ≠ '\n')).contains '\x00' then return .error .notRunnable
        modify fun s => { s.asShell extended path with arguments := words }
        let exit ← w.asShell (w.runScript false text)
        return .ok (← Act.endAs exit)

end Worker

end InlineRemote.Shell
