import InlineRemote.Shell.Calculation
import InlineRemote.Shell.Expansion
import InlineRemote.Shell.Utility.Call

/-! # Options of a shell

Options are letters or long names.  The shell's own commands read the options among their words in
the same way, and say in the same words what is wrong with them. -/
namespace InlineRemote.Shell

namespace Builtin

def wrong {α : Type} (name text : String) (status : Nat) : Act α :=
  Act.fail (name ++ ": " ++ text) status

def complain (name text : String) : Act Unit :=
  Act.report (name ++ ": " ++ text)

def options (name letters : String) (ws : List String) : Act (List Given × List String) := do
  match ({ letters, mixed := false } : Grammar).read ws with
  | .ok found => return found
  | .error e =>
    let bad := String.ofList ((e.toList.reverse.drop 1).takeWhile (· ≠ '\'')).reverse
    if (← get).extended then
      if e.startsWith "option requires" then
        wrong name ("-" ++ bad ++ ": option requires an argument") 2
      else wrong name ((if e.startsWith "unrec" then "--" else "-" ++ bad) ++ ": invalid option") 2
    else if e.startsWith "option requires" then wrong name ("No arg for -" ++ bad ++ " option") 2
    else wrong name ("Illegal option -" ++ if e.startsWith "unrec" then "-" else bad) 2

/-- The number that a word stands for; anything else is a mistake, and so is a number out of
range. -/
def demandCount (name w : String) : Act Nat := do
  match number? true w with
  | some n => if 0 ≤ n ∧ n ≤ 2147483647 then return n.toNat else refuse
  | none => refuse
where
  /-- Says that a word is no number. -/
  refuse : Act Nat := do
    if (← get).extended then wrong name (w ++ ": numeric argument required") 2
    else wrong name ("Illegal number: " ++ w) 2

def print (name text : String) (status : Nat) : Act Nat := do
  if ← Act.writeTo 1 text then return status
  let s ← get
  if s.extended then
    let reason := if (s.stream? 1).isSome then "No space left on device" else "Bad file descriptor"
    complain name ("write error: " ++ reason)
  else complain name "I/O error"
  return 1

def known (s : Session) : List (Char × String) :=
  if s.extended then optionNamesThere else optionNames

def namesOnly (s : Session) : List String :=
  if s.extended then ["emacs", "history", "ignoreeof", "interactive-comments", "nolog", "pipefail",
    "posix", "vi"]
  else ["nolog", "debug"]

def turn (on : Bool) (c : Char) : Act Unit := do
  if ((known (← get)).lookup c).isNone then
    let sign := if on then "-" else "+"
    if (← get).extended then wrong "set" (sign ++ String.singleton c ++ ": invalid option") 2
    else wrong "set" ("Illegal option " ++ sign ++ String.singleton c) 2
  modify fun s =>
    let others := s.options.filter (· ≠ c)
    { s with options := if on then others ++ [c] else others }

def turnFeature (on : Bool) (name : String) : Act Unit :=
  modify fun s =>
    let others := s.features.filter (· ≠ name)
    { s with features := if on then name :: others else others }

def turnNamed (on : Bool) (name : String) : Act Unit := do
  let s ← get
  match (known s).find? (·.2 = name) with
  | some (c, _) => turn on c
  | none =>
    if (namesOnly s).contains name then turnFeature on name
    else if s.extended then wrong "set" (name ++ ": invalid option name") 2
    else wrong "set" ("Illegal option " ++ (if on then "-" else "+") ++ "o " ++ name) 2

def allOptions (s : Session) : List (String × Bool) :=
  let all := (known s).map Prod.snd ++ namesOnly s
  let all := if s.extended then all.mergeSort (· ≤ ·) else all
  all.map fun name =>
    (name, s.feature? name || ((known s).find? (·.2 = name)).any fun (c, _) => s.has c)

def showOptions (asCommands : Bool) : Act Unit := do
  let s ← get
  let row (e : String × Bool) : String :=
    let (name, on) := e
    if asCommands then "set " ++ (if on then "-o " else "+o ") ++ name ++ "\n"
    else
      let width := if s.extended then 15 else 16
      let fill := String.ofList (List.replicate (width - name.length) ' ')
      name ++ fill ++ (if s.extended then "\t" else "") ++ (if on then "on" else "off") ++ "\n"
  let title := if asCommands || s.extended then "" else "Current option settings\n"
  Act.print (title ++ "".intercalate ((allOptions s).map row))

/-- Turns the options of one word on or off; the answer is whether a long name follows. -/
def turnAll (on : Bool) : List Char → Act Bool
  | [] => return false
  | c :: cs => do
    if c = 'o' then
      let _ ← turnAll on cs
      return true
    turn on c
    turnAll on cs

/-- Reads the options at the front of some words; the answer is the arguments, if any are given. -/
def readOptions : List String → Act (Option (List String))
  | [] => return none
  | [w] => do
    match w.toList with
    | ['-'] => return none
    | ['-', '-'] => return some []
    | '-' :: cs => last true cs
    | '+' :: cs => last false cs
    | _ => return some [w]
  | w :: name :: ws => do
    let turned (on : Bool) (cs : List Char) : Act (Option (List String)) := do
      if ← turnAll on cs then
        turnNamed on name
        readOptions ws
      else readOptions (name :: ws)
    match w.toList with
    | ['-'] => return some (name :: ws)
    | ['-', '-'] => return some (name :: ws)
    | '-' :: cs => turned true cs
    | '+' :: cs => turned false cs
    | _ => return some (w :: name :: ws)
where
  /-- Reads the options of the last word. -/
  last (on : Bool) (cs : List Char) : Act (Option (List String)) := do
    if ← turnAll on cs then showOptions (!on)
    return none

def listed (extended : Bool) (v : Value) : String :=
  match v with
  | .text t => if extended then Quoting.listed t else Quoting.plain t
  | .row items =>
    "(" ++ " ".intercalate (items.map fun (n, t) =>
      "[" ++ toString n ++ "]=" ++ Quoting.double t) ++ ")"
  | .table items =>
    "(" ++ "".intercalate (items.map fun (k, t) => "[" ++ k ++ "]=" ++ Quoting.double t ++ " ") ++ ")"

def showVariables : Act Unit := do
  let s ← get
  let there := s.bindings.filterMap fun (x, v) => v.value.map (x, ·)
  let rows := (there.mergeSort fun a b => a.1 ≤ b.1).map fun (x, v) =>
    x ++ "=" ++ listed s.extended v ++ "\n"
  Act.print ("".intercalate rows)

def set (ws : List String) : Act Nat := do
  if ws = [] then
    showVariables
    return 0
  match ← readOptions ws with
  | none => return 0
  | some arguments => modify ({ · with arguments }); return 0

def featureNames : List String :=
  ["autocd", "assoc_expand_once", "cdable_vars", "cdspell", "checkhash", "checkjobs",
    "checkwinsize", "cmdhist", "compat31", "compat32", "compat40", "compat41", "compat42",
    "compat43", "compat44", "complete_fullquote", "direxpand", "dirspell", "dotglob", "execfail",
    "expand_aliases", "extdebug", "extglob", "extquote", "failglob", "force_fignore",
    "globasciiranges", "globskipdots", "globstar", "gnu_errfmt", "histappend", "histreedit",
    "histverify", "hostcomplete", "huponexit", "inherit_errexit", "interactive_comments",
    "lastpipe", "lithist", "localvar_inherit", "localvar_unset", "login_shell", "mailwarn",
    "no_empty_cmd_completion", "nocaseglob", "nocasematch", "noexpand_translation", "nullglob",
    "patsub_replacement", "progcomp", "progcomp_alias", "promptvars", "restricted_shell",
    "shift_verbose", "sourcepath", "varredir_close", "xpg_echo"]

/-- Turns features on or off, or shows them. -/
def features (ws : List String) : Act Nat := do
  let (os, names) ← options "shopt" "supqo" ws
  let s ← get
  let long := hasOption os 'o'
  let isOn (name : String) : Bool := if long then s.isOn name else s.feature? name
  let valid (name : String) : Bool :=
    if long then (allOptions s).any (·.1 = name) else featureNames.contains name
  let row (name : String) : String :=
    if hasOption os 'p' then
      (if long then "set " ++ (if isOn name then "-o " else "+o ")
        else "shopt " ++ (if isOn name then "-s " else "-u ")) ++ name ++ "\n"
    else
      let fill := String.ofList (List.replicate (15 - name.length) ' ')
      name ++ fill ++ "\t" ++ (if isOn name then "on" else "off") ++ "\n"
  let turns : Bool := hasOption os 's' || hasOption os 'u'
  let mut status := 0
  let all := if long then (allOptions s).map Prod.fst else featureNames
  let wanted :=
    if names ≠ [] then names
    else if turns then all.filter fun n => isOn n == hasOption os 's' else all
  for name in wanted do
    if !valid name then
      complain "shopt" (name ++ ": invalid shell option name")
      status := 1
    else if turns && names ≠ [] then
      if long then turnNamed (hasOption os 's') name else turnFeature (hasOption os 's') name
    else
      if names ≠ [] && !isOn name then status := 1
      if !hasOption os 'q' then Act.print (row name)
  return status

end Builtin

end InlineRemote.Shell
