import InlineRemote.Shell.Builtin.Options
import InlineRemote.Shell.Search

/-! # Commands for the names of commands

A word in front of a command is an alias, a reserved word, a function, a command of the shell, or the
name of a program; it counts as the first of these that it is. -/
namespace InlineRemote.Shell

namespace Builtin

def plainNames : List String :=
  ["[", "alias", "bg", "cd", "chdir", "command", "echo", "false", "fg", "getopts", "hash", "jobs",
    "kill", "printf", "pwd", "read", "test", "true", "type", "ulimit", "umask", "unalias", "wait"]

def namesThere : List String :=
  ["bind", "builtin", "caller", "compgen", "complete", "compopt", "declare", "dirs", "disown",
    "enable", "fc", "help", "history", "let", "logout", "mapfile", "popd", "pushd", "readarray",
    "shopt", "source", "suspend", "typeset"]

def isBuiltin (extended : Bool) (w : String) : Bool :=
  specialBuiltins.contains w || (plainNames.contains w && !(extended && w = "chdir")) ||
    (extended && namesThere.contains w)

def isReserved (extended : Bool) (w : String) : Bool :=
  Reading.reserved.contains w || (extended && Reading.reservedThere.contains w)

/-- What a word stands for as a command. -/
inductive Meaning where
  | keyword
  | abbreviation (text : String)
  | function
  | builtin (special : Bool)
  /-- A program, and whether the shell has looked for it before. -/
  | program (path : String) (known : Bool)
  deriving DecidableEq, Repr

/-- What a word stands for as a command, first to last. -/
def meanings (s : Session) (w : String) : List Meaning :=
  let aliased : List Meaning :=
    if s.extended && !s.feature? "expand_aliases" then []
    else (s.aliases.lookup w).toList.map .abbreviation
  let reserved : List Meaning := if isReserved s.extended w then [.keyword] else []
  let function : List Meaning := if (s.functions.lookup w).isSome then [.function] else []
  let builtin : List Meaning :=
    if isBuiltin s.extended w then [.builtin (!s.extended && specialBuiltins.contains w)] else []
  let program : List Meaning :=
    if w.toList.contains '/' then
      let fine := if s.extended then s.fileAt? w = some true else (s.find w).toOption.isSome
      if fine then [.program w false] else []
    else (s.locate? w).toList.map fun path => .program path (s.known.lookup w).isSome
  (if s.extended then aliased ++ reserved else reserved ++ aliased) ++ function ++ builtin ++ program

def Meaning.sentence (extended : Bool) (w : String) : Meaning → String
  | keyword => w ++ " is a shell keyword"
  | abbreviation text =>
    if extended then w ++ " is aliased to \x60" ++ text ++ "'" else w ++ " is an alias for " ++ text
  | function => w ++ if extended then " is a function" else " is a shell function"
  | builtin special => w ++ if special then " is a special shell builtin" else " is a shell builtin"
  | program path known =>
    if !known then w ++ " is " ++ path
    else if extended then w ++ " is hashed (" ++ path ++ ")"
    else w ++ " is a tracked alias for " ++ path

def Meaning.kind : Meaning → String
  | keyword => "keyword"
  | abbreviation _ => "alias"
  | function => "function"
  | builtin _ => "builtin"
  | program .. => "file"

def aliasText (s : Session) (name text : String) : String :=
  let quoted := if s.extended then Quoting.single text else Quoting.plain text
  name ++ "=" ++ quoted

/-- Shows what words stand for, in one of the forms that the options ask for. -/
def typeThere (ws : List String) : Act Nat := do
  let (os, names) ← options "type" "afptP" ws
  let s ← get
  let mut status := 0
  for w in names do
    let all := meanings s w
    let all := if hasOption os 'f' then all.filter (· ≠ .function) else all
    let all :=
      if hasOption os 'P' then
        ((meanings { s with functions := [], aliases := [] } w).filter fun m => m.kind = "file")
      else all
    let all := if hasOption os 'a' then all else all.take 1
    if all = [] then
      if !(hasOption os 't' || hasOption os 'p' || hasOption os 'P') then
        complain "type" (w ++ ": not found")
      status := 1
    for m in all do
      if hasOption os 't' then Act.print (m.kind ++ "\n")
      else if hasOption os 'p' || hasOption os 'P' then
        match m with
        | .program path _ => Act.print (path ++ "\n")
        | _ => pure ()
      else Act.print (m.sentence true w ++ "\n")
  return status

/-- The first thing that a word stands for as a command.  A program that was looked for stays known. -/
def meaning? (w : String) : Act (Option Meaning) := do
  let s ← get
  let first? := (meanings s w).head?
  match first? with
  | some (.program path false) =>
    if !s.extended && !w.toList.contains '/' then
      modify fun s => { s with known := withKey s.known w (some path) }
  | _ => pure ()
  return first?

def type (ws : List String) : Act Nat := do
  let s ← get
  if s.extended then return ← typeThere ws
  let mut status := 0
  for w in ws do
    match ← meaning? w with
    | some m => Act.print (m.sentence false w ++ "\n")
    | none =>
      Act.print (w ++ ": not found\n")
      status := 127
  return status

/-- Shows what words stand for as commands, in short or as sentences. -/
def describe (long : Bool) (ws : List String) : Act Nat := do
  let s ← get
  let mut found := 0
  let ws := if s.extended then ws else ws.take 1
  for w in ws do
    match ← meaning? w with
    | some m =>
      found := found + 1
      Act.print ((if long then m.sentence s.extended w
        else match m with
          | .abbreviation text => "alias " ++ aliasText s w text
          | .program path _ => path
          | _ => w) ++ "\n")
    | none =>
      if long then
        if s.extended then complain "command" (w ++ ": not found")
        else Act.print (w ++ ": not found\n")
  if ws = [] then return 0
  return if s.extended then (if 0 < found then 0 else 1) else if found = 0 then 127 else 0

/-- Sets aliases, or shows them. -/
def setAliases (ws : List String) : Act Nat := do
  let s ← get
  let (os, ws) ← if s.extended then options "alias" "p" ws else pure ([], ws)
  let shown (name text : String) : String :=
    (if s.extended then "alias " else "") ++ aliasText s name text ++ "\n"
  if ws = [] ∨ hasOption os 'p' then
    let all := if s.extended then s.aliases.mergeSort fun a b => a.1 ≤ b.1
      else byRow s.aliases.reverse
    Act.print ("".intercalate (all.map fun (x, t) => shown x t))
  let mut status := 0
  for w in ws do
    let name := w.toList.takeWhile (· ≠ '=')
    if name.length < w.length ∧ (name ≠ [] ∨ !s.extended) then
      let bad : Char → Bool :=
        ['/', '$', '\x60', '\'', '"', '\\', ' ', '\t', '\n', '|', '&', ';', '(', ')', '<',
          '>'].contains
      if s.extended ∧ name.any bad then
        complain "alias" ("\x60" ++ String.ofList name ++ "': invalid alias name")
        status := 1
      else
        modify fun s => { s with
          aliases := withKey s.aliases (String.ofList name)
            (some (String.ofList (w.toList.drop (name.length + 1)))) }
    else
      match (← get).aliases.lookup w with
      | some text => Act.print (shown w text)
      | none =>
        if s.extended then complain "alias" (w ++ ": not found")
        else Act.complain ("alias: " ++ w ++ " not found")
        status := 1
  return status

def unalias (ws : List String) : Act Nat := do
  let s ← get
  let (os, names) ← options "unalias" "a" ws
  if hasOption os 'a' then
    modify ({ · with aliases := [] })
    return 0
  if names = [] ∧ s.extended then
    Act.complain "unalias: usage: unalias [-a] name [name ...]"
    return 2
  let mut status := 0
  for w in names do
    if ((← get).aliases.lookup w).isSome then
      modify fun s => { s with aliases := withKey s.aliases w none }
    else
      if s.extended then complain "unalias" (w ++ ": not found")
      else Act.complain ("unalias: " ++ w ++ " not found")
      status := 1
  return status

/-- Shows the programs that were looked for, forgets them, or looks for some. -/
def hash (ws : List String) : Act Nat := do
  let s ← get
  let (os, names) ← options "hash" (if s.extended then "ldrtp:" else "rv") ws
  if hasOption os 'r' then modify ({ · with known := [] })
  if hasOption os 'r' && (names = [] || !s.extended) then return 0
  if names = [] then
    if !s.extended then
      Act.print ("".intercalate (s.known.map fun (_, path) => path ++ "\n"))
    else if s.known = [] then Act.print "hash: hash table empty\n"
    else
      Act.print ("hits\tcommand\n" ++ "".intercalate (s.known.map fun (_, path) =>
        "   1\t" ++ path ++ "\n"))
    return 0
  let mut status := 0
  for w in names do
    let s ← get
    if let some path := argumentOf? os 'p' then
      modify fun s => { s with known := withKey s.known w (some path) }
    else if hasOption os 'd' || hasOption os 't' then
      match s.known.lookup w with
      | some path =>
        if hasOption os 't' then Act.print (path ++ "\n")
        else modify fun s => { s with known := withKey s.known w none }
      | none =>
        complain "hash" (w ++ ": not found")
        status := 1
    else if w.toList.contains '/' then pure ()
    else if (s.functions.lookup w).isSome || isBuiltin s.extended w then pure ()
    else
      match s.searched? s.searchPath w with
      | some path => modify fun s => { s with known := withKey s.known w (some path) }
      | none =>
        complain "hash" (w ++ ": not found")
        status := 1
  return status

end Builtin

end InlineRemote.Shell
