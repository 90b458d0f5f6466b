import InlineRemote.Shell.Starter
import InlineRemote.Shell.Utility.Values
import InlineRemote.Text.Parts

/-! # Running a program for words that are read

What is read is cut into words, and these make groups; the program is run once for each group. -/
namespace InlineRemote.Shell

namespace Launcher

/-- The words of a text, where quotes and backslashes keep characters together; each comes with
whether a line ends after it.  The words end where a quote has no end, which the answer says. -/
def quotedWords : Nat → Option (List Char) → List Char → List (String × Bool) × Bool
  | 0, _, _ => ([], false)
  | n + 1, word, s =>
    let finish (ended : Bool) (r : List Char) : List (String × Bool) × Bool :=
      let (words, whole) := quotedWords n none r
      ((word.map fun w => (String.ofList w.reverse, ended)).toList ++ words, whole)
    let quoted (q : Char) (r : List Char) : List (String × Bool) × Bool :=
      let inside := r.takeWhile fun c => c ≠ q && c ≠ '\n'
      match r.drop inside.length with
      | c :: r =>
        if c = q then quotedWords n (some (inside.reverse ++ word.getD [])) r else ([], false)
      | [] => ([], false)
    match s with
    | [] => ((word.map fun w => (String.ofList w.reverse, true)).toList, true)
    | '\\' :: c :: r => quotedWords n (some (c :: word.getD [])) r
    | '\'' :: r => quoted '\'' r
    | '"' :: r => quoted '"' r
    | '\n' :: r => finish true r
    | c :: r =>
      if c = ' ' || c = '\t' then finish false r
      else quotedWords n (some (c :: word.getD [])) r

def lineGroups (size : Nat) (words : List (String × Bool)) : List (List String) :=
  let close (acc : List (List String) × List String × Nat) (w : String × Bool) :
      List (List String) × List String × Nat :=
    let (done, group, n) := acc
    let group := group ++ [w.1]
    if !w.2 then (done, group, n)
    else if n + 1 = size then (done ++ [group], [], 0) else (done, group, n + 1)
  let (done, rest, _) := words.foldl close ([], [], 0)
  if rest = [] then done else done ++ [rest]

def sizedGroups (limit : Nat) (fixed : Nat) (words : List String) : List (List String) :=
  let close (acc : List (List String) × List String × Nat) (w : String) :
      List (List String) × List String × Nat :=
    let (done, group, size) := acc
    let more := w.utf8ByteSize + 1
    if group ≠ [] ∧ limit < size + more then (done ++ [group], [w], fixed + more)
    else (done, group ++ [w], size + more)
  let (done, rest, _) := words.foldl close ([], [], fixed)
  if rest = [] then done else done ++ [rest]

def runAll (k : Starter) (c : Call) (traced : Bool) : Nat → List (List String) → Act Nat
  | status, [] => return status
  | _, [] :: _ => return 0
  | status, (word :: words) :: rest => do
    if traced then Act.complain (" ".intercalate (word :: words))
    let quiet (s : Session) : Session :=
      let (i, s) := s.openStream .nothing
      s.lead 0 (some i)
    match ← k.start quiet word words with
    | .error fault => c.fail (word ++ ": " ++ Fault.words fault) (Starter.refusal fault)
    | .ok (.signal n) => c.fail (word ++ ": terminated by signal " ++ toString n) 125
    | .ok (.code 255) => c.fail (word ++ ": exited with status 255; aborting") 124
    | .ok (.code n) => runAll k c traced (if n = 0 then status else 123) rest

def replaced (mark value text : String) : String :=
  value.intercalate (text.splitOn mark)

/-- Runs a program with words that are read. -/
def withWords (k : Starter) (c : Call) : Act Nat := do
  let names := [("null", '0', false), ("delimiter", 'd', true), ("max-args", 'n', true),
    ("max-lines", 'L', true), ("replace", 'I', true), ("no-run-if-empty", 'r', false),
    ("verbose", 't', false), ("max-procs", 'P', true), ("arg-file", 'a', true), ("eof", 'E', true),
    ("max-chars", 's', true), ("exit", 'x', false), ("interactive", 'p', false)]
  c.withOptions { letters := "0d:n:L:I:rtP:a:E:s:xpi::l::e::", names, mixed := false } 1
    fun os ws => do
    for o in os do
      if ['n', 'L', 'P', 's'].contains o.letter && (count? o.argument).isNone then
        return ← c.fail ("invalid number \"" ++ o.argument ++ "\" for -" ++
          String.singleton o.letter ++ " option") 1
    let read ← match argumentOf? os 'a' with
      | some file => Act.readPath file
      | none => do pure (.ok (← Act.readAll 0))
    match read with
    | .error fault =>
      c.fail ("Cannot open input file '" ++ (argumentOf? os 'a').getD "" ++ "': " ++
        Fault.words fault) 1
    | .ok text =>
      let mark? := (argumentOf? os 'I').or
        ((argumentOf? os 'i').map fun t => if t = "" then "\x7b\x7d" else t)
      let delimiter? : Option Char :=
        if hasOption os '0' then some '\x00'
        else
          match (argumentOf? os 'd').map String.toList with
          | some ['\\', 'n'] => some '\n'
          | some ['\\', 't'] => some '\t'
          | some ['\\', '0'] => some '\x00'
          | some (d :: _) => some d
          | _ => none
      let (items, whole) : List (String × Bool) × Bool :=
        match delimiter?, mark? with
        | some d, _ =>
          let parts := text.splitOn d
          let parts := if parts.getLast? = some [] then parts.dropLast else parts
          (parts.map fun p => (String.ofList p, true), true)
        | none, some _ =>
          let ls := (Utility.lines text).map fun l => l.dropWhile fun c => c = ' ' || c = '\t'
          ((ls.filter (· ≠ [])).map fun l => (String.ofList l, true), true)
        | none, none => quotedWords (text.length + 2) none text
      let items := match argumentOf? os 'E' with
        | some stop => items.takeWhile fun i => i.1 ≠ stop
        | none => items
      let command := if ws = [] then ["echo"] else ws
      let given := items.map Prod.fst
      let fixed := (command.map fun w => w.utf8ByteSize + 1).foldl (· + ·) 0
      let bySize (limit : Nat) (words : List String) : List (List String) :=
        if words = [] then [[]] else sizedGroups limit fixed words
      let limit := ((argumentOf? os 's').bind count?).getD 131072
      let calls : List (List String) :=
        match mark?, (argumentOf? os 'n').bind count?, (argumentOf? os 'L').bind count? with
        | some mark, _, _ =>
          given.map fun v => (command.take 1) ++ (command.drop 1).map (replaced mark v)
        | none, some n, _ => ((Text.parts n given).flatMap (bySize limit)).map (command ++ ·)
        | none, none, some n => (lineGroups (max n 1) items).map (command ++ ·)
        | none, none, none => (bySize limit given).map (command ++ ·)
      let calls :=
        if given ≠ [] then calls
        else if hasOption os 'r' || mark?.isSome || !whole then [] else [command]
      let status ← runAll k c (hasOption os 't') 0 calls
      if whole then return status
      c.fail "unmatched quote; by default quotes are special to xargs" 1

end Launcher

end InlineRemote.Shell
