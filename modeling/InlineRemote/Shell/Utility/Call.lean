import InlineRemote.Shell.Arithmetic
import InlineRemote.Shell.Opening

/-! # Calls of programs

A program is called with words.  Its options are letters after a dash, or names after two dashes,
and may have arguments; the other words are its operands. -/
namespace InlineRemote.Shell

/-- A call of a program: its name, the word that it was called by, and the words after that. -/
structure Call where
  name : String
  called : String
  words : List String
  deriving Repr

/-- An option with its argument, if it has one. -/
structure Given where
  letter : Char
  argument : String := ""
  deriving DecidableEq, Repr

/-- Whether an option has an argument. -/
inductive Need where
  | none
  | always
  /-- Only if it is joined to the letter. -/
  | joined
  deriving DecidableEq, Repr

/-- How the options of a program are written. -/
structure Grammar where
  /-- The letters; a colon follows one that has an argument, two one that may have it joined. -/
  letters : String
  /-- The names, each with the letter that it stands for and whether it has an argument. -/
  names : List (String × Char × Bool) := []
  /-- Whether options may stand after operands. -/
  mixed : Bool := true

namespace Grammar

def need? (g : Grammar) (c : Char) : Option Need :=
  let rec go : List Char → Option Need
    | [] => none
    | d :: s =>
      if d = c && c ≠ ':' then
        match s with
        | ':' :: ':' :: _ => some .joined
        | ':' :: _ => some .always
        | _ => some .none
      else go s
  go g.letters.toList

def cluster (g : Grammar) : List Char → Except String (List Given × Option Char)
  | [] => .ok ([], none)
  | c :: cs =>
    match g.need? c with
    | none => .error ("invalid option -- '" ++ String.singleton c ++ "'")
    | some .always =>
      if cs = [] then .ok ([], some c) else .ok ([⟨c, String.ofList cs⟩], none)
    | some .joined => .ok ([⟨c, String.ofList cs⟩], none)
    | some .none => (g.cluster cs).map fun (os, need) => (⟨c, ""⟩ :: os, need)

def named (g : Grammar) (name : String) : Except String (Char × Bool) :=
  match g.names.lookup name with
  | some found => .ok found
  | none =>
    match g.names.filter fun e => name.toList.isPrefixOf e.1.toList with
    | [] => .error ("unrecognized option '--" ++ name ++ "'")
    | (_, c, b) :: more =>
      if more.all fun e => e.2.1 = c then .ok (c, b)
      else .error ("option '--" ++ name ++ "' is ambiguous")

/-- The options and the operands among some words, of which there are at most so many. -/
def readWithin (g : Grammar) : Nat → List String → Except String (List Given × List String)
  | 0, ws => .ok ([], ws)
  | _ + 1, [] => .ok ([], [])
  | n + 1, w :: ws => do
    match w.toList with
    | ['-', '-'] => return ([], ws)
    | '-' :: '-' :: s =>
      let name := String.ofList (s.takeWhile (· ≠ '='))
      let value? := (s.dropWhile (· ≠ '=')).tail?.map String.ofList
      let (c, needs) ← g.named name
      match needs, value?, ws with
      | false, none, _ =>
        let (os, r) ← g.readWithin n ws
        return (⟨c, ""⟩ :: os, r)
      | false, some _, _ => .error ("option '--" ++ name ++ "' doesn't allow an argument")
      | true, some v, _ =>
        let (os, r) ← g.readWithin n ws
        return (⟨c, v⟩ :: os, r)
      | true, none, v :: ws =>
        let (os, r) ← g.readWithin n ws
        return (⟨c, v⟩ :: os, r)
      | true, none, [] => .error ("option '--" ++ name ++ "' requires an argument")
    | '-' :: c :: cs =>
      let (first, need) ← g.cluster (c :: cs)
      match need, ws with
      | none, _ =>
        let (os, r) ← g.readWithin n ws
        return (first ++ os, r)
      | some d, v :: ws =>
        let (os, r) ← g.readWithin n ws
        return (first ++ ⟨d, v⟩ :: os, r)
      | some d, [] => .error ("option requires an argument -- '" ++ String.singleton d ++ "'")
    | _ =>
      if g.mixed then
        let (os, r) ← g.readWithin n ws
        return (os, w :: r)
      else return ([], w :: ws)

def read (g : Grammar) (ws : List String) : Except String (List Given × List String) :=
  g.readWithin (ws.length + 1) ws

end Grammar

def hasOption (os : List Given) (c : Char) : Bool :=
  os.any (·.letter = c)

def argumentOf? (os : List Given) (c : Char) : Option String :=
  (os.reverse.find? (·.letter = c)).map Given.argument

namespace Call

def complain (c : Call) (text : String) : Act Unit :=
  Act.complain (c.called ++ ": " ++ text)

def fail (c : Call) (text : String) (status : Nat) : Act Nat := do
  c.complain text
  return status

def withOptions (c : Call) (g : Grammar) (status : Nat)
    (run : List Given → List String → Act Nat) : Act Nat := do
  match g.read c.words with
  | .error e => do
    c.complain e
    Act.complain ("Try '" ++ c.called ++ " --help' for more information.")
    return status
  | .ok (os, ws) => run os ws

def lacksOperand (c : Call) (status : Nat) : Act Nat := do
  c.complain "missing operand"
  Act.complain ("Try '" ++ c.called ++ " --help' for more information.")
  return status

def input (path : String) : Act (Except Fault (List Char)) := do
  if path = "-" then return .ok (← Act.readAll 0)
  Act.readPath path

/-- The texts of the files that are named, or of the first stream; and whether all could be read. -/
def inputs (c : Call) (files : List String) : Act (List (String × List Char) × Bool) := do
  let mut texts := []
  let mut fine := true
  for file in if files = [] then ["-"] else files do
    match ← input file with
    | .ok t => texts := (file, t) :: texts
    | .error fault =>
      c.complain (file ++ ": " ++ Fault.words fault)
      fine := false
  return (texts.reverse, fine)

def print (c : Call) (text : String) (status : Nat) : Act Nat := do
  if ← Act.writeTo 1 text then return status
  c.fail "write error: No space left on device" 1

end Call

namespace Utility

def linesOf (s : List Char) : List (List Char) × Bool :=
  let ls := s.splitOn '\n'
  if ls.getLast? = some [] then (ls.dropLast, true) else (ls, s = [])

def lines (s : List Char) : List (List Char) :=
  (linesOf s).1

def unlines (ls : List (List Char)) : String :=
  String.ofList (ls.flatMap (· ++ ['\n']))

def atRight (width : Nat) (s : String) : String :=
  String.ofList (List.replicate (width - s.length) ' ') ++ s

def octalText (width n : Nat) : String :=
  let ds := Nat.toDigits 8 n
  String.ofList (List.replicate (width - ds.length) '0' ++ ds)

def wordsOf (s : List Char) : List (List Char) :=
  (s.splitOnP isGap).filter (· ≠ [])

end Utility

end InlineRemote.Shell
