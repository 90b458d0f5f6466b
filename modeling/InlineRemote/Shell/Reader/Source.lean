import InlineRemote.Shell.Syntax
import InlineRemote.Text.Blank
import InlineRemote.Text.Digits

/-! # The text of a script while it is read

A reader takes characters from the front of a script; it fails where the script is not well formed.
A backslash at the end of a line joins the next line to it, also inside names, reserved words and
operators.  At the start of a command a word may be an alias, whose text is then read in its stead;
while that text lasts, the alias means nothing. -/
namespace InlineRemote.Shell

/-- A script while it is read. -/
structure Source where
  rest : List Char
  /-- Whether the extended dialect is read. -/
  extended : Bool := false
  /-- Whether a pattern may hold groups of patterns. -/
  groups : Bool := false
  aliases : List (String × String) := []
  /-- The aliases whose text is being read, each with how much of the script is left after it. -/
  busy : List (String × Nat) := []
  /-- How much of the script is left where the next word may be an alias too. -/
  chase : Option Nat := none
  /-- The number of the line after the last line end. -/
  lines : Nat := 1

def Source.ofText (text : List Char) (line : Nat) : Source :=
  { rest := text, lines := line + text.count '\n' }

def Source.line (s : Source) : Nat :=
  s.lines - s.rest.count '\n'

/-- Where a script is not well formed. -/
inductive Mistake where
  | plain
  /-- In a script whose output goes into a word. -/
  | within
  deriving DecidableEq, Repr

instance : Alternative (Except Mistake) where
  failure := .error .plain
  orElse a b :=
    match a with
    | .ok x => .ok x
    | .error _ => b ()

abbrev Reading := StateT Source (Except Mistake)

namespace Reading

def rest : Reading (List Char) := do
  return (← get).rest

def goOn (s : List Char) : Reading Unit :=
  modify ({ · with rest := s })

def unjoined : List Char → List Char
  | '\\' :: '\n' :: s => unjoined s
  | s => s

/-- The characters at the front that have a property, and the text after them; lines are joined. -/
def span (p : Char → Bool) : List Char → List Char × List Char
  | [] => ([], [])
  | '\\' :: '\n' :: s =>
    match span p s with
    | ([], _) => ([], '\\' :: '\n' :: s)
    | found => found
  | c :: s =>
    if p c then
      let (t, r) := span p s
      (c :: t, r)
    else ([], c :: s)

/-- The text after a word at its front, if it starts with that word; lines are joined. -/
def strip? : List Char → List Char → Option (List Char)
  | [], s => some s
  | _ :: _, [] => none
  | w :: ws, '\\' :: '\n' :: s => strip? (w :: ws) s
  | w :: ws, c :: s => if c = w then strip? ws s else none

def endsWord (c : Char) : Bool :=
  Text.isSpacing c || ['\n', ';', '&', '|', '(', ')', '<', '>'].contains c

def gap (lines comment : Bool) : List Char → List Char
  | [] => []
  | '\n' :: s => if lines then gap lines false s else '\n' :: s
  | '\\' :: '\n' :: s =>
    if !comment then gap lines false s else if lines then gap lines false s else '\n' :: s
  | c :: s =>
    if comment || Text.isSpacing c then gap lines comment s
    else if c = '#' then gap lines true s
    else c :: s

def toToken (lines : Bool) : Reading Unit :=
  modify fun s => { s with rest := gap lines false s.rest }

def accept (w : String) : Reading Bool := do
  match strip? w.toList (← rest) with
  | some r => goOn r; return true
  | none => return false

def expect (w : String) : Reading Unit := do
  if !(← accept w) then failure

def extended : Reading Bool := do
  return (← get).extended

def reserved : List String :=
  ["!", "\x7b", "\x7d", "case", "do", "done", "elif", "else", "esac", "fi", "for", "if", "in",
    "then", "until", "while"]

def reservedThere : List String :=
  ["[[", "]]", "coproc", "function", "select", "time"]

def reserved? (s : Source) : Option (String × List Char) :=
  let (w, r) := span (!endsWord ·) s.rest
  let w := String.ofList w
  if reserved.contains w || (s.extended && reservedThere.contains w) then some (w, r) else none

def acceptWord (w : String) : Reading Bool := do
  match reserved? (← get) with
  | some (v, r) => if v = w then goOn r; return true else return false
  | none => return false

def expectWord (w : String) : Reading Unit := do
  if !(← acceptWord w) then failure

def stops (s : Source) : Bool :=
  s.rest = [] || s.rest.head? = some ')' || (strip? [';', ';'] s.rest).isSome ||
    (s.extended && (strip? [';', '&'] s.rest).isSome) ||
    match reserved? s with
    | some (w, _) => ["do", "done", "elif", "else", "esac", "fi", "then", "\x7d"].contains w
    | none => false

/-- Reads the text of an alias if the next word is one. -/
def openAlias : Reading Bool := do
  let s ← get
  let (w, r) := span (!endsWord ·) s.rest
  let name := String.ofList w
  let free : Bool := s.busy.all fun (other, left) => other ≠ name || s.rest.length ≤ left
  match s.aliases.lookup name with
  | none => return false
  | some text =>
    if !free then return false
    let t := text.toList
    set { s with
      rest := t ++ r
      busy := (name, r.length) :: s.busy
      chase := if t.getLast?.any Text.isSpacing then some r.length else s.chase }
    return true

/-- Reads the text of an alias if the next word is one, and the alias before it allows that. -/
def openNextAlias : Reading Bool := do
  let s ← get
  match s.chase with
  | none => return false
  | some left =>
    if left < s.rest.length then return false
    set { s with chase := none }
    openAlias

def whole {α : Type} (text : List Char) (a : Reading α) : Reading α := do
  let s ← get
  match a { s with rest := text } with
  | .ok (x, t) => if t.rest = [] then return x else failure
  | .error m => throw m

def orElse {α : Type} (a b : Reading α) : Reading α := fun s =>
  match a s with
  | .ok r => .ok r
  | .error _ => b s

end Reading

end InlineRemote.Shell
