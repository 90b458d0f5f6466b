import InlineRemote.Text.Blank
import InlineRemote.Text.Strip
import InlineRemote.Trigger

/-! # Lines of a mapping file

A line that says something is a mapping, a command, the opening of a mode or its closing.  Key words
are lower case.  Spaces and tabs separate the parts, and the last part is taken as it stands. -/
namespace InlineRemote.Mapping

/-- What a line says. -/
inductive Line where
  /-- `map TRIGGER KEYS` -/
  | map (trigger : Trigger) (keys : List Char)
  /-- `cmd TRIGGER COMMAND` -/
  | command (trigger : Trigger) (command : List Char)
  /-- `mode TRIGGER {` -/
  | opening (trigger : Trigger)
  /-- `}` -/
  | closing
  deriving DecidableEq, Repr

namespace Line

def skipSpacing (s : List Char) : List Char :=
  s.dropWhile Text.isSpacing

def spaced? : List Char → Option (List Char)
  | [] => none
  | c :: s => if Text.isSpacing c then some (skipSpacing s) else none

def headed? (word s : List Char) : Option (Trigger × List Char) :=
  ((Text.strip? word s).bind spaced?).bind Trigger.read?

def part? (word s : List Char) : Option (Trigger × List Char) :=
  match headed? word s with
  | none => none
  | some (t, r) => (spaced? r).map (t, ·)

def isBrace (brace : Char) : List Char → Bool
  | [] => false
  | c :: s => c = brace && skipSpacing s = []

def read? (s : List Char) : Option Line :=
  match part? ['m', 'a', 'p'] s with
  | some (t, keys) => some (.map t keys)
  | none =>
    match part? ['c', 'm', 'd'] s with
    | some (t, c) => some (.command t c)
    | none =>
      match headed? ['m', 'o', 'd', 'e'] s with
      | some (t, r) => if isBrace '{' (skipSpacing r) then some (.opening t) else none
      | none => if isBrace '}' s then some .closing else none

def isIdle : List Char → Bool
  | [] => true
  | c :: _ => c = '#'

end Line

end InlineRemote.Mapping
