import InlineRemote.Action
import InlineRemote.Mapping.KeySequence
import InlineRemote.Mapping.Line

/-! # Mapping files

A mapping file is read line by line.  A mode is named by its written trigger.  Opening a mode adds
two entries: its trigger activates it everywhere, and deactivates it inside.  Blocks do not nest,
and each is closed before the file ends. -/
namespace InlineRemote.Mapping

/-- What has been read so far: the declarations, and the open block with the line that opened
it. -/
structure Progress where
  set : MappingSet := {}
  block : Option (ModeId × Nat) := none
  deriving DecidableEq, Repr

namespace Progress

def scope (p : Progress) : Scope :=
  match p.block with
  | none => .global
  | some (m, _) => .mode m

def enter (p : Progress) (t : Trigger) (a : Action) : Progress :=
  { p with set := { p.set with entries := p.set.entries ++ [⟨p.scope, t, a⟩] } }

def openMode (p : Progress) (number : Nat) (t : Trigger) : Progress :=
  let m : ModeId := ⟨t.text⟩
  { set :=
      { modes := p.set.modes ++ [m]
        entries := p.set.entries ++
          [⟨.global, t, .activate m⟩, ⟨.mode m, t, .deactivate m⟩] }
    block := some (m, number) }

/-- Reads what one line says. -/
def say (p : Progress) (number : Nat) : Line → Except LineFault Progress
  | .map t keys =>
    match readKeys keys with
    | .ok strokes => .ok (p.enter t (.type strokes))
    | .error e => .error (.keys e)
  | .command t c => .ok (p.enter t (.run (String.ofList c)))
  | .opening t =>
    match p.block with
    | none => .ok (p.openMode number t)
    | some _ => .error .nested
  | .closing =>
    match p.block with
    | none => .error .unopened
    | some _ => .ok { p with block := none }

def readLine (p : Progress) (number : Nat) (raw : List Char) : Except LineFault Progress :=
  let s := Text.trim raw
  if Line.isIdle s then .ok p
  else
    match Line.read? s with
    | none => .error (.malformed (String.ofList s))
    | some l => p.say number l

/-- Reads lines, the first of which has the given number, and stops at the first fault. -/
def readLines (p : Progress) (number : Nat) : List (List Char) → Except Error Progress
  | [] => .ok p
  | raw :: rest =>
    match p.readLine number raw with
    | .error fault => .error (.line number fault)
    | .ok p' => p'.readLines (number + 1) rest

def finish (p : Progress) : Except Error MappingSet :=
  match p.block with
  | none => .ok p.set
  | some (_, number) => .error (.unclosed number)

end Progress

/-- Reads the text of a mapping file.  A carriage return before a line feed is trimmed with the
other blanks of its line. -/
def read (text : List Char) : Except Error MappingSet :=
  match Progress.readLines {} 1 (text.splitOn '\n') with
  | .error e => .error e
  | .ok p => p.finish

end InlineRemote.Mapping
