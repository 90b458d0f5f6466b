import InlineRemote.Button

/-! # Triggers

A trigger is a sequence of buttons in the order in which they are pressed.  It is written as its
buttons' names in angle brackets, with nothing between them, and read back from that text. -/
namespace InlineRemote

abbrev Trigger := List Button

namespace Trigger

def letters (t : Trigger) : List Char :=
  t.flatMap Button.letters

def text (t : Trigger) : String :=
  String.ofList t.letters

/-- Reads as many bracketed buttons as stand at the start of a text: the buttons and the rest. -/
def readMany (s : List Char) : Trigger × List Char :=
  match _h : Button.read? s with
  | none => ([], s)
  | some (b, r) =>
    let (t, r') := readMany r
    (b :: t, r')
termination_by s.length
decreasing_by exact Button.length_read?_lt _h

/-- Reads a trigger from the start of a text: at least one button, and the rest. -/
def read? (s : List Char) : Option (Trigger × List Char) :=
  match readMany s with
  | ([], _) => none
  | (b :: t, r) => some (b :: t, r)

end Trigger

end InlineRemote
