import InlineRemote.Command

/-! # Exits and signals as a shell knows them

A shell knows the end of a command by a status, and signals by their names. -/
namespace InlineRemote

def Exit.status : Exit → Nat
  | code n => n
  | signal n => 128 + n

namespace Shell

def harmless : List Nat :=
  [17, 18, 19, 20, 21, 22, 23, 28]

def lastSignal : Nat := 64

/-- The names by which a shell knows a signal.  The sixteenth goes by its number only; the signals
from 34 on are counted from both ends of their range. -/
def signalName (n : Nat) : String :=
  if n = 0 then "EXIT"
  else if n = 16 ∨ n = 32 ∨ n = 33 then toString n
  else if n = 34 then "RTMIN"
  else if n = lastSignal then "RTMAX"
  else if 34 < n ∧ n < 50 then "RTMIN+" ++ toString (n - 34)
  else if 50 ≤ n ∧ n < lastSignal then "RTMAX-" ++ toString (lastSignal - n)
  else (Exit.signals.lookup n).getD (toString n)

def signalNamed? (least : Nat) (name : String) : Option Nat :=
  (List.range (lastSignal + 1)).find? fun n =>
    least ≤ n ∧ (signalName n).toUpper = name.toUpper

end Shell

end InlineRemote
