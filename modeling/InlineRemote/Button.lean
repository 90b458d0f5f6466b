import InlineRemote.Text.Blank

/-! # The three buttons of a headset's inline remote

A button has a name, is written in angle brackets, and is read from a word in any ASCII case, with
or without the brackets. -/
namespace InlineRemote

/-- A button of the remote. -/
inductive Button where
  | play
  | up
  | down
  deriving DecidableEq, Repr

namespace Button

def word : Button → List Char
  | play => ['p', 'l', 'a', 'y']
  | up => ['u', 'p']
  | down => ['d', 'o', 'w', 'n']

def name : Button → List Char
  | play => ['P', 'l', 'a', 'y']
  | up => ['U', 'p']
  | down => ['D', 'o', 'w', 'n']

def letters (b : Button) : List Char :=
  '<' :: b.name ++ ['>']

def text (b : Button) : String :=
  String.ofList b.letters

def ofWord? (w : List Char) : Option Button :=
  [play, up, down].find? fun b => b.word = w.map Char.toLower

/-- The text between angle brackets, or the text itself when it does not have both of them. -/
def unbracket : List Char → List Char
  | '<' :: r => if r.getLast? = some '>' then r.dropLast else '<' :: r
  | s => s

/-- A word that names no button. -/
structure Unknown where
  word : String
  deriving DecidableEq, Repr

def Unknown.message (e : Unknown) : String :=
  "unknown headphone button '" ++ e.word ++ "'"

def ofText (s : String) : Except Unknown Button :=
  let trimmed := Text.trim s.toList
  match ofWord? (unbracket trimmed) with
  | some b => .ok b
  | none => .error ⟨String.ofList trimmed⟩

def ofConsoleLine? (line : String) : Option Button :=
  if Text.trim line.toList = [] then none else (ofText line).toOption

/-- Strips a lower-case word from the start of a text whose letters may have any ASCII case. -/
def stripWord : List Char → List Char → Option (List Char)
  | [], s => some s
  | _ :: _, [] => none
  | w :: ws, c :: s => if c.toLower = w then stripWord ws s else none

/-- Reads one bracketed button from the start of a text: the button and the rest. -/
def read? : List Char → Option (Button × List Char)
  | '<' :: s =>
    [play, up, down].findSome? fun b =>
      match stripWord b.word s with
      | some ('>' :: r) => some (b, r)
      | _ => none
  | _ => none

theorem length_stripWord_le {w s r : List Char} (h : stripWord w s = some r) :
    r.length ≤ s.length := by
  induction w generalizing s with
  | nil => simp_all [stripWord]
  | cons a w ih =>
    cases s with
    | nil => simp [stripWord] at h
    | cons c s =>
      rw [stripWord] at h
      split at h
      · have := ih h
        simp only [List.length_cons]
        omega
      · cases h

/-- Reading a button leaves less text. -/
theorem length_read?_lt {s r : List Char} {b : Button} (h : read? s = some (b, r)) :
    r.length < s.length := by
  unfold read? at h
  split at h
  · obtain ⟨a, -, ha⟩ := List.exists_of_findSome?_eq_some h
    split at ha
    · next r' hs =>
      obtain ⟨-, rfl⟩ := Prod.mk.inj (Option.some.inj ha)
      have := length_stripWord_le hs
      simp only [List.length_cons] at *
      omega
    · cases ha
  · cases h

end Button

/-- One press of a button, at a number of nanoseconds after a fixed origin. -/
structure Press where
  button : Button
  time : Nat
  deriving DecidableEq, Repr

end InlineRemote
