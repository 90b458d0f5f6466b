/-! # Keys and strokes

A stroke taps one key while some modifiers are held.  Its text is what logs and messages show. -/
namespace InlineRemote

/-- The modifier keys held during a stroke; `logo` is the Command or Windows key. -/
structure Modifiers where
  control : Bool := false
  alt : Bool := false
  shift : Bool := false
  logo : Bool := false
  deriving DecidableEq, Repr

namespace Modifiers

def empty : Modifiers := {}

def union (a b : Modifiers) : Modifiers :=
  ⟨a.control || b.control, a.alt || b.alt, a.shift || b.shift, a.logo || b.logo⟩

def ofLetter? (c : Char) : Option Modifiers :=
  match c.toUpper with
  | 'C' => some { control := true }
  | 'A' => some { alt := true }
  | 'S' => some { shift := true }
  | 'D' => some { logo := true }
  | _ => none

/-- The letters with their hyphens, in the order in which a stroke shows them. -/
def letters (m : Modifiers) : List Char :=
  (if m.logo then ['D', '-'] else []) ++ (if m.alt then ['A', '-'] else []) ++
    (if m.control then ['C', '-'] else []) ++ (if m.shift then ['S', '-'] else [])

end Modifiers

/-- A key of a regular keyboard that types no character.  The twelve function keys are counted from
zero. -/
inductive NamedKey where
  | function (index : Fin 12)
  | left
  | right
  | up
  | down
  | home
  | endKey
  | pageUp
  | pageDown
  | enter
  | delete
  | backspace
  | escape
  | capsLock
  | tab
  | space
  deriving DecidableEq, Repr

/-- The name as a stroke shows it. -/
def NamedKey.name : NamedKey → String
  | function i => "F" ++ toString (i.val + 1)
  | left => "Left"
  | right => "Right"
  | up => "Up"
  | down => "Down"
  | home => "Home"
  | endKey => "End"
  | pageUp => "PageUp"
  | pageDown => "PageDown"
  | enter => "Return"
  | delete => "Delete"
  | backspace => "Backspace"
  | escape => "Escape"
  | capsLock => "CapsLock"
  | tab => "Tab"
  | space => "Space"

/-- A key for the system or for a media player. -/
inductive MediaKey where
  | volumeUp
  | volumeDown
  | mute
  | brightnessUp
  | brightnessDown
  | help
  | power
  | numLock
  | contrastUp
  | contrastDown
  | eject
  | vidMirror
  | play
  | next
  | previous
  | fast
  | rewind
  | illuminationUp
  | illuminationDown
  | illuminationToggle
  deriving DecidableEq, Repr

/-- The name as a stroke shows it. -/
def MediaKey.name : MediaKey → String
  | volumeUp => "VolumeUp"
  | volumeDown => "VolumeDown"
  | mute => "Mute"
  | brightnessUp => "BrightnessUp"
  | brightnessDown => "BrightnessDown"
  | help => "Help"
  | power => "Power"
  | numLock => "NumLock"
  | contrastUp => "ContrastUp"
  | contrastDown => "ContrastDown"
  | eject => "Eject"
  | vidMirror => "VidMirror"
  | play => "Play"
  | next => "Next"
  | previous => "Previous"
  | fast => "Fast"
  | rewind => "Rewind"
  | illuminationUp => "IlluminationUp"
  | illuminationDown => "IlluminationDown"
  | illuminationToggle => "IlluminationToggle"

/-- A key; `nothing` swallows a press without typing. -/
inductive Key where
  | char (c : Char)
  | named (key : NamedKey)
  | media (key : MediaKey)
  | nothing
  deriving DecidableEq, Repr

/-- One tap of a key with the modifiers held during it. -/
structure Stroke where
  key : Key
  modifiers : Modifiers
  deriving DecidableEq, Repr

namespace Stroke

def plain (k : Key) : Stroke := ⟨k, .empty⟩

/-- A bare character stands for itself; everything else is bracketed, with the modifiers in
front.  A stroke that types nothing shows no modifiers. -/
def letters (s : Stroke) : List Char :=
  match s.key with
  | .char c => if s.modifiers = .empty then [c] else '<' :: s.modifiers.letters ++ [c, '>']
  | .named k => '<' :: s.modifiers.letters ++ k.name.toList ++ ['>']
  | .media k => '<' :: s.modifiers.letters ++ k.name.toList ++ ['>']
  | .nothing => ['<', 'N', 'o', 'p', '>']

def text (s : Stroke) : String :=
  String.ofList s.letters

end Stroke

end InlineRemote
