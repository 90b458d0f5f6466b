import InlineRemote.Key
import InlineRemote.Text.Digits

/-! # Names of keys

A key that types no character is written by its name, in any ASCII case.  Keyboard keys come before
media keys, so `up` is the arrow key.  A function key is an `f` with a number from 1 to 12, which
may have a plus sign and leading zeros. -/
namespace InlineRemote.Key

def decimal? (ds : List Char) : Option Nat :=
  if ds ≠ [] ∧ ds.all Char.isDigit then some (Text.ofDigits 10 ds) else none

def unsigned : List Char → List Char
  | '+' :: ds => ds
  | ds => ds

def function? : List Char → Option NamedKey
  | 'f' :: s =>
    match decimal? (unsigned s) with
    | some (n + 1) => if h : n < 12 then some (.function ⟨n, h⟩) else none
    | _ => none
  | _ => none

def keyboardNames : List (String × Key) :=
  [("left", .named .left), ("right", .named .right), ("up", .named .up), ("down", .named .down),
   ("home", .named .home), ("end", .named .endKey), ("pageup", .named .pageUp),
   ("pagedown", .named .pageDown), ("return", .named .enter), ("enter", .named .enter),
   ("cr", .named .enter), ("del", .named .delete), ("bs", .named .backspace),
   ("esc", .named .escape), ("capslock", .named .capsLock), ("tab", .named .tab),
   ("space", .named .space)]

/-- The media keys by name, and the name of the key that types nothing. -/
def mediaNames : List (String × Key) :=
  [("volumeup", .media .volumeUp), ("volumedown", .media .volumeDown), ("mute", .media .mute),
   ("brightnessup", .media .brightnessUp), ("brightnessdown", .media .brightnessDown),
   ("help", .media .help), ("power", .media .power), ("numlock", .media .numLock),
   ("contrastup", .media .contrastUp), ("contrastdown", .media .contrastDown),
   ("eject", .media .eject), ("vidmirror", .media .vidMirror), ("play", .media .play),
   ("next", .media .next), ("previous", .media .previous), ("fast", .media .fast),
   ("rewind", .media .rewind), ("illuminationup", .media .illuminationUp),
   ("illuminationdown", .media .illuminationDown),
   ("illuminationtoggle", .media .illuminationToggle), ("nop", .nothing)]

def ofName? (name : List Char) : Option Key :=
  let lower := name.map Char.toLower
  match function? lower with
  | some k => some (.named k)
  | none => (keyboardNames ++ mediaNames).lookup (String.ofList lower)

end InlineRemote.Key
