import InlineRemote.Key

/-! # Key transitions

A stroke is injected as presses and releases of virtual keys: the modifiers go down, the key is
tapped, and the modifiers come up in the opposite order.  An upper-case ASCII letter is typed with
Shift. -/
namespace InlineRemote

/-- One press or release of a virtual key. -/
structure Transition where
  code : Nat
  released : Bool
  deriving DecidableEq, Repr

/-- The virtual key of a keyboard key. -/
def NamedKey.virtualCode : NamedKey → Nat
  | function i => 0x70 + i.val
  | left => 0x25
  | up => 0x26
  | right => 0x27
  | down => 0x28
  | home => 0x24
  | endKey => 0x23
  | pageUp => 0x21
  | pageDown => 0x22
  | enter => 0x0D
  | delete => 0x2E
  | backspace => 0x08
  | escape => 0x1B
  | capsLock => 0x14
  | tab => 0x09
  | space => 0x20

/-- The virtual key of a media key; the keys for brightness, contrast and the like have none. -/
def MediaKey.virtualCode? : MediaKey → Option Nat
  | volumeUp => some 0xAF
  | volumeDown => some 0xAE
  | mute => some 0xAD
  | play => some 0xB3
  | next => some 0xB0
  | previous => some 0xB1
  | help => some 0x2F
  | numLock => some 0x90
  | power => some 0x5F
  | _ => none

/-- The virtual key of a key.  Among characters only ASCII letters, digits and the space have
one. -/
def Key.virtualCode? : Key → Option Nat
  | char c =>
    if c.isAlphanum then some c.toUpper.toNat
    else if c = ' ' then some 0x20
    else none
  | named k => some k.virtualCode
  | media k => k.virtualCode?
  | nothing => none

/-- The virtual keys of the held modifiers, in the order in which they go down. -/
def Modifiers.virtualCodes (m : Modifiers) : List Nat :=
  (if m.control then [0x11] else []) ++ (if m.alt then [0x12] else []) ++
    (if m.shift then [0x10] else []) ++ (if m.logo then [0x5B] else [])

namespace Stroke

def heldModifiers (s : Stroke) : Modifiers :=
  match s.key with
  | .char c => if c.isUpper then s.modifiers.union { shift := true } else s.modifiers
  | _ => s.modifiers

/-- What is pressed and released for a stroke; nothing for the key that types nothing, and
`none` for a key without a virtual key. -/
def transitions? (s : Stroke) : Option (List Transition) :=
  if s.key = .nothing then some []
  else
    s.key.virtualCode?.map fun code =>
      let held := s.heldModifiers.virtualCodes
      held.map (⟨·, false⟩) ++ [⟨code, false⟩, ⟨code, true⟩] ++ held.reverse.map (⟨·, true⟩)

end Stroke

end InlineRemote
