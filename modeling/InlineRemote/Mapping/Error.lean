/-! # Faults of a mapping file

Every fault names a line, counted from one. -/
namespace InlineRemote.Mapping

/-- Why a key sequence cannot be read. -/
inductive KeyFault where
  /-- No token can be read where `rest` starts. -/
  | unreadable (rest : String)
  /-- No key has this name. -/
  | unknownKey (name : String)
  deriving DecidableEq, Repr

/-- Why a line is refused. -/
inductive LineFault where
  /-- The line has none of the four forms. -/
  | malformed (text : String)
  | keys (fault : KeyFault)
  /-- A mode is opened inside the block of another. -/
  | nested
  /-- A block is closed that was not opened. -/
  | unopened
  deriving DecidableEq, Repr

/-- Why a mapping file is refused. -/
inductive Error where
  | line (number : Nat) (fault : LineFault)
  /-- The file ends inside the block that was opened on this line. -/
  | unclosed (number : Nat)
  deriving DecidableEq, Repr

def Error.number : Error → Nat
  | line n _ => n
  | unclosed n => n

def KeyFault.message : KeyFault → String
  | unreadable rest => "could not read key sequence at '" ++ rest ++ "'"
  | unknownKey name => "unknown key '<" ++ name ++ ">'"

def LineFault.message : LineFault → String
  | malformed text => "expected `map`, `cmd`, `mode` or `\x7d`: " ++ text
  | keys fault => fault.message
  | nested => "mode blocks cannot be nested"
  | unopened => "`\x7d` without an open mode block"

def Error.message : Error → String
  | line n fault => "line " ++ toString n ++ ": " ++ fault.message
  | unclosed n => "mode block opened on line " ++ toString n ++ " is never closed"

end InlineRemote.Mapping
