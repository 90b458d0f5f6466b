/-! # Modes and scopes

A mode is known by its name.  What is mapped belongs to a scope: it is visible always, or only
while a mode is active. -/
namespace InlineRemote

/-- The name of a mode. -/
structure ModeId where
  name : String
  deriving DecidableEq, Repr

/-- Where an entry is visible. -/
inductive Scope where
  | global
  | mode (id : ModeId)
  deriving DecidableEq, Repr

def Scope.mode? : Scope → Option ModeId
  | global => none
  | mode id => some id

def Scope.text : Scope → String
  | global => "global"
  | mode id => "mode '" ++ id.name ++ "'"

end InlineRemote
