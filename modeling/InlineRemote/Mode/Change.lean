import InlineRemote.Mode

/-! # Changes of the active modes -/
namespace InlineRemote

/-- A mode that has just become active or has just ceased to be. -/
inductive ModeChange where
  | activated (mode : ModeId)
  | deactivated (mode : ModeId)
  deriving DecidableEq, Repr

def ModeChange.mode : ModeChange → ModeId
  | activated m => m
  | deactivated m => m

end InlineRemote
