import InlineRemote.Table

/-! # Unreachable triggers

A trigger never completes when a shorter one in its own scope does so first.  Such triggers are
reported, each with the shortest trigger that hides it. -/
namespace InlineRemote

/-- A trigger that is hidden by a shorter one in its scope. -/
structure Unreachable where
  scope : Scope
  trigger : Trigger
  shadowedBy : Trigger
  deriving DecidableEq, Repr

def Unreachable.message (u : Unreachable) : String :=
  u.trigger.text ++ " in " ++ u.scope.text ++ " scope is unreachable: " ++ u.shadowedBy.text ++
    " fires first"

def Trigger.beginnings (t : Trigger) : List Trigger :=
  (List.range' 1 (t.length - 1)).map (t.take ·)

def Trie.shadow? {α : Type} (t : Trie α) (s : Trigger) : Option Trigger :=
  s.beginnings.find? fun p => (t.find? p).isSome

namespace Table

def unreachable (t : Table) : List Unreachable :=
  t.scopes.flatMap fun e =>
    e.2.toList.filterMap fun b => (e.2.shadow? b.1).map fun p => ⟨e.1, b.1, p⟩

def warnings (t : Table) : List String :=
  (t.unreachable.map Unreachable.message).mergeSort fun a b => decide (a ≤ b)

end Table

end InlineRemote
