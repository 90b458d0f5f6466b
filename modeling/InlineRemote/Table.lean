import InlineRemote.Action
import InlineRemote.Mode.Stack
import InlineRemote.Trie

/-! # The table of triggers

A table is built from a mapping set in one step and never changed.  Building refuses empty triggers,
modes that are not declared, and a second entry for a trigger in the same scope; the first bad
entry decides.  A lookup sees the scopes of the active modes, innermost first, and then the global
scope. -/
namespace InlineRemote

/-- Why a mapping set makes no table. -/
inductive TableError where
  | emptyTrigger (scope : Scope)
  | duplicateTrigger (trigger : Trigger) (scope : Scope)
  | unknownMode (trigger : Trigger) (mode : ModeId)
  deriving DecidableEq, Repr

def TableError.message : TableError → String
  | emptyTrigger scope => "empty trigger in " ++ scope.text ++ " scope"
  | duplicateTrigger trigger scope =>
    "trigger " ++ trigger.text ++ " is defined more than once in " ++ scope.text ++ " scope"
  | unknownMode trigger mode =>
    "trigger " ++ trigger.text ++ " refers to undeclared mode '" ++ mode.name ++ "'"

/-- The actions of every declared scope by trigger. -/
structure Table where
  scopes : List (Scope × Trie Action)
  deriving Repr

namespace Table

def blank (modes : List ModeId) : Table :=
  ⟨(Scope.global :: modes.map Scope.mode).eraseDups.map (·, .empty)⟩

def scope? (t : Table) (s : Scope) : Option (Trie Action) :=
  t.scopes.lookup s

def declares (t : Table) (m : ModeId) : Bool :=
  (t.scope? (.mode m)).isSome

def bind (t : Table) (s : Scope) (trigger : Trigger) (a : Action) : Table :=
  ⟨t.scopes.map fun e => if e.1 = s then (e.1, e.2.insert trigger a) else e⟩

def find? (t : Table) (s : Scope) (trigger : Trigger) : Option Action :=
  (t.scope? s).bind (·.find? trigger)

def stray? (t : Table) (named : Option ModeId) : Option ModeId :=
  named.filter (!t.declares ·)

/-- Adds an entry: its trigger, its target, its scope and its being new are checked in this
order. -/
def add (t : Table) (e : Entry) : Except TableError Table :=
  if e.trigger = [] then .error (.emptyTrigger e.scope)
  else
    match t.stray? e.action.target?, t.stray? e.scope.mode? with
    | some m, _ => .error (.unknownMode e.trigger m)
    | none, some m => .error (.unknownMode e.trigger m)
    | none, none =>
      if (t.find? e.scope e.trigger).isSome then .error (.duplicateTrigger e.trigger e.scope)
      else .ok (t.bind e.scope e.trigger e.action)

def addAll (t : Table) : List Entry → Except TableError Table
  | [] => .ok t
  | e :: es =>
    match t.add e with
    | .error fault => .error fault
    | .ok t' => t'.addAll es

def build (set : MappingSet) : Except TableError Table :=
  (blank set.modes).addAll set.entries

def size (t : Table) : Nat :=
  (t.scopes.flatMap fun e => e.2.toList).length

/-- What a sequence is among the triggers of the visible scopes. -/
inductive Lookup where
  | noMatch
  /-- It starts longer triggers and is none itself. -/
  | beginning
  | exact (action : Action)
  deriving DecidableEq, Repr

/-- The actions of the visible scopes, those that take precedence first.  Names of undeclared
modes are skipped. -/
def visible (t : Table) (active : List ModeId) : List (Trie Action) :=
  (active.reverse.map Scope.mode ++ [Scope.global]).filterMap t.scope?

/-- Looks a sequence up.  A complete trigger in any visible scope comes before the beginning of a
longer one. -/
def lookup (t : Table) (active : List ModeId) (s : Trigger) : Lookup :=
  if s = [] then .noMatch
  else
    match (t.visible active).findSome? (·.find? s) with
    | some a => .exact a
    | none => if (t.visible active).any (·.extends? s) then .beginning else .noMatch

/-- What to do with a pending sequence. -/
inductive Resolution where
  /-- Run the action and start over. -/
  | fire (action : Action)
  /-- Keep the sequence. -/
  | wait
  /-- Drop the sequence. -/
  | discard
  deriving DecidableEq, Repr

/-- Resolves a sequence under the active modes.  A complete trigger fires even when longer ones
start with it. -/
def resolve (t : Table) (modes : ModeStack) (s : Trigger) : Resolution :=
  match t.lookup modes.active s with
  | .exact a => .fire a
  | .beginning => .wait
  | .noMatch => .discard

end Table

end InlineRemote
