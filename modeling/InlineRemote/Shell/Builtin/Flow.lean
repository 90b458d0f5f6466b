import InlineRemote.Shell.Builtin.Options

/-! # Commands that leave others

A command ends the shell, a function or some loops.  In the extended dialect a word too many makes
the rest of the line be left out. -/
namespace InlineRemote.Shell

namespace Builtin

def single (name : String) (ws : List String) : Act Unit := do
  if 1 < ws.length then
    complain name "too many arguments"
    Act.leave 1
    throw .discard

/-- The status that a word stands for, modulo the number of statuses; `none` if it is no number. -/
def statusOf? (w : String) : Option Nat :=
  (number? true w).map fun n => (n % 256).toNat

def exit (ws : List String) : Act Nat := do
  let s ← get
  let last := s.interrupted.getD s.status
  let n ←
    if s.extended then
      let ws := if ws.head? = some "--" then ws.drop 1 else ws
      match ws with
      | [] => pure last
      | w :: _ =>
        match statusOf? w with
        | some n => do single "exit" ws; pure n
        | none => do
          complain "exit" (w ++ ": numeric argument required")
          pure 2
    else (ws.head?.map (demandCount "exit")).getD (pure last)
  Act.leave n
  throw .exit

/-- Leaves a function, or a file whose commands run. -/
def giveBack (ws : List String) : Act Nat := do
  let s ← get
  if s.extended then
    let ws := if ws.head? = some "--" then ws.drop 1 else ws
    if s.callers = [] ∧ s.sourced = 0 then
      complain "return" "can only \x60return' from a function or sourced script"
      return 2
    let n ← match ws with
      | [] => pure s.status
      | w :: _ =>
        match statusOf? w with
        | some n => do single "return" ws; pure n
        | none => do
          complain "return" (w ++ ": numeric argument required")
          pure 2
    Act.leave n
  else
    let n ← (ws.head?.map (demandCount "return")).getD (pure s.status)
    Act.leave n
  throw .returning

/-- Leaves loops, or their turns. -/
def skipLoops (name : String) (ws : List String) : Act Nat := do
  let s ← get
  let stop (n : Nat) : Stop := if name = "break" then .breaking n else .continuing n
  if s.extended then
    if s.loops = 0 then
      complain name "only meaningful in a \x60for', \x60while', or \x60until' loop"
      return 0
    match ws with
    | [] => do
      Act.leave 0
      throw (stop 1)
    | w :: _ =>
      match number? true w with
      | none =>
        complain name (w ++ ": numeric argument required")
        Act.leave 128
        throw .exit
      | some n =>
        single name ws
        if n ≤ 0 then
          complain name (w ++ ": loop count out of range")
          Act.leave 1
          throw (.breaking s.loops)
        Act.leave 0
        throw (stop (min n.toNat s.loops))
  else
    let n ← (ws.head?.map (demandCount name)).getD (pure 1)
    if n = 0 then wrong name "Illegal number: 0" 2
    let loops := min n s.loops
    Act.leave 0
    if loops = 0 then return 0
    throw (stop loops)

end Builtin

end InlineRemote.Shell
