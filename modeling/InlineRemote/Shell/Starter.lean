import InlineRemote.Shell.Process
import InlineRemote.Shell.Search
import InlineRemote.Shell.Utility.Call

/-! # How programs run others

A program becomes another one, or starts it as a process and waits for it. -/
namespace InlineRemote.Shell

/-- How a program runs others: by becoming one, or as processes that it waits for. -/
structure Starter where
  become : String → List String → Act (Except Fault Nat)

namespace Starter

def refusal (fault : Fault) : Nat :=
  if fault = .notFound then 127 else 126

def replace (k : Starter) (c : Call) (word : String) (words : List String) : Act Nat := do
  match ← k.become word words with
  | .ok status => return status
  | .error fault => c.fail ("'" ++ word ++ "': " ++ Fault.words fault) (refusal fault)

def start (k : Starter) (change : Session → Session) (word : String) (words : List String) :
    Act (Except Fault Exit) := do
  match (← get).program? word with
  | none => return .error .notFound
  | some path =>
    match (← get).runnable path with
    | .error fault => return .error fault
    | .ok _ =>
      let exit ← Act.inside true (fun s => change s.asProgram) do
        match ← k.become word words with
        | .ok status => return .code status
        | .error fault => return .code (refusal fault)
      return .ok exit

end Starter

def Act.endAs (e : Exit) : Act Nat := do
  match e with
  | .code n => return n
  | .signal n => throw (.killed ⟨(← get).current, n⟩)

end InlineRemote.Shell
