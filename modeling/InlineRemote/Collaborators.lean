import InlineRemote.Dispatch
import InlineRemote.Files.Fault
import InlineRemote.Key.Transition
import InlineRemote.Log

/-! # Collaborators that log

Injectors, runners and observers whose world is the log.  A recording collaborator notes each call
and then fails or not, as it likes, given the calls before.  What the system does with a command is
a parameter of its runner. -/
namespace InlineRemote

/-- How strokes are injected. -/
inductive Injector where
  /-- Notes the stroke and gives the reason of its failure, if it fails. -/
  | recording (fault : Log → Stroke → Option String)
  /-- Logs the stroke in the stead of typing it; a key without a virtual key fails. -/
  | logging

def Injector.inject (i : Injector) (s : Stroke) (log : Log) : Option String × Log :=
  match i with
  | recording fault => (fault log.calls s, log ++ [.inject s])
  | logging =>
    match s.transitions? with
    | none => (some "no virtual-key code for this key", log)
    | some ts => (none, log ++ [.typed s ts.length])

/-- How commands are run. -/
inductive Runner where
  /-- Notes the command and gives the reason of its failure, if it fails. -/
  | recording (fault : Log → String → Option String)
  /-- Hands the command to a shell, which the system starts or not, and logs how it exits. -/
  | shell (invocation : Invocation) (start : Log → Invocation → String → Except Fault Exit)

def Runner.run (r : Runner) (command : String) (log : Log) : Option String × Log :=
  match r with
  | recording fault => (fault log.calls command, log ++ [.run command])
  | shell invocation start =>
    match start log.calls invocation command with
    | .error fault => (some fault.message, log)
    | .ok exit => (none, log ++ [.exited exit])

def recorder (n : Nat) (c : ModeChange) (modes : ModeStack) (log : Log) : Log :=
  log ++ [.observed n c modes.active]

def Dispatcher.logging (i : Injector) (r : Runner) (observers : Nat) : Dispatcher Log where
  inject := i.inject
  run := r.run
  warn text log := log ++ [.warn text]
  observers := (List.range observers).map recorder

end InlineRemote
