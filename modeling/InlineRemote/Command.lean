/-! # Commands

A command is handed to the user's shell as one argument.  It ends with a code or by a signal. -/
namespace InlineRemote

/-- A shell program and the flag that makes it run one command. -/
structure Invocation where
  program : String
  flag : String
  deriving DecidableEq, Repr

def Invocation.ofUser (user : Option String) : Invocation :=
  match user with
  | none => ⟨"/bin/sh", "-c"⟩
  | some program => ⟨if program = "" then "/bin/sh" else program, "-c"⟩

/-- How a command ends. -/
inductive Exit where
  | code (n : Nat)
  | signal (number : Nat)
  deriving DecidableEq, Repr

namespace Exit

def signals : List (Nat × String) :=
  [(1, "HUP"), (2, "INT"), (3, "QUIT"), (4, "ILL"), (5, "TRAP"), (6, "ABRT"), (7, "BUS"),
    (8, "FPE"), (9, "KILL"), (10, "USR1"), (11, "SEGV"), (12, "USR2"), (13, "PIPE"), (14, "ALRM"),
    (15, "TERM"), (16, "STKFLT"), (17, "CHLD"), (18, "CONT"), (19, "STOP"), (20, "TSTP"),
    (21, "TTIN"), (22, "TTOU"), (23, "URG"), (24, "XCPU"), (25, "XFSZ"), (26, "VTALRM"),
    (27, "PROF"), (28, "WINCH"), (29, "IO"), (30, "PWR"), (31, "SYS")]

def text : Exit → String
  | code 0 => "ok"
  | code n => "exit status: " ++ toString n
  | signal n =>
    "signal: " ++ toString n ++
      match signals.lookup n with
      | some name => " (SIG" ++ name ++ ")"
      | none => ""

end Exit

end InlineRemote
