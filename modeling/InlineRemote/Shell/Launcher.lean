import InlineRemote.Shell.Launcher.Change
import InlineRemote.Shell.Launcher.Words

/-! # Programs that run programs

Some programs change how a process is, and then become another program; others start programs and
wait for them.  How programs are run is given to them. -/
namespace InlineRemote.Shell

namespace Launcher

def run? (k : Starter) (name : String) : Option (Call → Act Nat) :=
  match name with
  | "chroot" => some (belowRoot k)
  | "env" => some (withVariables k)
  | "flock" => some (whileLocked k)
  | "ionice" => some fun c => do
    if c.words = [] then return ← c.print "none: prio 0\n" 0
    plainly "c:n:t" [("class", 'c', true), ("classdata", 'n', true)] false 1 k c
  | "nice" => some (withCourtesy k)
  | "nohup" => some (withoutHangup k)
  | "setpriv" => some (plainly "d" [("nnp", 'n', false), ("no-new-privs", 'n', false),
      ("reuid", 'r', true), ("regid", 'g', true), ("clear-groups", 'c', false)] false 1 k)
  | "setsid" => some (plainly "cfw" [("wait", 'w', false), ("fork", 'f', false)] false 1 k)
  | "stdbuf" => some (plainly "i:o:e:" [("input", 'i', true), ("output", 'o', true),
      ("error", 'e', true)] true 125 k)
  | "runuser" | "su" => some (asUser k)
  | "taskset" => some (onProcessors k)
  | "timeout" => some (withLimit k)
  | "xargs" => some (withWords k)
  | _ => none

end Launcher

end InlineRemote.Shell
