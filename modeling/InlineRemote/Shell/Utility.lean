import InlineRemote.Shell.Utility.Checksum
import InlineRemote.Shell.Utility.Columns
import InlineRemote.Shell.Utility.Compare
import InlineRemote.Shell.Utility.Copy
import InlineRemote.Shell.Utility.Encode
import InlineRemote.Shell.Utility.Grep
import InlineRemote.Shell.Utility.Join
import InlineRemote.Shell.Utility.Lines
import InlineRemote.Shell.Utility.Listing
import InlineRemote.Shell.Utility.Sed
import InlineRemote.Shell.Utility.Sort
import InlineRemote.Shell.Utility.System
import InlineRemote.Shell.Utility.Values

/-! # The programs of a common system

A program is found by its name.  One that no script has a use for does nothing; it succeeds if it
is asked for help, and otherwise refuses its words with a status of its own. -/
namespace InlineRemote.Shell

namespace Utility

/-- The programs that read and write lines. -/
def ofLines? (name : String) : Option (Call → Act Nat) :=
  match name with
  | "base32" => some (encoded .five)
  | "base64" => some (encoded .six)
  | "cat" => some concatenate
  | "cmp" => some firstDifference
  | "comm" => some common
  | "cut" => some cut
  | "diff" => some difference
  | "egrep" | "fgrep" | "grep" => some grep
  | "expand" => some expandTabs
  | "fold" => some foldLines
  | "head" => some first
  | "join" => some join
  | "nl" => some number
  | "od" => some dump
  | "paste" => some paste
  | "rev" => some mirror
  | "sed" => some sed
  | "shuf" => some shuffle
  | "sort" => some sort
  | "tac" => some backwards
  | "tail" => some last
  | "tee" => some copyOut
  | "tr" => some translate
  | "uniq" => some unique
  | "wc" => some count
  | _ => none

/-- The programs for files. -/
def ofFiles? (name : String) : Option (Call → Act Nat) :=
  match name with
  | "chgrp" | "chown" => some changeOwner
  | "chmod" => some changeRights
  | "cp" => some copy
  | "dd" => some copyPart
  | "install" => some install
  | "link" | "ln" => some link
  | "dir" | "ls" | "vdir" => some list
  | "mkdir" => some makeDirectories
  | "mkfifo" => some makePipes
  | "mktemp" => some makeTemporary
  | "mountpoint" => some mountPoint
  | "mv" => some move
  | "readlink" => some readLink
  | "realpath" => some realPath
  | "rm" => some remove
  | "rmdir" => some removeDirectories
  | "stat" => some stat
  | "touch" => some touch
  | "truncate" => some truncate
  | "unlink" => some unlinkOne
  | _ => none

def ofSums? (name : String) : Option (Call → Act Nat) :=
  if name = "cksum" then some remainderSum
  else if name = "sum" then some oldSum
  else if digests.any fun e => e.1 ++ "sum" = name then some digestSum
  else none

/-- The programs for values and facts. -/
def ofFacts? (name : String) : Option (Call → Act Nat) :=
  match name with
  | "[" | "test" => some test
  | "arch" => some (constant "x86_64\n" 0)
  | "basename" => some basename
  | "date" => some date
  | "dirname" => some dirname
  | "echo" => some echo
  | "expr" => some expr
  | "factor" => some factor
  | "false" => some fun _ => return 1
  | "getconf" => some configuration
  | "getent" => some entries
  | "getopt" => some orderOptions
  | "groups" => some groups
  | "hostid" => some (constant "007f0100\n" 0)
  | "hostname" => some hostName
  | "id" => some identity
  | "kill" => some kill
  | "logname" => some loginName
  | "nproc" => some processors
  | "printenv" => some environment
  | "printf" => some printf
  | "ps" => some processes
  | "pwd" => some directory
  | "seq" => some seq
  | "sleep" => some sleep
  | "true" => some fun _ => return 0
  | "tty" => some terminal
  | "uname" => some systemName
  | "users" | "who" => some (constant "" 0)
  | "which" => some which
  | "whoami" => some (constant "root\n" 0)
  | "yes" => some yes
  | _ => none

def refusals : List (String × Nat) :=
  [("apt", 100), ("apt-get", 100), ("chage", 2), ("chsh", 2), ("dpkg", 2), ("expiry", 2),
    ("groupadd", 2), ("ldconfig", 0), ("more", 0), ("passwd", 6), ("perl", 2), ("reset", 10),
    ("script", 0), ("start-stop-daemon", 3), ("sync", 0), ("sysctl", 0), ("tar", 2), ("tput", 2),
    ("umount", 32), ("useradd", 2), ("userdel", 2), ("usermod", 2)]

def refuse (c : Call) : Act Nat :=
  return (refusals.lookup c.name).getD 1

def asksForHelp (c : Call) : Bool :=
  !(["[", "echo", "expr", "false", "kill", "printf", "test", "true", "which"].contains c.name) &&
    (c.words.head? = some "--help" || c.words.head? = some "--version")

def run (c : Call) : Act Nat :=
  if asksForHelp c then c.print ("Usage: " ++ c.name ++ " [OPTION]...\n") 0
  else
    match (((ofLines? c.name).or (ofFiles? c.name)).or (ofSums? c.name)).or (ofFacts? c.name) with
    | some act => act c
    | none => refuse c

end Utility

end InlineRemote.Shell
