import InlineRemote.Files.Path
import InlineRemote.Shell.Disk

/-! # The system that commands run on

A system has a disk, some of whose files are programs.  A program is named by a path, or by a name
that is looked for in the directories of a search path. -/
namespace InlineRemote.Shell

/-- A system. -/
structure Host where
  disk : Disk
  /-- The exported variables that commands start with. -/
  environment : List (String × String)
  /-- The directory that commands start in. -/
  directory : Place
  /-- The number of the process that runs a command. -/
  process : Nat
  /-- The time at which it starts, in microseconds. -/
  time : Nat
  deriving Repr

def pathOf (p : Place) : String :=
  "/" ++ "/".intercalate p

namespace Host

def directories (path : String) : List String :=
  (path.toList.splitOn ':').map String.ofList

def exporting (h : Host) (name : String) (value : Option String) : Host :=
  let others := h.environment.filter (·.1 ≠ name)
  { h with environment := (value.map (name, ·)).toList ++ others }

def programs : List String :=
  ["bash", "dash", "[", "arch", "b2sum", "base32", "base64", "basename", "cat", "chgrp", "chmod",
    "chown", "cksum", "comm", "cp", "csplit", "cut", "date", "dd", "df", "dir", "dirname", "du",
    "echo", "env", "expand", "expr", "factor", "false", "fmt", "fold", "groups", "head", "hostid",
    "id", "install", "join", "link", "ln", "logname", "ls", "md5sum", "mkdir", "mkfifo", "mknod",
    "mktemp", "mv", "nice", "nl", "nohup", "nproc", "numfmt", "od", "paste", "pathchk", "pr",
    "printenv", "printf", "pwd", "readlink", "realpath", "rm", "rmdir", "seq", "sha1sum",
    "sha224sum", "sha256sum", "sha384sum", "sha512sum", "shred", "shuf", "sleep", "sort", "split", "stat", "stdbuf", "stty",
    "sum", "sync", "tac", "tail", "tee", "test", "timeout", "touch", "tr", "true", "truncate",
    "tsort", "tty", "uname", "unexpand", "uniq", "unlink", "users", "vdir", "wc", "who", "whoami",
    "yes", "run-parts", "tempfile", "which", "cmp", "diff", "find", "xargs", "egrep", "fgrep",
    "grep", "gunzip", "gzip", "zcat", "hostname", "login", "mawk", "clear", "tput", "reset",
    "free", "kill", "pgrep", "pidwait", "ps", "top", "uptime", "vmstat", "watch", "sed", "tar",
    "dmesg", "flock", "getopt", "ionice", "last", "mcookie", "more", "mountpoint", "namei", "rev",
    "setpriv", "setsid", "su", "taskset", "whereis", "logger", "renice", "script", "getconf",
    "getent", "iconv", "ldd", "locale", "chage", "chsh", "expiry", "passwd", "perl", "apt",
    "apt-get", "dpkg", "mount", "umount", "chattr", "lsattr", "col", "column", "look", "ul"]

def ownPrograms : List String :=
  ["chroot", "sysctl", "agetty", "fsck", "mkfs", "runuser", "sulogin", "ldconfig", "useradd",
    "userdel", "usermod", "groupadd", "pidof", "killall5", "start-stop-daemon", "nologin"]

def directoriesThere : List (String × Nat) :=
  ["/usr", "/usr/bin", "/usr/sbin", "/usr/lib", "/usr/lib64", "/usr/include", "/usr/local",
    "/usr/local/bin", "/usr/local/etc", "/usr/local/lib", "/usr/local/sbin", "/usr/local/share",
    "/usr/share", "/usr/src", "/boot", "/dev", "/dev/pts", "/etc", "/etc/alternatives", "/etc/apt",
    "/etc/default", "/etc/init.d", "/etc/profile.d", "/etc/skel", "/etc/ssl", "/home", "/media",
    "/mnt", "/opt", "/proc/1", "/proc/self", "/run", "/srv", "/sys/class", "/sys/kernel", "/var",
    "/var/cache", "/var/lib", "/var/log", "/var/mail", "/var/opt", "/var/run", "/var/spool",
    "/dev/fd"].map (·, 493) ++
  [("/tmp", 1023), ("/var/tmp", 1023), ("/dev/shm", 1023), ("/root", 448)]

def linksThere : List (String × String) :=
  [("/bin", "usr/bin"), ("/sbin", "usr/sbin"), ("/lib", "usr/lib"), ("/lib64", "usr/lib64"),
    ("/usr/bin/sh", "dash"), ("/usr/bin/rbash", "bash"), ("/usr/bin/pkill", "pgrep"),
    ("/usr/bin/awk", "/etc/alternatives/awk"), ("/etc/alternatives/awk", "/usr/bin/mawk"),
    ("/usr/bin/nawk", "/etc/alternatives/awk"), ("/usr/bin/rgrep", "grep")]

/-- Files of a common system that are no programs. -/
def filesThere : List (String × String) :=
  [("/etc/passwd",
      "root:x:0:0:root:/root:/bin/bash\ndaemon:x:1:1:daemon:/usr/sbin:/usr/sbin/nologin\n" ++
      "bin:x:2:2:bin:/bin:/usr/sbin/nologin\nsys:x:3:3:sys:/dev:/usr/sbin/nologin\n" ++
      "nobody:x:65534:65534:nobody:/nonexistent:/usr/sbin/nologin\n"),
    ("/etc/group", "root:x:0:\ndaemon:x:1:\nbin:x:2:\nsys:x:3:\nnogroup:x:65534:\n"),
    ("/etc/shadow", "root:*:19800:0:99999:7:::\n"), ("/etc/hostname", "localhost\n"),
    ("/etc/hosts", "127.0.0.1 localhost\n"),
    ("/etc/shells", "# /etc/shells: valid login shells\n/bin/sh\n/usr/bin/sh\n/bin/bash\n" ++
      "/usr/bin/bash\n/bin/rbash\n/usr/bin/rbash\n/usr/bin/dash\n"),
    ("/etc/os-release", "NAME=\"Ubuntu\"\nID=ubuntu\nID_LIKE=debian\n"),
    ("/etc/profile", "# /etc/profile\n"), ("/etc/resolv.conf", "nameserver 127.0.0.1\n"),
    ("/etc/fstab", "# /etc/fstab\n"), ("/etc/environment", ""), ("/etc/services", "ssh 22/tcp\n"),
    ("/etc/protocols", "ip 0 IP\n"), ("/etc/debian_version", "trixie/sid\n"),
    ("/etc/nsswitch.conf", "passwd: files\n"), ("/etc/bash.bashrc", "# bash\n"),
    ("/proc/cpuinfo", ""), ("/proc/meminfo", ""), ("/proc/version", ""), ("/proc/uptime", ""),
    ("/proc/mounts", ""), ("/proc/self/status", "")]

def devicesThere : List (String × Device) :=
  [("/dev/null", .nothing), ("/dev/full", .full), ("/dev/zero", .zeros), ("/dev/random", .noise),
    ("/dev/urandom", .noise), ("/dev/tty", .terminal), ("/dev/stdin", .stream 0),
    ("/dev/stdout", .stream 1), ("/dev/stderr", .stream 2)] ++
  (List.range 64).map fun n => ("/dev/fd/" ++ toString n, .stream n)

def commonDisk : Disk :=
  let d := (directoriesThere ++ [("/proc", 365), ("/sys", 365)]).foldl
    (fun d (path, mode) => Disk.lay .directory mode d path) Disk.empty
  let d := programs.foldl (fun d name =>
    Disk.lay (.program name) (if name = "su" ∨ name = "passwd" then 2541 else 493) d
      ("/usr/bin/" ++ name)) d
  let d := ownPrograms.foldl (fun d name =>
    Disk.lay (.program name) 493 d ("/usr/sbin/" ++ name)) d
  let d := linksThere.foldl (fun d (path, target) => Disk.lay (.link target) 511 d path) d
  let d := filesThere.foldl (fun d (path, text) =>
    Disk.lay (.file text) (if path = "/etc/shadow" then 416 else 420) d path) d
  devicesThere.foldl (fun d (path, device) => Disk.lay (.device device) 438 d path) d

def common : Host where
  disk := commonDisk
  environment :=
    [("HOME", "/root"),
      ("PATH", "/usr/local/sbin:/usr/local/bin:/usr/sbin:/usr/bin:/sbin:/bin")]
  directory := ["tmp"]
  process := 4000
  time := 1760000000000000

end Host

end InlineRemote.Shell
