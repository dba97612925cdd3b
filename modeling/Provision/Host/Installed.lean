import Provision.Disk.Files

namespace Provision

/-!
# A fresh system

What every system has before anything is written to its disk: the directories
it is laid out in, its devices, and its programs.
-/

/-- The bytes that a machine program starts with. -/
def machineMark : Bytes := [0x7F, 0x45, 0x4C, 0x46]

/-- A file with a machine program, which is told by its name. -/
def Node.machineProgram (name : String) : Node :=
  .file (machineMark ++ Utf8.encode name.toList) 0o755

/-- The name of the machine program that is the contents of a file. -/
def machineProgram? (content : Bytes) : Option String :=
  if machineMark.isPrefixOf content then
    some (String.ofList (Utf8.decodeLossy (content.drop machineMark.length)))
  else
    none

namespace Disk

/-- Names of a system's programs. -/
def programNames : List String := [
  "[", "addpart", "arch", "b2sum", "base32", "base64", "basename", "basenc", "bash", "cat",
  "chcon", "chgrp", "chmod", "choom", "chown", "chrt", "cksum", "cmp", "comm", "cp", "csplit",
  "cut", "dash", "date", "dd", "deb-systemd-helper", "df", "diff", "diff3", "dir", "dircolors",
  "dirname", "dmesg", "dpkg", "du", "echo", "egrep", "env", "expand", "expr", "factor",
  "fallocate", "false", "fgrep", "find", "findmnt", "flock", "fmt", "fold", "getopt", "grep",
  "groups", "gunzip", "gzip", "head", "hostid", "hostname", "id", "install", "ionice", "join",
  "last", "link", "ln", "logger", "logname", "ls", "lsblk", "lscpu", "mawk", "mcookie",
  "md5sum", "mesg", "mkdir", "mkfifo", "mknod", "mktemp", "more", "mount", "mountpoint", "mv",
  "namei", "nice", "nl", "nohup", "nproc", "nsenter", "numfmt", "od", "paste", "pathchk",
  "perl", "pinky", "pr", "printenv", "printf", "ptx", "pwd", "readlink", "realpath", "renice",
  "rev", "rm", "rmdir", "run-parts", "runcon", "savelog", "script", "sdiff", "sed", "seq",
  "setarch", "setpriv", "setsid", "setterm", "sha1sum", "sha224sum", "sha256sum", "sha384sum",
  "sha512sum", "shred", "shuf", "sleep", "sort", "split", "stat", "stdbuf", "stty", "su",
  "sum", "sync", "tac", "tail", "tar", "taskset", "tee", "tempfile", "test", "timeout",
  "touch", "tr", "true", "truncate", "tsort", "tty", "umount", "uname", "unexpand", "uniq",
  "unlink", "unshare", "users", "vdir", "wall", "wc", "wdctl", "whereis", "which", "who",
  "whoami", "xargs", "yes", "zcat", "zgrep"
]

/-- Programs that have a second name. -/
def programLinks : List (String × String) := [
  ("awk", "mawk"),
  ("nawk", "mawk"),
  ("sh", "dash"),
  ("rbash", "bash")
]

/-- Directories of a system. -/
def systemDirectories : List (List String) := [
  ["usr"], ["usr", "bin"], ["usr", "sbin"], ["usr", "lib"], ["usr", "lib64"],
  ["usr", "include"], ["usr", "share"], ["usr", "src"], ["usr", "local"],
  ["usr", "local", "bin"], ["usr", "local", "sbin"], ["usr", "local", "lib"],
  ["boot"], ["dev"], ["dev", "pts"], ["dev", "shm"], ["etc"], ["home"], ["media"], ["mnt"],
  ["opt"], ["proc"], ["proc", "self"], ["proc", "self", "fd"], ["root"], ["run"], ["srv"],
  ["sys"], ["tmp"], ["var"], ["var", "cache"], ["var", "lib"], ["var", "log"], ["var", "tmp"]
]

/-- Links of a system. -/
def systemLinks : List (List String × String) := [
  (["bin"], "usr/bin"),
  (["sbin"], "usr/sbin"),
  (["lib"], "usr/lib"),
  (["lib64"], "usr/lib64"),
  (["dev", "fd"], "/proc/self/fd"),
  (["dev", "stdin"], "/proc/self/fd/0"),
  (["dev", "stdout"], "/proc/self/fd/1"),
  (["dev", "stderr"], "/proc/self/fd/2")
]

/-- Devices of a system. -/
def systemDevices : List (List String × Device) := [
  (["dev", "null"], .null),
  (["dev", "zero"], .zero),
  (["dev", "full"], .full),
  (["dev", "tty"], .terminal),
  (["proc", "self", "fd", "0"], .null),
  (["proc", "self", "fd", "1"], .null),
  (["proc", "self", "fd", "2"], .null)
]

/-- The location that texts name. -/
def placeOfTexts (names : List String) : Location :=
  names.map FileName.ofText

/-- The disk of a fresh system. -/
def fresh : Disk where
  nodes :=
    systemDirectories.map (fun names => (placeOfTexts names, .directory)) ++
      systemLinks.map (fun (names, target) => (placeOfTexts names, .link target)) ++
      systemDevices.map (fun (names, device) => (placeOfTexts names, .device device)) ++
      programNames.map
        (fun name => (placeOfTexts ["usr", "bin", name], .machineProgram name)) ++
      programLinks.map fun (name, program) =>
        (placeOfTexts ["usr", "bin", name], .link program)

end Disk

end Provision
