import ServiceWiring.Command
import ServiceWiring.Host.Digest.Basic
import ServiceWiring.Text.Number

/-!
# Programs

The programs that a machine brings along, and how programs end.
-/

namespace ServiceWiring

/-- A program that a machine brings along. -/
inductive Tool where
  /-- Writes the kind of the machine. -/
  | arch
  /-- Runs rules over records. -/
  | awk
  /-- Writes octets in base 32. -/
  | base32
  /-- Writes octets in base 64. -/
  | base64
  /-- Writes the last name of a path. -/
  | basename
  /-- Writes octets in a base that is asked for. -/
  | basenc
  /-- Writes what it reads, or files. -/
  | cat
  /-- Changes who may run a file. -/
  | chmod
  /-- Gives files to users and groups. -/
  | chown
  /-- Writes remainders of files. -/
  | cksum
  /-- Compares two files. -/
  | cmp
  /-- Writes the lines that two files have in common. -/
  | comm
  /-- Copies files. -/
  | cp
  /-- Writes parts of lines. -/
  | cut
  /-- Copies blocks. -/
  | dd
  /-- Tells in which lines files differ. -/
  | diff
  /-- Writes digests of files. -/
  | digest (d : Digest)
  /-- Writes the directory of a path. -/
  | dirname
  /-- Writes its arguments. -/
  | echo
  /-- Starts a program in another environment. -/
  | env
  /-- Writes blanks in the place of tabs. -/
  | expand
  /-- Writes the value of an expression. -/
  | expr
  /-- Writes prime factors of numbers. -/
  | factor
  /-- Does nothing and fails. -/
  | fail
  /-- Looks for files. -/
  | find
  /-- Breaks paragraphs anew. -/
  | fmt
  /-- Breaks long lines. -/
  | fold
  /-- Writes the lines that match an expression. -/
  | grep
  /-- Writes the groups of users. -/
  | groups
  /-- Writes the first part of what it reads. -/
  | head
  /-- Writes octets in another character set. -/
  | iconv
  /-- Writes numbers and names of users. -/
  | id
  /-- Puts copies of files in their places. -/
  | install
  /-- Joins lines of two files that agree in a field. -/
  | join
  /-- Gives a file another name. -/
  | link
  /-- Writes who is logged in. -/
  | listUsers
  /-- Makes links. -/
  | ln
  /-- Writes the name that the user logged in by. -/
  | logname
  /-- Writes the names in directories. -/
  | ls
  /-- Makes directories. -/
  | mkdir
  /-- Makes a file with a name of its own. -/
  | mktemp
  /-- Shows files page by page. -/
  | more
  /-- Moves files. -/
  | mv
  /-- Starts a program with another claim on the processor. -/
  | nice
  /-- Numbers lines. -/
  | nl
  /-- Starts a program that goes on without a terminal. -/
  | nohup
  /-- Writes numbers in one way. -/
  | numfmt
  /-- Writes octets as numbers. -/
  | od
  /-- Packs files. -/
  | pack
  /-- Joins lines of several files. -/
  | paste
  /-- Writes the environment. -/
  | printenv
  /-- Writes its arguments in a format. -/
  | printf
  /-- Writes an index of words. -/
  | ptx
  /-- Writes the working directory. -/
  | pwd
  /-- Writes what links hold. -/
  | readlink
  /-- Writes the real paths of files. -/
  | realpath
  /-- Writes each line from its end to its start. -/
  | rev
  /-- Removes files. -/
  | rm
  /-- Removes directories. -/
  | rmdir
  /-- Edits lines. -/
  | sed
  /-- Writes numbers. -/
  | seq
  /-- Starts a program on a machine of another kind. -/
  | setarch
  /-- Starts a program in a session of its own. -/
  | setsid
  /-- Runs scripts. -/
  | shell
  /-- Waits. -/
  | sleep
  /-- Sorts lines. -/
  | sort
  /-- Cuts a file into several. -/
  | split
  /-- Writes what files are. -/
  | stat
  /-- Starts a program with other buffers. -/
  | stdbuf
  /-- Does nothing and succeeds. -/
  | succeed
  /-- Writes sums of files. -/
  | sum
  /-- Makes sure that files are on the disk. -/
  | sync
  /-- Writes lines from the last to the first. -/
  | tac
  /-- Writes the last part of what it reads. -/
  | tail
  /-- Writes what it reads to files as well. -/
  | tee
  /-- Tells whether a condition holds. -/
  | test
  /-- Starts a program that has so much time. -/
  | timeout
  /-- Makes files that do not exist. -/
  | touch
  /-- Replaces or deletes characters. -/
  | tr
  /-- Makes files longer or shorter. -/
  | truncate
  /-- Puts names in an order that keeps relations. -/
  | tsort
  /-- Writes the name of the terminal. -/
  | tty
  /-- Writes what the system is called. -/
  | uname
  /-- Writes tabs in the place of blanks. -/
  | unexpand
  /-- Drops repeated lines. -/
  | uniq
  /-- Removes one file. -/
  | unlink
  /-- Unpacks files. -/
  | unpack
  /-- Writes what packed files hold. -/
  | unpackOut
  /-- Counts lines, words and characters. -/
  | wc
  /-- Writes where programs are. -/
  | which
  /-- Writes the name of the user. -/
  | whoami
  /-- Starts a program with arguments that it reads. -/
  | xargs
deriving DecidableEq, Repr

namespace Tool

/-- All programs. -/
def all : List Tool :=
  [arch, awk, base32, base64, basename, basenc, cat, chmod, chown, cksum, cmp, comm, cp, cut, dd,
    diff, digest .md5, digest .sha1, digest .sha224, digest .sha256, digest .sha384,
    digest .sha512, digest .blake2, dirname, echo, env, expand, expr, factor, fail, find, fmt,
    fold, grep, groups, head, iconv, id, install, join, link, listUsers, ln, logname, ls, mkdir,
    mktemp, more, mv, nice, nl, nohup, numfmt, od, pack, paste, printenv, printf, ptx, pwd,
    readlink, realpath, rev, rm, rmdir, sed, seq, setarch, setsid, shell, sleep, sort, split,
    stat, stdbuf, succeed, sum, sync, tac, tail, tee, test, timeout, touch, tr, truncate, tsort,
    tty, uname, unexpand, uniq, unlink, unpack, unpackOut, wc, which, whoami, xargs]

/-- The names that a program goes by. -/
def calledBy : Tool → List Text
  | arch => ["arch"]
  | awk => ["awk", "mawk", "nawk"]
  | base32 => ["base32"]
  | base64 => ["base64"]
  | basename => ["basename"]
  | basenc => ["basenc"]
  | cat => ["cat"]
  | chmod => ["chmod"]
  | chown => ["chown", "chgrp"]
  | cksum => ["cksum"]
  | cmp => ["cmp"]
  | comm => ["comm"]
  | cp => ["cp"]
  | cut => ["cut"]
  | dd => ["dd"]
  | diff => ["diff"]
  | digest .md5 => ["md5sum", "md5sum.textutils"]
  | digest .sha1 => ["sha1sum"]
  | digest .sha224 => ["sha224sum"]
  | digest .sha256 => ["sha256sum"]
  | digest .sha384 => ["sha384sum"]
  | digest .sha512 => ["sha512sum"]
  | digest .blake2 => ["b2sum"]
  | dirname => ["dirname"]
  | echo => ["echo"]
  | env => ["env"]
  | expand => ["expand"]
  | expr => ["expr"]
  | factor => ["factor"]
  | fail => ["false"]
  | find => ["find"]
  | fmt => ["fmt"]
  | fold => ["fold"]
  | grep => ["grep", "egrep", "fgrep", "rgrep"]
  | groups => ["groups"]
  | head => ["head"]
  | iconv => ["iconv"]
  | id => ["id"]
  | install => ["install"]
  | join => ["join"]
  | link => ["link"]
  | listUsers => ["users", "who"]
  | ln => ["ln"]
  | logname => ["logname"]
  | ls => ["ls"]
  | mkdir => ["mkdir"]
  | mktemp => ["mktemp"]
  | more => ["more"]
  | mv => ["mv"]
  | nice => ["nice"]
  | nl => ["nl"]
  | nohup => ["nohup"]
  | numfmt => ["numfmt"]
  | od => ["od"]
  | pack => ["gzip"]
  | paste => ["paste"]
  | printenv => ["printenv"]
  | printf => ["printf"]
  | ptx => ["ptx"]
  | pwd => ["pwd"]
  | readlink => ["readlink"]
  | realpath => ["realpath"]
  | rev => ["rev"]
  | rm => ["rm"]
  | rmdir => ["rmdir"]
  | sed => ["sed"]
  | seq => ["seq"]
  | setarch => ["setarch", "i386", "linux32", "linux64", "x86_64"]
  | setsid => ["setsid"]
  | shell => ["sh", "bash", "dash"]
  | sleep => ["sleep"]
  | sort => ["sort"]
  | split => ["split"]
  | stat => ["stat"]
  | stdbuf => ["stdbuf"]
  | succeed => ["true"]
  | sum => ["sum"]
  | sync => ["sync"]
  | tac => ["tac"]
  | tail => ["tail"]
  | tee => ["tee"]
  | test => ["test", "["]
  | timeout => ["timeout"]
  | touch => ["touch"]
  | tr => ["tr"]
  | truncate => ["truncate"]
  | tsort => ["tsort"]
  | tty => ["tty"]
  | uname => ["uname"]
  | unexpand => ["unexpand"]
  | uniq => ["uniq"]
  | unlink => ["unlink"]
  | unpack => ["gunzip", "uncompress"]
  | unpackOut => ["zcat"]
  | wc => ["wc"]
  | which => ["which"]
  | whoami => ["whoami"]
  | xargs => ["xargs"]

/-- The programs by their names. -/
def names : List (Text × Tool) := all.flatMap fun t => t.calledBy.map (·, t)

/-- What the file of a program starts with. -/
def magic : Octets := [0x7F, 0x45, 0x4C, 0x46]

/-- The file of a program. All that it tells is which program it is. -/
def fileOf (name : Text) : Node := .file (magic ++ Utf8.nameOctets name) true

/-- The program of a file that holds the given octets. -/
def ofContent? (o : Octets) : Option Tool :=
  if magic.isPrefixOf o then names.lookup (Utf8.decodeName (o.drop magic.length)) else none

/-- The disk with the programs in a directory. -/
def installAll (d : Disk) (directory : Place) : Disk :=
  names.foldl (fun d (name, _) => d.put (directory ++ [Utf8.nameOctets name]) (fileOf name)) d

end Tool

/-- What is said about signals from one on that end a program. -/
def signalReasons : List Text :=
  ["Hangup", "Interrupt", "Quit", "Illegal instruction", "Trace/breakpoint trap", "Aborted",
    "Bus error", "Floating point exception", "Killed", "User defined signal 1",
    "Segmentation fault", "User defined signal 2", "Broken pipe", "Alarm clock", "Terminated",
    "Stack fault", "Child exited", "Continued", "Stopped (signal)", "Stopped",
    "Stopped (tty input)", "Stopped (tty output)", "Urgent I/O condition",
    "CPU time limit exceeded", "File size limit exceeded", "Virtual timer expired",
    "Profiling timer expired", "Window changed", "I/O possible", "Power failure",
    "Bad system call"]

/-- What is said about a signal that ended a program. -/
def signalReason (signal : Nat) : Text :=
  match signalReasons[signal - 1]? with
  | some reason => reason
  | none =>
    if 34 ≤ signal then "Real-time signal " ++ Text.ofNat (signal - 34)
    else "Unknown signal " ++ Text.ofNat signal

/-- Whether a program that takes no care of a signal goes on in spite of it. -/
def isHarmless (signal : Nat) : Bool := ([0, 17, 18, 23, 28] : List Nat).contains signal

end ServiceWiring
