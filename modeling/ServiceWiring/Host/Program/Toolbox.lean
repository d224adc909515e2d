import ServiceWiring.Host.Program.Characters
import ServiceWiring.Host.Program.Charsets
import ServiceWiring.Host.Program.Comparison
import ServiceWiring.Host.Program.Digests
import ServiceWiring.Host.Program.Dump
import ServiceWiring.Host.Program.Editor.Run
import ServiceWiring.Host.Program.Encoding
import ServiceWiring.Host.Program.Finding
import ServiceWiring.Host.Program.Identity
import ServiceWiring.Host.Program.Joining
import ServiceWiring.Host.Program.Keywords
import ServiceWiring.Host.Program.Numbers
import ServiceWiring.Host.Program.Packing
import ServiceWiring.Host.Program.Paragraphs
import ServiceWiring.Host.Program.Places
import ServiceWiring.Host.Program.Search
import ServiceWiring.Host.Program.Sorting
import ServiceWiring.Host.Program.Values

/-!
# The programs of a machine

What each program does with its arguments, for those programs that start no others.
-/

namespace ServiceWiring.Tool

open Program

/-- What a program does that was called by a name with arguments; the result is its status. Programs
that start other ones are not among these. -/
def run? (t : Tool) (name : Text) (args : List Text) : Option (ProcessM Nat) :=
  match t with
  | arch => some (Program.arch name args)
  | base32 => some (Program.base32 name args)
  | base64 => some (Program.base64 name args)
  | basename => some (Program.basename name args)
  | basenc => some (Program.basenc name args)
  | cat => some (Program.cat name args)
  | chmod => some (Program.chmod name args)
  | chown => some (Program.chown name args)
  | cksum => some (Program.cksum name args)
  | cmp => some (Program.cmp name args)
  | comm => some (Program.comm name args)
  | cp => some (Program.cp name args)
  | cut => some (Program.cut name args)
  | dd => some (Program.dd name args)
  | diff => some (Program.diff name args)
  | digest d => some (Program.digest name d args)
  | dirname => some (Program.dirname name args)
  | echo => some (do
      ProcessM.put (Printing.programEcho args)
      return 0)
  | expand => some (Program.expand name args)
  | expr => some (Program.expr name args)
  | factor => some (Program.factor name args)
  | fail => some (return 1)
  | fmt => some (Program.fmt name args)
  | fold => some (Program.fold name args)
  | grep => some (Program.grep name args)
  | groups => some (Program.groups name args)
  | head => some (Program.head name args)
  | iconv => some (Program.iconv name args)
  | id => some (Program.id name args)
  | install => some (Program.install name args)
  | join => some (Program.join name args)
  | link => some (Program.link name args)
  | listUsers => some (Program.listUsers name args)
  | ln => some (Program.ln name args)
  | logname => some (Program.logname name args)
  | ls => some (Program.ls name args)
  | mkdir => some (Program.mkdir name args)
  | mktemp => some (Program.mktemp name args)
  | more => some (Program.more name args)
  | mv => some (Program.mv name args)
  | nl => some (Program.nl name args)
  | numfmt => some (Program.numfmt name args)
  | od => some (Program.od name args)
  | pack => some (Program.gzip [] args)
  | paste => some (Program.paste name args)
  | printenv => some (Program.printenv name args)
  | printf => some (Program.printf name args)
  | ptx => some (Program.ptx name args)
  | pwd => some Program.pwd
  | readlink => some (Program.readlink name args)
  | realpath => some (Program.realpath name args)
  | rev => some (Program.rev name args)
  | rm => some (Program.rm name args)
  | rmdir => some (Program.rmdir name args)
  | sed => some (Program.sed name args)
  | seq => some (Program.seq name args)
  | sleep => some (Program.sleep name args)
  | sort => some (Program.sort name args)
  | split => some (Program.split name args)
  | stat => some (Program.stat name args)
  | succeed => some (return 0)
  | sum => some (Program.sum name args)
  | sync => some (Program.sync name args)
  | tac => some (Program.tac name args)
  | tail => some (Program.tail name args)
  | tee => some (Program.tee name args)
  | test => some (Program.test name args)
  | touch => some (Program.touch name args)
  | tr => some (Program.tr name args)
  | truncate => some (Program.truncate name args)
  | tsort => some (Program.tsort name args)
  | tty => some (Program.tty name args)
  | uname => some (Program.uname name args)
  | unexpand => some (Program.unexpand name args)
  | uniq => some (Program.uniq name args)
  | unlink => some (Program.unlink name args)
  | unpack => some (Program.gzip ["-d"] args)
  | unpackOut => some (Program.gzip ["-dc"] args)
  | wc => some (Program.wc name args)
  | which => some (Program.which name args)
  | whoami => some (Program.whoami name args)
  | awk | env | find | nice | nohup | setarch | setsid | shell | stdbuf | timeout | xargs => none

end ServiceWiring.Tool
