import Signoff.Shell.Utility.Calendar
import Signoff.Shell.Utility.Columns
import Signoff.Shell.Utility.Compare
import Signoff.Shell.Utility.Copy
import Signoff.Shell.Utility.Digest
import Signoff.Shell.Utility.Edit
import Signoff.Shell.Utility.Expression
import Signoff.Shell.Utility.Join
import Signoff.Shell.Utility.Order
import Signoff.Shell.Utility.Search
import Signoff.Shell.Utility.Sequence
import Signoff.Shell.Utility.System

/-!
# The utilities by their names

Utilities that call no other command.
-/

namespace Signoff.Shell.Utility

/-- What the utility of a name makes of its arguments and what it finds. -/
def run? (name : String) (d : Desk) (args : List Octets) : Option Ended :=
  match name with
  | "true" => some (d.done [] 0)
  | "false" => some (d.done [] 1)
  | "sync" => some (d.done [] 0)
  | "echo" => some (echo d args)
  | "printf" => some (printf d args)
  | "test" => some (test d false args)
  | "[" => some (test d true args)
  | "cat" => some (cat d args)
  | "head" => some (ends d "head" headExtent? args)
  | "tail" => some (ends d "tail" tailExtent? args)
  | "wc" => some (wc d args)
  | "tac" => some (tac d args)
  | "rev" => some (rev d args)
  | "nl" => some (nl d args)
  | "fold" => some (foldLines d args)
  | "tee" => some (tee d args)
  | "seq" => some (seq d args)
  | "yes" => some (yes d args)
  | "od" => some (dump d args)
  | "cut" => some (cut d args)
  | "paste" => some (paste d args)
  | "tr" => some (tr d args)
  | "sort" => some (sort d args)
  | "uniq" => some (uniq d args)
  | "comm" => some (comm d args)
  | "grep" => some (grepWith [] d args)
  | "egrep" => some (grepWith ['E'] d args)
  | "fgrep" => some (grepWith ['F'] d args)
  | "sed" => some (sed d args)
  | "expr" => some (expr d args)
  | "cmp" => some (cmp d args)
  | "diff" => some (diff d args)
  | "basename" => some (basename d args)
  | "dirname" => some (dirname d args)
  | "ls" => some (ls d args)
  | "touch" => some (touch d args)
  | "mkdir" => some (mkdir d args)
  | "rmdir" => some (rmdir d args)
  | "rm" => some (rm d args)
  | "cp" => some (cp d args)
  | "mv" => some (mv d args)
  | "uname" => some (uname d args)
  | "whoami" => some (tell "whoami" "root" d args)
  | "pwd" => some (pwd d args)
  | "id" => some (identity d args)
  | "hostname" => some (d.done (octets "localhost\n") 0)
  | "which" => some (which d args)
  | "realpath" => some (realpath d args)
  | "readlink" => some (readlink d args)
  | "stat" => some (stat d args)
  | "truncate" => some (truncate d args)
  | "date" => some (date d args)
  | "md5sum" => some (digests d "md5sum" "MD5" Digest.first args)
  | "sha1sum" => some (digests d "sha1sum" "SHA1" Digest.second args)
  | "sha256sum" => some (digests d "sha256sum" "SHA256" Digest.third args)
  | "cksum" => some (cksum d args)
  | "base64" => some (base64 d args)
  | "join" => some (join d args)
  | "expand" => some (expand d args)
  | "split" => some (split d args)
  | "dd" => some (dd d args)
  | "ln" => some (ln d args)
  | "factor" => some (factor d args)
  | "arch" => some (tell "arch" "x86_64" d args)
  | "nproc" => some (nproc d args)
  | "tty" => some (tty d args)
  | _ => none

end Signoff.Shell.Utility
