import Signoff.Shell.Octets
import Signoff.Workspace.Access

/-!
# Utilities

The small programs that scripts call. A utility reads arguments, its input and the workspace, and
gives output, complaints, a status and the workspace it leaves.
-/

namespace Signoff.Shell

/-- What a utility finds. -/
structure Desk where
  files : Workspace
  /-- The numbers of the files that may be executed. -/
  executables : List Nat
  folder : Path
  input : Octets
  /-- The size of the input if it is a file. -/
  inputSize : Option Nat
  /-- The time since the start, of which a thousand units are a millisecond. -/
  now : Nat

/-- What a utility says: output, or a complaint. -/
inductive Said
  | output (cs : Octets)
  | complaint (cs : Octets)

structure Ended where
  /-- What was said, in order. -/
  said : List Said
  status : Nat
  restOfInput : Octets
  files : Workspace

namespace Ended

def output (e : Ended) : Octets := e.said.flatMap fun x => match x with
  | .output cs => cs
  | .complaint _ => []

def complaint (e : Ended) : Octets := e.said.flatMap fun x => match x with
  | .output _ => []
  | .complaint cs => cs

/-- Says something more. -/
def say (e : Ended) (cs : Octets) : Ended :=
  if cs.isEmpty then e else { e with said := e.said ++ [.output cs] }

/-- Complains, which has no bearing on the status. -/
def warn (e : Ended) (cs : Octets) : Ended :=
  if cs.isEmpty then e else { e with said := e.said ++ [.complaint cs] }

/-- Complains with a line, and goes on with a status. -/
def fail (e : Ended) (cs : Octets) (status : Nat) : Ended :=
  { e.warn (cs ++ ['\n']) with status }

/-- A line of a complaint with the name by which a utility was called. -/
def renamed (utility called line : Octets) : Octets :=
  let hint (word : Octets) : Octets := octets "Try '" ++ word ++ octets " --help'"
  let (front, line) := if (utility ++ [':', ' ']).isPrefixOf line then
      (called ++ [':', ' '], line.drop (utility.length + 2))
    else ([], line)
  front ++ (if (hint utility).isPrefixOf line then hint called ++ line.drop (hint utility).length
    else line)

/-- The same for a utility that was called by another name, such as its path. -/
def calledAs (e : Ended) (utility called : Octets) : Ended :=
  if called = utility then e
  else
    { e with
      said := e.said.map fun x => match x with
        | .output cs => .output cs
        | .complaint cs =>
          .complaint (joined ['\n'] ((cutAt '\n' cs).map (renamed utility called))) }

end Ended

/-- Why a file cannot be had, without the number of the cause. -/
def reasonOf (fault : Fault) : String :=
  ((fault.message.splitOn " (os error").head?).getD ""

/-- The bytes of a file's content. -/
def octetsOfFile (content : ByteArray) : Octets := octetsOf content.toList

def fileContent (cs : Octets) : ByteArray := ⟨(bytesOf cs).toArray⟩

/-- A character that is not printed, as a backslash and what names it. -/
def escapedOctet? (c : Char) : Option Octets :=
  let n := c.toNat
  match c with
  | '\x07' => some "\\a".toList
  | '\x08' => some "\\b".toList
  | '\x0c' => some "\\f".toList
  | '\n' => some "\\n".toList
  | '\r' => some "\\r".toList
  | '\t' => some "\\t".toList
  | '\x0b' => some "\\v".toList
  | _ =>
    if 32 ≤ n && n < 127 then none
    else some ['\\', Nat.digitChar (n / 64), Nat.digitChar (n / 8 % 8), Nat.digitChar (n % 8)]

/-- A word between quotation marks, in which backslashes stand in front of what would end it. -/
def quoteWord (cs : Octets) : Octets :=
  '\'' :: cs.flatMap (fun c => (escapedOctet? c).getD
    (if c = '\'' || c = '\\' then ['\\', c] else [c])) ++ ['\'']

/-- A name between quotation marks, in the way the shell would read it. -/
def quoteName (name : Octets) : Octets :=
  if name.contains '\'' && !name.any fun c =>
      ['"', '$', '\\', '\x60'].contains c || (escapedOctet? c).isSome then
    '"' :: name ++ ['"']
  else '\'' :: go false name
where
  /-- The rest of a name; `escaping` says that escapes count where it starts. -/
  go (escaping : Bool) : Octets → Octets
    | [] => ['\'']
    | c :: rest => match escapedOctet? c with
      | some escape => (if escaping then [] else "'$'".toList) ++ escape ++ go true rest
      | none => (if escaping then "''".toList else []) ++
        (if c = '\'' then "'\\''".toList else [c]) ++ go false rest

/-- Characters for which a name is put between quotation marks. -/
def needsQuotes (name : Octets) : Bool :=
  name.isEmpty || name.head?.any (fun c => c == '#' || c == '~') ||
    name.any fun c => isBlankOctet c || (escapedOctet? c).isSome || [':', '!', '"', '$', '&', '\'', '(', ')', '*', ';', '<',
      '=', '>', '?', '[', '\\', '^', '\x60', '|'].contains c

def quoteIfNeeded (name : Octets) : Octets := if needsQuotes name then quoteName name else name

namespace Desk

def path (d : Desk) (name : Octets) : Path := d.folder.join ⟨textOf name⟩

def done (d : Desk) (output : Octets) (status : Nat) : Ended :=
  ⟨[.output output], status, d.input, d.files⟩

/-- Ends with a complaint alone. -/
def complain (d : Desk) (message : Octets) (status : Nat) : Ended :=
  ⟨[.complaint (message ++ ['\n'])], status, d.input, d.files⟩

/-- Complains about the way a utility was called. -/
def refuse (d : Desk) (utility : String) (message : Octets) (status : Nat) : Ended :=
  d.complain (octets utility ++ octets ": " ++ message ++
    octets s!"\nTry '{utility} --help' for more information.") status

/-- Complains of an operand that there is no use for, if there is one behind so many. -/
def refuseExtra (d : Desk) (utility : String) (status most : Nat) (operands : List Octets)
    (e : Ended) : Ended :=
  match operands.drop most with
  | [] => e
  | extra :: _ => d.refuse utility (octets "extra operand " ++ quoteWord extra) status

/-- The bytes of a file, or of the input for a hyphen. -/
def content (d : Desk) (name : Octets) : Except Fault Octets :=
  if name = ['-'] || name = "/dev/stdin".toList then .ok d.input
  else if name = "/dev/null".toList then .ok []
  else match d.files.read (d.path name) with
    | .ok bytes => .ok (octetsOfFile bytes)
    | .error fault => .error fault

/-- The input counts as used up if one of the names stands for it. -/
def inputAfter (d : Desk) (names : List Octets) : Octets :=
  if names.contains ['-'] || names.contains "/dev/stdin".toList then [] else d.input

/-- Puts the parts that utilities print one behind the other; the worst status counts. -/
def gather (d : Desk) (names : List Octets) (parts : List Ended) : Ended :=
  { said := parts.flatMap (·.said)
    status := parts.foldl (fun n e => if n < e.status then e.status else n) 0
    restOfInput := d.inputAfter names
    files := d.files }

/-- The operands, or a hyphen for none. -/
def orInput (names : List Octets) : List Octets := if names.isEmpty then [['-']] else names

/-- What a utility makes of the content of all named files together, of which those that cannot be
read are complained of. -/
def filter (d : Desk) (names : List Octets) (status : Nat) (problem : Octets → Fault → Octets)
    (f : Octets → Octets) : Ended :=
  let names := orInput names
  let whole := f (names.flatMap fun name => (d.content name).toOption.getD [])
  -- what is certain of the output stands in front of a complaint
  let (e, _, shown) := names.foldl (fun (e, text, shown) name =>
    match d.content name with
    | .ok cs => (e, text ++ cs, shown)
    | .error fault =>
      let front := f text
      let upTo := if front.isPrefixOf whole then front.length else shown
      ((Ended.say e ((whole.take upTo).drop shown)).fail (problem name fault) status, text, upTo))
    ((⟨[], 0, d.inputAfter names, d.files⟩ : Ended), [], 0)
  e.say (whole.drop shown)

/-- The same for each file on its own; all output is held back until the end. -/
def filterEach (d : Desk) (names : List Octets) (status : Nat)
    (problem : Octets → Fault → Octets) (f : Octets → Octets) : Ended :=
  let e := d.gather (orInput names) ((orInput names).map fun name => match d.content name with
    | .ok text => d.done (f text) 0
    | .error fault => d.complain (problem name fault) status)
  { e with said := [.complaint e.complaint, .output e.output] }

end Desk

/-- The usual complaint about a file. -/
def aboutFile (utility : String) (name : Octets) (fault : Fault) : Octets :=
  octets s!"{utility}: " ++ quoteIfNeeded name ++ octets s!": {reasonOf fault}"

/-- Lines with a line feed each. -/
def unlines (lines : List Octets) : Octets := lines.flatMap (· ++ ['\n'])

/-- A text and blanks in front of it up to a width. -/
def padLeft (width : Nat) (cs : Octets) : Octets := List.replicate (width - cs.length) ' ' ++ cs

/-- A number with zeros between its sign and its digits up to a width. -/
def zeroFilled (width : Nat) (cs : Octets) : Octets :=
  match cs with
  | '-' :: digits => '-' :: List.replicate (width - cs.length) '0' ++ digits
  | _ => List.replicate (width - cs.length) '0' ++ cs

/-! ## Programs of the system

The names of the programs that every system has. They lie in one folder, which has two names. -/

/-- Names under which the shell itself is called. -/
def shellNames : List String := ["sh", "dash", "bash"]

/-- The names of all other programs. -/
def utilityNames : List String :=
  ["[", "arch", "awk", "base64", "basename", "cat", "chmod", "cksum", "cmp", "comm", "cp", "cut",
    "date", "dd", "diff", "dirname", "echo", "egrep", "env", "expand", "expr", "factor", "false",
    "fgrep", "find", "fold", "grep", "head", "hostname", "id", "join", "kill", "ln", "ls", "mawk",
    "md5sum", "mkdir", "mktemp", "mv", "nice", "nl", "nohup", "nproc", "od", "paste", "printenv",
    "printf", "pwd", "readlink", "realpath", "rev", "rm", "rmdir", "sed", "seq", "sha1sum",
    "sha256sum", "sleep", "sort", "split", "stat", "sync", "tac", "tail", "tee", "test", "timeout",
    "touch", "tr", "true", "truncate", "tty", "uname", "uniq", "wc", "which", "whoami", "xargs",
    "yes"]

def isProgramName (name : String) : Bool := shellNames.contains name || utilityNames.contains name

def programFolders : List String := ["/usr/bin/", "/bin/"]

/-- The name of the program at a place of the system. -/
def programAt? (path : Octets) : Option String :=
  programFolders.findSome? fun folder =>
    if folder.toList.isPrefixOf path then
      let name := textOf (path.drop folder.length)
      if isProgramName name then some name else none
    else none

/-- The program that a name in a command stands for. -/
def program? (name : Octets) : Option String :=
  if name.contains '/' then programAt? name
  else if isProgramName (textOf name) then some (textOf name) else none

end Signoff.Shell
