import Signoff.Shell.Session

/-!
# Connecting channels

Redirections connect channels with files, with texts in the script, or with what other channels are
connected with. One that cannot be set up says why.
-/

namespace Signoff.Shell.Session

/-- A connection, or why there is none. -/
abbrev Connection := Except Octets Session

/-- The files of the system that stand for channels. -/
def channelOfName? (name : Octets) : Option Nat :=
  match textOf name with
  | "/dev/stdin" => some 0
  | "/dev/stdout" => some 1
  | "/dev/stderr" => some 2
  | _ =>
    let front := octets "/dev/fd/"
    match name.drop front.length with
    | [c] => if front.isPrefixOf name && c.isDigit then some (c.toNat - '0'.toNat) else none
    | _ => none

def cannotOpen (name : Octets) (reason : String) : Octets :=
  octets "cannot open " ++ name ++ octets s!": {reason}"

def cannotCreate (name : Octets) (reason : String) : Octets :=
  octets "cannot create " ++ name ++ octets s!": {reason}"

/-- Lets a channel lead to where another one leads. -/
def duplicate (s : Session) (channel source : Nat) : Connection :=
  match s.channels.find? (·.1 == source) with
  | some (_, n) => .ok (s.connect channel n)
  | none => .error (octets s!"{source}: Bad file descriptor")

/-- Connects a channel with a file to read. -/
def openInput (s : Session) (channel : Nat) (name : Octets) : Connection :=
  if name = octets "/dev/null" then .ok (s.openAs channel (readable [] none))
  else if name = octets "/dev/zero" then
    .ok (s.openAs channel { readable (List.replicate 100000 '\x00') none with
      outlet := .nowhere, endless := true })
  else match channelOfName? name with
    | some source => s.duplicate channel source
    | none => match s.world.files.read (s.path name) with
      | .ok bytes => .ok (s.openAs channel (readable (octetsOfFile bytes) (some bytes.size)))
      | .error .isADirectory => .ok (s.openAs channel (readable [] none))
      | .error fault =>
        .error (cannotOpen name (if fault = .notFound || fault = .notADirectory then "No such file"
          else reasonOf fault))

/-- The number of the file at a path. -/
def fileNumber? (w : Workspace) (path : Path) : Option Nat :=
  match w.resolve path with
  | .ok p => match w.item? p with
    | some (.file number _) => some number
    | _ => none
  | .error _ => none

/-- Connects a channel with a file to write to, at its end or from its start. -/
def openOutput (s : Session) (channel : Nat) (mark : String) (name : Octets) : Connection :=
  if name = octets "/dev/null" || name = octets "/dev/zero" then
    .ok (s.openAs channel (written .nowhere))
  else if name = octets "/dev/full" then .ok (s.openAs channel (written .full))
  else if name = octets "/dev/tty" then
    .error (cannotCreate name "No such device or address")
  else match channelOfName? name with
    | some source => s.duplicate channel source
    | none =>
      let path := s.path name
      let before := (s.world.files.read path).toOption
      if mark = ">" && s.has 'C' && before.isSome then .error (cannotCreate name "File exists")
      else
        let kept := mark = ">>" || mark = "<>"
        let content := if kept then before.getD ByteArray.empty else ByteArray.empty
        match s.world.files.write path content with
        | .ok files =>
          let t := { s with world := { s.world with files } }
          let outlet := match fileNumber? files path with
            | some number => Outlet.file number (mark == ">>")
            | none => .nowhere
          let o := written outlet
          .ok (t.openAs channel (if mark = "<>" then
            { o with input := octetsOfFile content, size := some content.size } else o))
        | .error fault =>
          .error (cannotCreate name (if fault = .notFound || fault = .notADirectory then
            "Directory nonexistent" else reasonOf fault))

/-- Connects a channel as a redirection with a target says. -/
def redirectTo (s : Session) (channel : Nat) (mark : String) (target : Octets) : Connection :=
  if mark = "<" then s.openInput channel target else s.openOutput channel mark target

/-- Connects a channel with another one, or closes it for a hyphen. -/
def duplicateText (s : Session) (channel : Nat) (target : Octets) : Connection :=
  match target with
  | ['-'] => .ok (s.disconnect channel)
  | [c] =>
    if c.isDigit then s.duplicate channel (c.toNat - '0'.toNat) else .error (octets "Bad fd number")
  | _ => .error (octets "Bad fd number")

/-- The output of a command goes into a new buffer. -/
def capturing (s : Session) (channel : Nat) : Session :=
  let n := s.world.buffers.size
  { s with world := { s.world with buffers := s.world.buffers.push [] } }.openAs channel
    (written (.buffer n))

/-- When the last process lets go of a buffer that was closed at a time. -/
def releaseTime (w : World) (buffer time : Nat) : Nat :=
  w.holders.foldl (fun n h =>
    if h.buffers.contains buffer && n < h.finish then h.finish else n) time

/-- What a utility says if its output goes nowhere, and its status. -/
def lostOutput (prog reason : String) : Octets × Nat :=
  let isClosed := reason == "Bad file descriptor"
  match prog with
  | "cat" => (octets (if isClosed then s!"cat: standard output: {reason}\n"
      else s!"cat: write error: {reason}\n"), 1)
  | "sed" => (octets (if isClosed then s!"sed: couldn't close stdout: {reason}\n"
      else s!"sed: couldn't flush stdout: {reason}\n"), 4)
  | "sort" => (octets s!"sort: write failed: 'standard output': {reason}\n", 2)
  | _ =>
    let isGrave := ["ls", "grep", "egrep", "fgrep", "awk", "mawk", "diff", "cmp"].contains prog
    (octets s!"{prog}: write error: {reason}\n", if isGrave then 2 else 1)

/-- Enters what a utility came to. -/
def takeEnded (s : Session) (prog : String) (e : Ended) : Session :=
  let o? := s.opening? 0
  let readsAll := o?.any fun o => o.input.length != e.restOfInput.length
  let s := match o? with
    | some o =>
      let s := if readsAll then s.waitUntil o.ready else s
      s.setOpening 0 { o with input := e.restOfInput }
    | none => s
  let t := { s with world := { s.world with files := e.files }, status := e.status }
  match if e.output.isEmpty then none else t.outletFault? 1 with
  | none => e.said.foldl (fun (t : Session) x => match x with
      | .output cs => t.write 1 cs
      | .complaint cs => t.write 2 cs) t
  | some reason =>
    let (message, status) := lostOutput prog reason
    { (t.write 2 e.complaint).write 2 message with status }

end Signoff.Shell.Session
