import Signoff.Workspace.Basic

/-!
# Reading and writing in a workspace

Each operation on a path gives a fault and leaves the workspace as it is, or does what it says.
Only making a whole chain of folders can fail half-way.
-/

namespace Signoff.Workspace

def isFolder (w : Workspace) (path : Path) : Bool :=
  match w.resolve path with
  | .ok p => (w.item? p).any Item.isFolder
  | .error _ => false

def read (w : Workspace) (path : Path) : Except Fault ByteArray :=
  match w.resolve path with
  | .error fault => .error fault
  | .ok p =>
    match w.item? p with
    | none => .error .notFound
    | some .folder => .error .isADirectory
    | some (.file _ content) => .ok content

def readText (w : Workspace) (path : Path) : Except Fault String :=
  match w.read path with
  | .error fault => .error fault
  | .ok content =>
    match String.fromUTF8? content with
    | some text => .ok text
    | none => .error .notText

/-- Gives a file the content; without a file at the place there is a new one. -/
def write (w : Workspace) (path : Path) (content : ByteArray) : Except Fault Workspace :=
  match w.writable path with
  | .error fault => .error fault
  | .ok p =>
    match w.item? p with
    | none => .ok (w.create p content)
    | some .folder => .error .isADirectory
    | some (.file number _) => .ok (w.put p (.file number content))

def writeText (w : Workspace) (path : Path) (text : String) : Except Fault Workspace :=
  w.write path text.toUTF8

/-- A path without slashes at its end. -/
def withoutSlashes (path : Path) : Path :=
  let kept := (path.text.toList.reverse.dropWhile (· == '/')).reverse
  if kept.isEmpty then path else ⟨String.ofList kept⟩

def makeFolder (w : Workspace) (path : Path) : Except Fault Workspace :=
  match w.resolve (withoutSlashes path) with
  | .error fault => .error fault
  | .ok p => if (w.item? p).isSome then .error .alreadyExists else .ok (w.put p .folder)

/-- Makes the first of the folders, each of which lies in the next one. What lies around a folder
is made when it turns out to be missing. -/
def makeFrom (w : Workspace) : List Path → Except Fault Unit × Workspace
  | [] => (.ok (), w)
  | path :: around =>
    match w.makeFolder path with
    | .ok made => (.ok (), made)
    | .error .notFound =>
      match makeFrom w around with
      | (.error fault, left) => (.error fault, left)
      | (.ok (), left) =>
        match left.makeFolder path with
        | .ok made => (.ok (), made)
        -- the name may lead back to a folder that was just made
        | .error fault => if left.isFolder path then (.ok (), left) else (.error fault, left)
    | .error fault => if w.isFolder path then (.ok (), w) else (.error fault, w)

/-- Makes a folder and those around it; a folder that exists is fine. -/
def makeFolders (w : Workspace) (path : Path) : Except Fault Unit × Workspace :=
  if path.text.isEmpty then (.ok (), w) else makeFrom w path.withParents

/-- Takes away a file. -/
def remove (w : Workspace) (path : Path) : Except Fault Workspace :=
  match w.resolve path with
  | .error fault => .error fault
  | .ok p =>
    match w.item? p with
    | none => .error .notFound
    | some .folder => .error .isADirectory
    | some (.file ..) => .ok (w.erase p)

/-- Moves the file at a place to a path, where it takes the place of another file. -/
def move (w : Workspace) (p : Place) (path : Path) : Except Fault Workspace :=
  match w.movable path with
  | .error fault => .error fault
  | .ok q =>
    match w.item? p, w.item? q with
    | none, _ => .error .notFound
    | _, some .folder => .error .isADirectory
    | some item, _ => .ok ((w.erase p).put q item)

/-- The content of a file after bytes were written at a position. -/
def overwrite (content : ByteArray) (position : Nat) (bytes : ByteArray) : ByteArray :=
  let gap := ByteArray.mk (Array.replicate (position - content.size) 0)
  content.extract 0 position ++ gap ++ bytes ++
    content.extract (position + bytes.size) content.size

/-- Writes to the file with a number, at the position or at its end. A file that was taken away
in the meantime is out of sight. -/
def writeInto (w : Workspace) (number : Nat) (position : Option Nat) (bytes : ByteArray) :
    Workspace :=
  { w with items := w.items.map fun (p, item) =>
      match item with
      | .folder => (p, item)
      | .file n content =>
        if n = number then (p, .file n (overwrite content (position.getD content.size) bytes))
        else (p, item) }

/-- The names in a folder, in order. -/
def namesIn (w : Workspace) (p : Place) : List String :=
  (w.items.filterMap fun (q, _) =>
    if q.isStart || q.dropLast != p then none else q.getLast?).mergeSort fun a b => !(b < a)

/-- The text of a place below the current folder. -/
def below? (p : Place) : Option String :=
  if p.head?.any fun name => name == ".." || name == "/" then none
  else some (String.intercalate "/" p)

/-- The files below the current folder, in the order of their paths. -/
def files (w : Workspace) : List (String × ByteArray) :=
  (w.items.filterMap fun (p, item) =>
    match item with
    | .folder => none
    | .file _ content => (below? p).map fun path => (path, content)).mergeSort
      fun a b => !(b.1 < a.1)

end Signoff.Workspace

namespace Signoff

/-! ## Changes

What a tool does to the files around it is kept apart from the workspace of the run, and laid over
it wherever the tool has to see its own traces: first what is gone is taken away, then what is new
or altered is put in its place.
-/

structure Changes where
  items : List (Place × Item)
  gone : List Place

namespace Changes

def none : Changes := ⟨[], []⟩

def sameItem : Option Item → Item → Bool
  | some .folder, .folder => true
  | some (.file _ a), .file _ b => a == b
  | _, _ => false

def between (before after : Workspace) : Changes :=
  { items := after.items.filter fun (p, item) => !sameItem (before.item? p) item
    gone := (before.items.map (·.1)).filter fun p => (after.item? p).isNone }

/-- The workspace with the changes. Changed files get numbers of their own. -/
def layOver (c : Changes) (w : Workspace) : Workspace :=
  c.items.foldl (fun w (p, item) => match item with
    | .folder => w.put p .folder
    | .file _ content => w.create p content) (c.gone.foldl Workspace.erase w)

end Changes

end Signoff
