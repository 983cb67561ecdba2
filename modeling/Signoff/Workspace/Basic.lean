import Signoff.Error

/-!
# Workspaces

A workspace is the part of a file system that a run sees: folders and files by their place. A
place is the list of names from the current folder down; names `..` in front lead above it, and a
first name `/` starts at the root. These starting points always exist. Every file has a number of
its own, by which an open file is known whatever its place.
-/

namespace Signoff

abbrev Place := List String

namespace Place

/-- The current folder, those above it and the root. -/
def isStart (p : Place) : Bool := p.all (· == "..") || p == ["/"]

def up (p : Place) : Place :=
  if p = ["/"] then p else if p.all (· == "..") then p ++ [".."] else p.dropLast

/-- The place that a name leads to. -/
def enter (p : Place) (name : String) : Place :=
  if name = "" || name = "." then p else if name = ".." then p.up else p ++ [name]

end Place

inductive Item
  | folder
  | file (number : Nat) (content : ByteArray)

def Item.isFolder : Item → Bool
  | .folder => true
  | .file .. => false

structure Workspace where
  items : List (Place × Item)
  /-- No file has this number or a higher one. -/
  nextNumber : Nat

namespace Workspace

def empty : Workspace := ⟨[], 0⟩

def item? (w : Workspace) (p : Place) : Option Item :=
  if p.isStart then some .folder else (w.items.find? (·.1 == p)).map (·.2)

/-- Puts an item in the place of the one that is there, or adds it. -/
def replace (p : Place) (item : Item) : List (Place × Item) → List (Place × Item)
  | [] => [(p, item)]
  | entry :: rest => if entry.1 = p then (p, item) :: rest else entry :: replace p item rest

def put (w : Workspace) (p : Place) (item : Item) : Workspace :=
  { w with items := replace p item w.items }

def erase (w : Workspace) (p : Place) : Workspace :=
  { w with items := w.items.filter (·.1 != p) }

/-- A new file. -/
def create (w : Workspace) (p : Place) (content : ByteArray) : Workspace :=
  { items := replace p (.file w.nextNumber content) w.items, nextNumber := w.nextNumber + 1 }

def isTooLong (name : String) : Bool := 255 < name.utf8ByteSize

/-- The place that names lead to. Every name but the last has to lead to a folder. -/
def walk (w : Workspace) : Place → List String → Except Fault Place
  | p, [] => .ok p
  | p, name :: rest =>
    match w.item? p with
    | none => .error .notFound
    | some (.file ..) => .error .notADirectory
    | some .folder => if isTooLong name then .error .nameTooLong else walk w (p.enter name) rest

def pathLimit : Nat := 4096

/-- Whether a path can name anything. -/
def check (path : Path) : Except Fault Unit :=
  if path.text.toList.contains '\x00' then .error .nulInName
  else if path.text.isEmpty then .error .notFound
  else if pathLimit ≤ path.text.utf8ByteSize then .error .nameTooLong
  else .ok ()

/-- Where a path starts. -/
def startOf (path : Path) : Place := if path.isAbsolute then ["/"] else []

/-- What stands between the slashes of a path. -/
def namesOf (path : Path) : List String := (Text.splitOn '/' path.text.toList).map String.ofList

/-- The place of a path. -/
def resolve (w : Workspace) (path : Path) : Except Fault Place :=
  match check path with
  | .error fault => .error fault
  | .ok () => walk w (startOf path) (namesOf path)

/-- A name in a folder, to which a path leads. -/
structure Spot where
  folder : Place
  name : String
  /-- Slashes follow the name. -/
  closed : Bool

namespace Spot

/-- The name is not one of those that every folder has. -/
def isProper (s : Spot) : Bool := s.name != "." && s.name != ".."

def place (s : Spot) : Place := s.folder.enter s.name

end Spot

/-- The spot of a path: what is in front of its last name has to lead to a folder. -/
def spot (w : Workspace) (path : Path) : Except Fault Spot :=
  match check path with
  | .error fault => .error fault
  | .ok () =>
    let names := (namesOf path).filter (· != "")
    -- an empty name at the end asks for a folder
    match walk w (startOf path) (names.dropLast ++ [""]) with
    | .error fault => .error fault
    | .ok folder => .ok ⟨folder, names.getLast?.getD ".", (namesOf path).getLast? == some ""⟩

/-- The place at which a path is opened for writing, where there may be a file. -/
def writable (w : Workspace) (path : Path) : Except Fault Place :=
  match w.spot path with
  | .error fault => .error fault
  | .ok s =>
    if !s.isProper || s.closed then .error .isADirectory
    else if isTooLong s.name then .error .nameTooLong
    else .ok s.place

/-- The place that a file may be moved to. -/
def movable (w : Workspace) (path : Path) : Except Fault Place :=
  match w.spot path with
  | .error fault => .error fault
  | .ok s =>
    if !s.isProper then .error .busy
    else if isTooLong s.name then .error .nameTooLong
    else if s.closed then .error .notADirectory
    else .ok s.place

theorem find?_replace (p q : Place) (item : Item) (items : List (Place × Item)) :
    (replace p item items).find? (·.1 == q) =
      if p = q then some (p, item) else items.find? (·.1 == q) := by
  induction items with
  | nil => by_cases h : p = q <;> simp [replace, h]
  | cons entry rest ih =>
    by_cases he : entry.1 = p
    · by_cases h : p = q
      · simp [replace, he, h]
      · simp [replace, he, h]
    · by_cases h : entry.1 = q
      · subst h
        simp [replace, he, Ne.symm he]
      · simp [replace, he, h, ih]

theorem item?_put {w : Workspace} {p q : Place} {item : Item} (hp : p.isStart = false) :
    (w.put p item).item? q = if p = q then some item else w.item? q := by
  by_cases h : p = q
  · subst h; simp [item?, put, hp, find?_replace]
  · simp [item?, put, find?_replace, h]

end Workspace

end Signoff
