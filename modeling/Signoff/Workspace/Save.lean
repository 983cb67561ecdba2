import Signoff.Workspace.Access

/-!
# Saving a file in one piece

A file is saved through a draft beside it, which takes its place once it is complete. Whatever step
fails, the file is as it was before and the draft is gone.
-/

namespace Signoff.Workspace

/-- What is refused while a file is saved, step by step, beyond what the workspace itself rules
out. -/
structure Refusals where
  /-- The folders are given up while so many of the innermost ones are missing. -/
  folders : Option (Fault × Nat)
  /-- The content cannot be had. -/
  content : Option Error
  newDraft : Option Fault
  /-- The draft is given up after so many bytes of the content. -/
  filling : Option (Fault × Nat)
  replacement : Option Fault

def noRefusals : Refusals := ⟨none, none, none, none, none⟩

def draftName (n : Nat) : String := s!".tmp{n}"

/-- A place in the folder at which there is nothing. -/
def draftPlace (w : Workspace) (folder : Place) : Place :=
  let free := (List.range (w.items.length + 1)).find? fun n =>
    (w.item? (folder ++ [draftName n])).isNone
  folder ++ [draftName (free.getD 0)]

/-- Makes the folders around a path, or those on the way to the one that is refused. -/
def makeRoom (w : Workspace) (refusals : Refusals) (folder : Path) :
    Except Fault Unit × Workspace :=
  match refusals.folders with
  | some (fault, missing) => (.error fault, (w.makeFrom (folder.withParents.drop missing)).2)
  | none => w.makeFolders folder

/-- The place of a folder; an empty path stands for the current one. -/
def folderPlace (w : Workspace) (folder : Path) : Except Fault Place :=
  if folder.text.isEmpty then .ok [] else w.resolve folder

/-- Puts the content into an empty draft, or the bytes in front of the one that is refused. -/
def fill (w : Workspace) (refusals : Refusals) (number : Nat) (content : ByteArray) :
    Except Fault Unit × Workspace :=
  match refusals.filling with
  | some (fault, written) => (.error fault, w.writeInto number none (content.extract 0 written))
  | none => (.ok (), w.writeInto number none content)

/-- Lets a complete draft take the place of the file. -/
def settle (w : Workspace) (refusals : Refusals) (draft : Place) (path : Path) :
    Except Fault Unit × Workspace :=
  match refusals.replacement with
  | some fault => (.error fault, w.erase draft)
  | none =>
    match w.move draft path with
    | .error fault => (.error fault, w.erase draft)
    | .ok done => (.ok (), done)

/-- Saves a file in a folder that exists. -/
def saveIn (w : Workspace) (refusals : Refusals) (folder : Place) (path : Path)
    (content : ByteArray) : Except Fault Unit × Workspace :=
  match refusals.newDraft with
  | some fault => (.error fault, w)
  | none =>
    let draft := w.draftPlace folder
    match (w.create draft ByteArray.empty).fill refusals w.nextNumber content with
    | (.error fault, begun) => (.error fault, begun.erase draft)
    | (.ok (), full) => full.settle refusals draft path

/-- Saves a file, with the folder around it. The content is asked for once there is room for it. -/
def save (w : Workspace) (refusals : Refusals) (folder path : Path) (content : ByteArray) :
    Except Error Unit × Workspace :=
  match w.makeRoom refusals folder with
  | (.error fault, left) => (.error (.file fault), left)
  | (.ok (), left) =>
    match refusals.content with
    | some error => (.error error, left)
    | none =>
      match left.folderPlace folder with
      | .error fault => (.error (.file fault), left)
      | .ok place =>
        match left.saveIn refusals place path content with
        | (.error fault, more) => (.error (.file fault), more)
        | (.ok (), more) => (.ok (), more)

end Signoff.Workspace
