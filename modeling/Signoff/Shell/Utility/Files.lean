import Signoff.Shell.Pattern
import Signoff.Shell.Utility.Options

/-!
# Utilities for files

Listing, making, copying, moving and removing files and folders.
-/

namespace Signoff.Shell

namespace Utility

/-- The last name of a path. -/
def lastName (cs : Octets) : Octets :=
  (((cutAt '/' cs).filter (!·.isEmpty)).getLast?).getD (if cs.isEmpty then [] else ['/'])

def basename (d : Desk) (args : List Octets) : Ended :=
  let kinds : OptionKinds := ⟨"az", "s", [("multiple", 'a'), ("suffix", 's')]⟩
  match kinds.read false args with
  | .error fault => d.refuse "basename" fault.message 1
  | .ok o =>
    let cut (ending name : Octets) : Octets :=
      let last := lastName name
      if !ending.isEmpty && ending.length < last.length && ending.isSuffixOf last then
        last.take (last.length - ending.length) else last
    match o.operands with
    | [] => d.refuse "basename" (octets "missing operand") 1
    | names =>
      if o.has 'a' || o.has 's' then
        d.done (unlines (names.map (cut ((o.value? 's').getD [])))) 0
      else match names with
        | [name] => d.done (cut [] name ++ ['\n']) 0
        | [name, ending] => d.done (cut ending name ++ ['\n']) 0
        | _ => d.refuse "basename" (octets "extra operand " ++ quoteWord (names[2]?.getD [])) 1

/-- A path without its last name. -/
def folderOf (cs : Octets) : Octets :=
  let back := cs.reverse.dropWhile (· == '/')
  let front := (back.dropWhile (· != '/')).dropWhile (· == '/')
  if front.isEmpty then (if cs.head? = some '/' then ['/'] else ['.']) else front.reverse

def dirname (d : Desk) (args : List Octets) : Ended :=
  (⟨"z", "", [("zero", 'z')]⟩ : OptionKinds).use d "dirname" 1 args fun o =>
    if o.operands.isEmpty then d.refuse "dirname" (octets "missing operand") 1
    else d.done (o.operands.flatMap fun name =>
      folderOf name ++ [if o.has 'z' then '\x00' else '\n']) 0

/-- What lies at a path. -/
def itemAt (w : Workspace) (path : Path) : Except Fault (Place × Item) :=
  match w.resolve path with
  | .error fault => .error fault
  | .ok p => match w.item? p with
    | none => .error .notFound
    | some item => .ok (p, item)

def isFolderAt (d : Desk) (name : Octets) : Bool := d.files.isFolder (d.path name)

def lsKinds : OptionKinds :=
  ⟨"1aAdRrpFltShimgonUcuqx", "", [("all", 'a'), ("almost-all", 'A'), ("directory", 'd'),
    ("recursive", 'R'), ("reverse", 'r')]⟩

/-- The names in a folder that are shown, with a mark behind folders if asked for. -/
def shownNames (w : Workspace) (o : Options) (p : Place) : List Octets :=
  let names := (w.namesIn p).filter fun n => o.has 'a' || o.has 'A' || !n.startsWith "."
  let shown (n : String) : Octets :=
    let folder := (w.item? (p ++ [n])).any Item.isFolder
    octets n ++ if folder && (o.has 'p' || o.has 'F') then ['/'] else []
  let names := (if o.has 'a' then [['.'], ['.', '.']] else []) ++ names.map shown
  if o.has 'r' then names.reverse else names

/-- The folders below one, each in front of those in it. -/
def foldersBelow (w : Workspace) : Nat → Octets → Place → List (Octets × Place)
  | 0, _, _ => []
  | fuel + 1, name, p =>
    (name, p) :: (w.namesIn p).flatMap fun n =>
      if (w.item? (p ++ [n])).any Item.isFolder then
        foldersBelow w fuel (name ++ '/' :: octets n) (p ++ [n])
      else []

def ls (d : Desk) (args : List Octets) : Ended :=
  lsKinds.use d "ls" 2 args fun o =>
    let operands := if o.operands.isEmpty then [['.']] else o.operands
    let sorted := operands.mergeSort fun a b => compareOctets a b != .gt
    let sorted := if o.has 'r' then sorted.reverse else sorted
    let found := sorted.map fun name => (name, itemAt d.files (d.path name))
    let complaint := (operands.map fun name => (name, itemAt d.files (d.path name))).flatMap
      fun (name, r) => match r with
        | .error fault => octets "ls: cannot access " ++ quoteName name ++
            octets s!": {reasonOf fault}\n"
        | .ok _ => []
    let plain := found.filterMap fun (name, r) => match r with
      | .ok (_, .file ..) => some name
      | .ok (_, .folder) => if o.has 'd' then some name else none
      | .error _ => none
    let folders := if o.has 'd' then [] else found.filterMap fun (name, r) => match r with
      | .ok (p, .folder) => some (name, p)
      | _ => none
    let listed := if o.has 'R' then
        folders.flatMap fun (name, p) => foldersBelow d.files (d.files.items.length + 1) name p
      else folders
    let titled := o.has 'R' || operands.length > 1
    let blocks := listed.map fun (name, p) =>
      (if titled then name ++ [':', '\n'] else []) ++ unlines (shownNames d.files o p)
    let blocks := (if plain.isEmpty then [] else [unlines plain]) ++ blocks
    ⟨[.complaint complaint, .output (joined ['\n'] blocks)],
      if complaint.isEmpty then 0 else 2, d.input, d.files⟩

/-- Does something for each name in turn; what was done is told of, and what cannot be done is
complained of. -/
def forEach (d : Desk) (names : List Octets) (told : Workspace → Workspace → Octets → Octets)
    (about : Octets → Octets) (act : Workspace → Path → Except Fault Workspace) : Ended :=
  names.foldl (fun (e : Ended) name =>
    match act e.files (d.path name) with
    | .ok files => { e.say (told e.files files name) with files }
    | .error fault => e.fail (about name ++ octets s!": {reasonOf fault}") 1) (d.done [] 0)

/-- Makes a file unless it is there. -/
def touchFile (makes : Bool) (w : Workspace) (path : Path) : Except Fault Workspace :=
  match w.read path with
  | .ok _ => .ok w
  | .error .isADirectory => .ok w
  | .error _ => if makes then w.write path ByteArray.empty else .ok w

/-- An empty name stands for nothing. -/
def named (act : Workspace → Path → Except Fault Workspace) (d : Desk) (w : Workspace)
    (path : Path) : Except Fault Workspace :=
  if path.text = (d.folder.join ⟨""⟩).text then .error .notFound else act w path

def touch (d : Desk) (args : List Octets) : Ended :=
  let kinds : OptionKinds := ⟨"acmfh", "drt", [("no-create", 'c')]⟩
  kinds.use d "touch" 1 args fun o =>
    if o.operands.isEmpty then d.refuse "touch" (octets "missing file operand") 1
    else forEach d o.operands (fun _ _ _ => []) (fun name => octets "touch: cannot touch " ++ quoteName name)
      (named (touchFile (!o.has 'c')) d)

/-- What is told of folders that are there now and were not before. -/
def newFolders (d : Desk) (before after : Workspace) (name : Octets) : Octets :=
  -- the fronts of the path that slashes end
  let steps := (List.range (name.length + 1)).filter fun n =>
    n = name.length || (0 < n && name[n]? = some '/' && name[n - 1]? != some '/')
  steps.flatMap fun n =>
    let front := name.take n
    let isNew (w : Workspace) : Bool := w.isFolder (d.path front)
    if isNew after && !isNew before then
      octets "mkdir: created directory " ++ quoteName front ++ ['\n']
    else []

def mkdir (d : Desk) (args : List Octets) : Ended :=
  let kinds : OptionKinds := ⟨"pvZ", "m", [("parents", 'p'), ("mode", 'm'), ("verbose", 'v')]⟩
  kinds.use d "mkdir" 1 args fun o =>
    let act (w : Workspace) (path : Path) := if o.has 'p' then
        match w.makeFolders path with
        | (.ok (), made) => .ok made
        | (.error fault, _) => .error fault
      else w.makeFolder path
    if o.operands.isEmpty then d.refuse "mkdir" (octets "missing operand") 1
    else
      forEach d o.operands (fun before after name =>
          if o.has 'v' then newFolders d before after name else [])
        (fun name => octets "mkdir: cannot create directory " ++ quoteWord name) (named act d)

/-- Something lies below a place. -/
def isFilled (w : Workspace) (p : Place) : Bool := w.items.any fun (q, _) => q != p && p.isPrefixOf q

def eraseTree (w : Workspace) (p : Place) : Workspace :=
  { w with items := w.items.filter fun (q, _) => !p.isPrefixOf q }

/-- A folder with this reason cannot be removed. -/
def filledReason : String := "Directory not empty"

def rmdir (d : Desk) (args : List Octets) : Ended :=
  let kinds : OptionKinds := ⟨"pv", "", [("parents", 'p')]⟩
  kinds.use d "rmdir" 1 args fun o =>
    if o.operands.isEmpty then d.refuse "rmdir" (octets "missing operand") 1
    else o.operands.foldl (fun (e : Ended) name =>
      let fail (reason : String) : Ended :=
        e.fail (octets "rmdir: failed to remove " ++ quoteName name ++ octets s!": {reason}") 1
      match itemAt e.files (d.path name) with
      | .error fault => fail (reasonOf fault)
      | .ok (_, .file ..) => fail (reasonOf .notADirectory)
      | .ok (p, .folder) =>
        if p.isStart then fail "Invalid argument"
        else
          let said := if o.has 'v' then
              octets "rmdir: removing directory, " ++ quoteName name ++ ['\n']
            else []
          if isFilled e.files p then
            (e.say said).fail (octets "rmdir: failed to remove " ++ quoteName name ++
              octets s!": {filledReason}") 1
          else { e.say said with files := e.files.erase p }) (d.done [] 0)

/-- What is told of the removal of all that lies at a place, the contents of folders first. -/
def removals (w : Workspace) (p : Place) (name : Octets) : Octets :=
  go (w.items.length + 1) p name
where
  go (fuel : Nat) (p : Place) (name : Octets) : Octets :=
    match fuel with
    | 0 => []
    | fuel + 1 =>
      let below := (w.namesIn p).flatMap fun n => go fuel (p ++ [n]) (name ++ '/' :: octets n)
      below ++ octets (if (w.item? p).any Item.isFolder then "removed directory " else "removed ") ++
        quoteName name ++ ['\n']

def rm (d : Desk) (args : List Octets) : Ended :=
  let kinds : OptionKinds := ⟨"rRfidvI", "", [("recursive", 'r'), ("force", 'f'), ("dir", 'd')]⟩
  kinds.use d "rm" 1 args fun o =>
    let deep := o.has 'r' || o.has 'R'
    if o.operands.isEmpty && !o.has 'f' then d.refuse "rm" (octets "missing operand") 1
    else o.operands.foldl (fun (e : Ended) name =>
      let say (text : Octets) : Ended :=
        e.fail (octets "rm: " ++ text) 1
      let fail (reason : String) : Ended :=
        say (octets "cannot remove " ++ quoteName name ++ octets s!": {reason}")
      let last := lastName name
      match if name.isEmpty then .error .notFound else itemAt e.files (d.path name) with
      | .error fault =>
        if o.has 'f' && (fault = .notFound || fault = .notADirectory) then e
        else fail (reasonOf fault)
      | .ok (p, .file ..) =>
        let said := if o.has 'v' then octets "removed " ++ quoteName name ++ ['\n'] else []
        { e.say said with files := e.files.erase p }
      | .ok (p, .folder) =>
        if deep && (last = ['.'] || last = ['.', '.']) then
          say (octets "refusing to remove '.' or '..' directory: skipping " ++ quoteName name)
        else if deep then
          { e.say (if o.has 'v' then removals e.files p name else []) with
            files := eraseTree e.files p }
        else if o.has 'd' then
          if isFilled e.files p then fail filledReason else { e with files := e.files.erase p }
        else fail (reasonOf .isADirectory)) (d.done [] 0)

/-- Puts copies of what lies at a place, and below it, at another place. -/
def copyTree (w : Workspace) (p q : Place) : Workspace :=
  (w.items.filter fun (r, _) => p.isPrefixOf r).foldl (fun w (r, item) =>
    let target := q ++ r.drop p.length
    match item with
    | .folder => if (w.item? target).isSome then w else w.put target .folder
    | .file _ content =>
      match w.item? target with
      | some (.file number _) => w.put target (.file number content)
      | _ => w.create target content) w

/-- Moves what lies at a place, and below it, to another place. -/
def moveTree (w : Workspace) (p q : Place) : Workspace :=
  let moved := w.items.filter fun (r, _) => p.isPrefixOf r
  let left := eraseTree (eraseTree w q) p
  moved.foldl (fun w (r, item) => w.put (q ++ r.drop p.length) item) left

/-- A path inside a folder. -/
def inside (folder name : Octets) : Octets :=
  (if folder.getLast? = some '/' then folder else folder ++ ['/']) ++ lastName name

def copyOne (d : Desk) (deep : Bool) (source target : Octets) (e : Ended) : Ended :=
  let fail (text : Octets) : Ended :=
    e.fail (octets "cp: " ++ text) 1
  match itemAt e.files (d.path source) with
  | .error fault =>
    fail (octets "cannot stat " ++ quoteName source ++ octets s!": {reasonOf fault}")
  | .ok (p, .folder) =>
    if !deep then fail (octets "-r not specified; omitting directory " ++ quoteName source)
    else match e.files.resolve (d.path target) with
      | .error fault =>
        fail (octets "cannot create directory " ++ quoteName target ++
          octets s!": {reasonOf fault}")
      | .ok q =>
        if (e.files.item? q).any (!·.isFolder) then
          fail (octets "cannot overwrite non-directory " ++ quoteName target ++
            octets " with directory " ++ quoteName source)
        else { e with files := copyTree e.files p q }
  | .ok (p, .file _ content) =>
    if e.files.resolve (d.path target) |>.toOption |>.any (· == p) then
      fail (quoteName source ++ octets " and " ++ quoteName target ++ octets " are the same file")
    else match e.files.write (d.path target) content with
      | .ok files => { e with files }
      | .error fault =>
        let fault := if target.getLast? = some '/' then .notADirectory else fault
        fail (octets "cannot create regular file " ++ quoteName target ++
          octets s!": {reasonOf fault}")

def moveOne (d : Desk) (source target : Octets) (e : Ended) : Ended :=
  let fail (text : Octets) : Ended :=
    e.fail (octets "mv: " ++ text) 1
  match itemAt e.files (d.path source) with
  | .error fault =>
    fail (octets "cannot stat " ++ quoteName source ++ octets s!": {reasonOf fault}")
  | .ok (p, item) =>
    match e.files.resolve (d.path target) with
    | .error fault =>
      fail (octets "cannot move " ++ quoteName source ++ octets " to " ++ quoteName target ++
        octets s!": {reasonOf fault}")
    | .ok q =>
      if p = q then
        fail (quoteName source ++ octets " and " ++ quoteName target ++
          octets " are the same file")
      else if item.isFolder && p.isPrefixOf q then
        fail (octets "cannot move " ++ quoteName source ++
          octets " to a subdirectory of itself, " ++ quoteName target)
      else if item.isFolder && (e.files.item? q).any (!·.isFolder) then
        fail (octets "cannot overwrite non-directory " ++ quoteName target ++
          octets " with directory " ++ quoteName source)
      else { e with files := moveTree e.files p q }

/-- What is told of the copies of all that lies at a place. -/
def copies (before after : Workspace) (fuel : Nat) (p q : Place) (source target : Octets) :
    Octets :=
  match fuel with
  | 0 => []
  | fuel + 1 =>
    let isFolder := (before.item? p).any Item.isFolder
    let here := if isFolder && (before.item? q).isSome then []
      else quoteName source ++ octets " -> " ++ quoteName target ++ ['\n']
    here ++ (if isFolder then (before.namesIn p).flatMap fun n =>
      copies before after fuel (p ++ [n]) (q ++ [n]) (source ++ '/' :: octets n)
        (target ++ '/' :: octets n) else [])

/-- An act on a source and a target that tells what it did. -/
def telling (d : Desk) (wanted : Bool) (say : Workspace → Workspace → Octets)
    (before after : Ended) : Ended :=
  if wanted && after.complaint.length = before.complaint.length then
    after.say (say before.files after.files)
  else { after with restOfInput := d.input }

/-- Handles sources and a target, which is a folder if there are several sources. -/
def transfer (d : Desk) (utility : String) (args : List Octets)
    (act : Options → Octets → Octets → Ended → Ended) : Ended :=
  let kinds : OptionKinds :=
    ⟨"rRafinpuvdPLTHbslxZ", "t", [("recursive", 'r'), ("archive", 'a'), ("force", 'f'),
      ("no-clobber", 'n'), ("target-directory", 't')]⟩
  kinds.use d utility 1 args fun o =>
    let start := d.done [] 0
    let operands := o.operands ++ (o.value? 't').toList
    match operands with
    | [] => d.refuse utility (octets "missing file operand") 1
    | [name] =>
      d.refuse utility (octets "missing destination file operand after " ++ quoteName name) 1
    | _ =>
      let sources := operands.dropLast
      let target := operands.getLast?.getD []
      if isFolderAt d target && !o.has 'T' then
        sources.foldl (fun e source => act o source (inside target source) e) start
      else match sources with
        | [source] => act o source target start
        | _ =>
          let reason := if (itemAt d.files (d.path target)).toOption.isSome then .notADirectory
            else Fault.notFound
          d.complain (octets s!"{utility}: target " ++ quoteName target ++
            octets s!": {reasonOf reason}") 1

def cp (d : Desk) (args : List Octets) : Ended :=
  transfer d "cp" args fun o source target e =>
    if o.has 'n' && (itemAt e.files (d.path target)).toOption.isSome then e
    else
      telling d (o.has 'v') (fun before after =>
        match before.resolve (d.path source), before.resolve (d.path target) with
        | .ok p, .ok q => copies before after (before.items.length + 1) p q source target
        | _, _ => []) e (copyOne d (o.has 'r' || o.has 'R' || o.has 'a') source target e)

def mv (d : Desk) (args : List Octets) : Ended :=
  transfer d "mv" args fun o source target e =>
    if o.has 'n' && (itemAt e.files (d.path target)).toOption.isSome then e
    else
      telling d (o.has 'v') (fun _ _ => octets "renamed " ++ quoteName source ++ octets " -> " ++
        quoteName target ++ ['\n']) e (moveOne d source target e)

end Utility

end Signoff.Shell
