import Signoff.Shell.Utility.Files

/-!
# Files from files

Cutting a file into several ones, copying blocks, giving files further names, and making files that
nobody else has.
-/

namespace Signoff.Shell.Utility

/-! ## Cutting files -/

def splitKinds : OptionKinds :=
  ⟨"dex", "lbna", [("lines", 'l'), ("bytes", 'b'), ("number", 'n'), ("suffix-length", 'a'),
    ("numeric-suffixes", 'd')]⟩

/-- The ending of the name of a part, in letters or digits. -/
def partEnding (digits : Bool) : Nat → Nat → Octets
  | 0, _ => []
  | width + 1, n =>
    let base := if digits then 10 else 26
    partEnding digits width (n / base) ++
      [Char.ofNat ((if digits then 48 else 97) + n % base)]

/-- Groups of so many items. -/
def groupsOf {α : Type} (n : Nat) : Nat → List α → List (List α)
  | 0, _ => []
  | fuel + 1, items =>
    if items.isEmpty then [] else items.take n :: groupsOf n fuel (items.drop n)

/-- A size with an optional unit. -/
def sizeOf? (cs : Octets) : Option Nat :=
  match cs.getLast? with
  | some 'c' => count? cs.dropLast
  | some 'w' => (count? cs.dropLast).map (2 * ·)
  | _ => scaledCount? cs

/-- The parts of a text. -/
def partsOf (o : Options) (cs : Octets) : List Octets :=
  match o.value? 'b', o.value? 'n' with
  | some b, _ => groupsOf ((sizeOf? b).getD 1) (cs.length + 1) cs
  | none, some n =>
    let count := (count? n).getD 1
    let count := if count = 0 then 1 else count
    let size := cs.length / count
    (List.range count).map fun k =>
      if k + 1 = count then cs.drop (k * size) else (cs.drop (k * size)).take size
  | none, none =>
    let lines := cs.foldr (fun c (ls : List Octets) =>
      if c = '\n' then [c] :: ls
      else match ls with
        | (d :: l) :: rest => (c :: d :: l) :: rest
        | _ => [[c]]) []
    (groupsOf (((o.value? 'l').bind count?).getD 1000) (lines.length + 1) lines).map List.flatten

def split (d : Desk) (args : List Octets) : Ended :=
  splitKinds.use d "split" 1 args fun o =>
    d.refuseExtra "split" 1 2 o.operands <|
    let wrong := match o.value? 'l', o.value? 'b' with
      | some l, _ => if (count? l).all (· == 0) then
          some (octets "invalid number of lines: " ++ quoteWord l) else none
      | none, some b => if (sizeOf? b).all (· == 0) then
          some (octets "invalid number of bytes: " ++ quoteWord b) else none
      | none, none => none
    let name := o.operands.head?.getD ['-']
    let front := (o.operands[1]?).getD ['x']
    match wrong, d.content name with
    | some text, _ => d.complain (octets "split: " ++ text) 1
    | none, .error fault => d.complain (octets "split: cannot open " ++ quoteName name ++
        octets s!" for reading: {reasonOf fault}") 1
    | none, .ok cs =>
      let width := ((o.value? 'a').bind count?).getD 2
      ((partsOf o cs).zipIdx).foldl (fun (e : Ended) (text, n) =>
        let target := front ++ partEnding (o.has 'd') width n
        match e.files.write (d.path target) (fileContent text) with
        | .ok files => { e with files }
        | .error fault =>
          e.fail (octets "split: " ++ target ++ octets s!": {reasonOf fault}") 1) { d.done [] 0 with restOfInput := d.inputAfter [name] }

/-! ## Copying blocks -/

/-- Settings of a copy by their names. -/
def blockNames : List String :=
  ["if", "of", "bs", "ibs", "obs", "count", "skip", "seek", "status", "conv", "iflag", "oflag"]

def blockSetting (args : List Octets) (name : String) : Option Octets :=
  args.reverse.findSome? fun a =>
    let front := octets name ++ ['=']
    if front.isPrefixOf a then some (a.drop front.length) else none

/-- The number of full and of broken blocks, as the report shows it. -/
def blocksText (size length : Nat) (word : String) : Octets :=
  octets s!"{length / size}+{if length % size = 0 then 0 else 1} records {word}\n"

/-- Copies blocks of bytes. -/
def dd (d : Desk) (args : List Octets) : Ended :=
  let isKnown (a : Octets) : Bool :=
    a.contains '=' && blockNames.contains (textOf (a.takeWhile (· != '=')))
  let size? (name : String) : Option (Option Nat) := (blockSetting args name).map sizeOf?
  let badNumber := ["bs", "ibs", "obs", "count", "skip", "seek"].findSome? fun name =>
    match size? name with
    | some none => blockSetting args name
    | _ => none
  match args.find? (!isKnown ·), badNumber with
  | some wrong, _ => d.refuse "dd" (octets "unrecognized operand " ++ quoteWord wrong) 1
  | none, some text => d.complain (octets "dd: invalid number: " ++ quoteWord text) 1
  | none, none =>
    let number (name : String) (usual : Nat) : Nat := ((size? name).join).getD usual
    let size := number "bs" (number "ibs" 512)
    let size := if size = 0 then 512 else size
    let source := (blockSetting args "if").getD ['-']
    let content := if source = "/dev/zero".toList then
        .ok (List.replicate (size * (number "skip" 0 + number "count" 0)) '\x00')
      else d.content source
    match content with
    | .error fault => d.complain (octets "dd: failed to open " ++ quoteName source ++
        octets s!": {reasonOf fault}") 1
    | .ok cs =>
      let rest := cs.drop (size * number "skip" 0)
      let taken := match size? "count" with
        | some n => rest.take (size * n.getD 0)
        | none => rest
      let changes := cutAt ',' ((blockSetting args "conv").getD [])
      let text := if changes.contains "ucase".toList then taken.map Char.toUpper
        else if changes.contains "lcase".toList then taken.map Char.toLower
        else taken
      let report := if blockSetting args "status" == some "none".toList then []
        else blocksText size taken.length "in" ++ blocksText size taken.length "out" ++
          (if blockSetting args "status" == some "noxfer".toList then []
            else octets s!"{taken.length} bytes copied, 0 s, 0 kB/s\n")
      let left := if source = ['-'] then rest.drop taken.length else d.input
      match blockSetting args "of" with
      | none => ⟨[.output text, .complaint report], 0, left, d.files⟩
      | some target =>
        let before := ((d.files.read (d.path target)).toOption).getD ByteArray.empty
        let position := number "bs" (number "obs" 512) * number "seek" 0
        let kept := if changes.contains "notrunc".toList then before
          else before.extract 0 position
        if target = "/dev/null".toList then ⟨[.complaint report], 0, left, d.files⟩
        else match d.files.write (d.path target)
            (Workspace.overwrite kept position (fileContent text)) with
          | .ok files => ⟨[.complaint report], 0, left, files⟩
          | .error fault => d.complain (octets "dd: failed to open " ++ quoteName target ++
              octets s!": {reasonOf fault}") 1

/-! ## Names -/

def linkKinds : OptionKinds :=
  ⟨"sfnvTrPL", "t", [("symbolic", 's'), ("force", 'f'), ("no-dereference", 'n')]⟩

/-- Gives what lies at a path a further name. -/
def linkOne (d : Desk) (o : Options) (source target : Octets) (e : Ended) : Ended :=
  let kind := if o.has 's' then "symbolic link" else "hard link"
  let fail (text : Octets) : Ended :=
    e.fail (octets "ln: " ++ text) 1
  let create (text : Octets) (reason : String) : Ended :=
    fail (octets s!"failed to create {kind} " ++ text ++ octets s!": {reason}")
  -- a path in a link starts at the folder of the link
  let found := if o.has 's' && source.head? != some '/' then
      itemAt e.files (d.path (folderOf target ++ '/' :: source))
    else itemAt e.files (d.path source)
  let target? := e.files.movable (d.path target)
  match found, target? with
  | .error fault, _ =>
    if o.has 's' then e
    else fail (octets "failed to access " ++ quoteName source ++ octets s!": {reasonOf fault}")
  | _, .error fault => create (quoteName target) (reasonOf fault)
  | .ok (p, item), .ok q =>
    if !o.has 's' && item.isFolder then
      fail (quoteName source ++ octets ": hard link not allowed for directory")
    else if (e.files.item? q).isSome && !o.has 'f' then create (quoteName target) "File exists"
    else
      let said := if o.has 'v' then
          quoteName target ++ octets (if o.has 's' then " -> " else " => ") ++ quoteName source ++
            ['\n']
        else []
      let files := if item.isFolder then copyTree e.files p q else e.files.put q item
      { e.say said with files }

def ln (d : Desk) (args : List Octets) : Ended :=
  linkKinds.use d "ln" 1 args fun o =>
    let start := d.done [] 0
    match o.operands with
    | [] => d.refuse "ln" (octets "missing file operand") 1
    | [name] => linkOne d o name ("./".toList ++ lastName name) start
    | names =>
      let target := names.getLast?.getD []
      if isFolderAt d target && !o.has 'T' && !o.has 'n' then
        names.dropLast.foldl (fun e name => linkOne d o name (inside target name) e) start
      else match names with
        | [source, _] => linkOne d o source target start
        | _ => d.complain (octets "ln: target " ++ quoteName target ++
            octets ": No such file or directory") 1

def temporaryKinds : OptionKinds :=
  ⟨"duqt", "p", [("directory", 'd'), ("dry-run", 'u'), ("quiet", 'q'), ("tmpdir", 'p')]⟩

/-- The name that a template stands for: a number in the place of its last row of letters X. -/
def fromTemplate (template : Octets) (n : Nat) : Octets :=
  let back := template.reverse
  let tail := back.takeWhile (· != 'X')
  let crosses := (back.drop tail.length).takeWhile (· == 'X')
  let digits := (Text.digitsOf n).take crosses.length
  template.take (template.length - tail.length - crosses.length) ++
    List.replicate (crosses.length - digits.length) 'a' ++ digits ++ tail.reverse

/-- Makes a file or a folder with a name that there was not before. -/
def mktemp (folder : Option Octets) (d : Desk) (args : List Octets) : Ended :=
  temporaryKinds.use d "mktemp" 1 args fun o =>
    if 1 < o.operands.length then d.refuse "mktemp" (octets "too many templates") 1 else
    let usual := folder.getD "/tmp".toList
    let template := (o.operands.head?).getD "tmp.XXXXXXXXXX".toList
    let back := template.reverse
    let crosses := (back.dropWhile (· != 'X')).takeWhile (· == 'X')
    let place := match o.value? 'p' with
      | some p => some p
      | none => if o.operands.isEmpty || o.has 't' then some usual else none
    let template := match place with
      | some p => p ++ '/' :: template
      | none => template
    if crosses.length < 3 then
      d.complain (octets "mktemp: too few X's in template " ++
        quoteWord ((o.operands.head?).getD [])) 1
    else
      let free := (List.range (d.files.items.length + 1)).map (fromTemplate template ·)
      let name := (free.find? fun name =>
        (itemAt d.files (d.path name)).toOption.isNone).getD template
      if o.has 'u' then d.done (name ++ ['\n']) 0
      else
        let made := if o.has 'd' then d.files.makeFolder (d.path name)
          else d.files.write (d.path name) ByteArray.empty
        match made with
        | .ok files => { d.done (name ++ ['\n']) 0 with files }
        | .error fault => d.complain (octets (if o.has 'd' then
            "mktemp: failed to create directory via template "
            else "mktemp: failed to create file via template ") ++ quoteWord template ++
            octets s!": {reasonOf fault}") 1

end Signoff.Shell.Utility
