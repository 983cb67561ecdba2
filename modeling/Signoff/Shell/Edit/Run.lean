import Signoff.Shell.Edit.Reader
import Signoff.Shell.Utility.Lines

/-!
# Editing a stream

The editor takes one line after the other into its pattern space, goes through the steps of its
script and prints what the pattern space holds then. Fuel bounds the number of steps.
-/

namespace Signoff.Shell.Edit

/-- A line, and whether a line feed ended it. -/
structure Line where
  text : Octets
  ended : Bool
  /-- The file it comes from. -/
  file : Octets

/-- Whether a range of lines is open, and up to which line if that is known. -/
inductive RangeState
  | open (upTo : Option Nat)
  | closed

/-- What is printed behind the pattern space. -/
inductive Behind
  | text (cs : Octets)
  | file (name : Octets)

structure Setting where
  steps : Array Step
  printsAll : Bool
  /-- What ends a line. -/
  ending : Char

structure State where
  desk : Desk
  /-- What was printed, the last part first. -/
  printed : List Octets
  /-- A line was printed without the end that it did not have. -/
  owes : Bool
  pattern : Octets
  ended : Bool
  file : Octets
  held : Octets
  number : Nat
  lines : List Line
  behind : List Behind
  ranges : List (Nat × RangeState)
  replaced : Bool
  lastRegex : Option Regex
  status : Option Nat
  failure : Option Failure

namespace State

def put (s : State) (cs : Octets) : State :=
  if cs.isEmpty then s
  else { s with printed := cs :: (if s.owes then ['\n'] else []) :: s.printed, owes := false }

/-- Prints a line as the one in the pattern space was ended. -/
def putLine (ending : Char) (s : State) (cs : Octets) : State :=
  let t := s.put (if s.ended then cs ++ [ending] else cs)
  { t with owes := t.owes || !s.ended }

def appendTo (s : State) (name cs : Octets) : State :=
  if name = "/dev/stdout".toList then s.put cs
  else if name = "/dev/stderr".toList || name = "/dev/null".toList then s
  else
    let d := s.desk
    let before := ((d.files.read (d.path name)).toOption).getD ByteArray.empty
    match d.files.write (d.path name) (before ++ fileContent cs) with
    | .ok files => { s with desk := { d with files } }
    | .error _ => s

/-- Prints what stands behind the pattern space. -/
def flush (s : State) : State :=
  s.behind.foldl (fun (s : State) b => match b with
    | .text cs =>
      if cs.isEmpty && s.owes then { s with printed := ['\n'] :: s.printed, owes := false }
      else s.put cs
    | .file name => match s.desk.content name with
      | .ok cs => s.put cs
      | .error _ => s) { s with behind := [] }

def takeLine (s : State) (l : Line) (rest : List Line) : State :=
  { s with pattern := l.text, ended := l.ended, file := l.file, number := s.number + 1
           lines := rest }

def nextLine? (s : State) : Option State :=
  match s.lines with
  | [] => none
  | l :: rest => some (s.takeLine l rest)

def rangeState? (s : State) (place : Nat) : Option RangeState :=
  (s.ranges.find? (·.1 == place)).map (·.2)

def setRange (s : State) (place : Nat) (r : RangeState) : State :=
  { s with ranges := (place, r) :: s.ranges.filter (·.1 != place) }

/-- The expression of a pattern; from now on it is the last one used. -/
def regexOf (s : State) (p : Pattern) : Option Regex × State :=
  match p.regex with
  | some r => (some r, { s with lastRegex := some r })
  | none =>
    match s.lastRegex with
    | some r => (some r, s)
    | none => (none, { s with failure := some (.script 1 0 .noPrevious) })

def holdsAt (s : State) (a : Address) : Bool × State :=
  match a with
  | .line n => (s.number == n, s)
  | .every first gap =>
    (if gap = 0 then s.number == first
      else first ≤ s.number && (s.number - first) % gap == 0, s)
  | .last => (s.lines.isEmpty, s)
  | .fits p =>
    let (r?, s) := s.regexOf p
    (r?.any fun r => (Regex.find? r ⟨s.pattern.toArray, p.folds⟩ 0).isSome, s)

/-- Opens a range at the current line. -/
def openRange (s : State) (place : Nat) (e : RangeEnd) : State :=
  match e with
  | .at (.line n) => if n ≤ s.number then s else s.setRange place (.open (some n))
  | .at _ => s.setRange place (.open none)
  | .after n => if n = 0 then s else s.setRange place (.open (some (s.number + n)))
  | .multiple n =>
    if n = 0 || s.number % n = 0 then s
    else s.setRange place (.open (some (s.number + (n - s.number % n))))

/-- Whether an open range takes in the current line. -/
def inRange (s : State) (place : Nat) (e : RangeEnd) (upTo : Option Nat) : Bool × State :=
  match upTo, e with
  | some n, _ => (s.number ≤ n, if n ≤ s.number then s.setRange place .closed else s)
  | none, .at a =>
    let (ends, s) := s.holdsAt a
    (true, if ends then s.setRange place .closed else s)
  | none, _ => (true, s)

/-- Whether the step at a place is for the current line. -/
def selects (s : State) (place : Nat) (sel : Selector) : Bool × State :=
  match sel.first, sel.second with
  | none, _ => (true, s)
  | some a, none => s.holdsAt a
  | some a, some e =>
    match s.rangeState? place, a with
    | some (.open upTo), _ => s.inRange place e upTo
    | none, .line 0 => s.inRange place e none
    | some .closed, .line _ => (false, s)
    | _, _ =>
      let (starts, s) := s.holdsAt a
      (starts, if starts then s.openRange place e else s)

/-- The range of a step is still open. -/
def isInside (s : State) (place : Nat) : Bool :=
  match s.rangeState? place with
  | some (.open _) => true
  | _ => false

end State

/-- Text that is put in, under a lasting and a single change of case. -/
structure Casing where
  lasting : CaseChange
  once : CaseChange

def changed (c : CaseChange) (d : Char) : Char :=
  match c with
  | .upper => d.toUpper
  | .upperOnce => d.toUpper
  | .lower => d.toLower
  | .lowerOnce => d.toLower
  | .none => d

def Casing.apply (k : Casing) (cs : Octets) : Octets × Casing :=
  match cs with
  | [] => ([], k)
  | c :: rest =>
    let first := if k.once = .none then changed k.lasting c else changed k.once c
    (first :: rest.map (changed k.lasting), { k with once := .none })

/-- What takes the place of a match. -/
def replacementOf (text : Array Char) (m : Regex.Match) (ps : List Piece) : Octets :=
  (ps.foldl (fun (state : Octets × Casing) p =>
    let (taken, k) := state
    let add (cs : Octets) : Octets × Casing :=
      let (cs, k) := k.apply cs
      (taken ++ cs, k)
    match p with
    | .text cs => add cs
    | .group 0 => add (text.extract m.start m.stop).toList
    | .group n =>
      add (((m.groups.find? (·.index == n)).map fun g =>
        (text.extract g.start g.stop).toList).getD [])
    | .change .upperOnce => (taken, { k with once := .upperOnce })
    | .change .lowerOnce => (taken, { k with once := .lowerOnce })
    | .change c => (taken, ⟨c, .none⟩)) ([], ⟨.none, .none⟩)).1

/-- The text with its matches replaced from one of them on, if there is such a match. -/
def substitute? (r : Regex) (folds : Bool) (s : Substitution) (cs : Octets) : Option Octets :=
  let text := cs.toArray
  let found := (Regex.findAll r ⟨text, folds⟩).drop (s.first - 1)
  let found := if s.all then found else found.take 1
  if found.isEmpty then none
  else
    let (taken, place) := found.foldl (fun (taken, place) m =>
      (taken ++ (text.extract place m.start).toList ++ replacementOf text m s.replacement,
        m.stop)) ([], 0)
    some (taken ++ (text.extract place text.size).toList)

/-- A character as it is shown unmistakably. -/
def shownChar (c : Char) : Octets :=
  match c with
  | '\\' => ['\\', '\\']
  | '\x07' => ['\\', 'a']
  | '\x08' => ['\\', 'b']
  | '\x0c' => ['\\', 'f']
  | '\n' => ['\\', 'n']
  | '\r' => ['\\', 'r']
  | '\t' => ['\\', 't']
  | '\x0b' => ['\\', 'v']
  | _ =>
    let n := c.toNat
    if 32 ≤ n && n < 127 then [c]
    else '\\' :: [n / 64, n / 8 % 8, n % 8].map fun k => Char.ofNat (k + 48)

/-- The text with every character shown, in lines of a width. -/
def shownText (width : Nat) (cs : Octets) : Octets :=
  let (taken, _) := cs.foldl (fun (taken, column) c =>
    let shown := shownChar c
    if 1 < width && width - 1 < column + shown.length then
      (taken ++ '\\' :: '\n' :: shown, shown.length)
    else (taken ++ shown, column + shown.length)) ([], 0)
  taken ++ ['$', '\n']

/-- How the script goes on behind a step. -/
inductive Course
  | on
  | jump (place : Nat)
  /-- A new cycle, without printing; it may keep what is in the pattern space. -/
  | cycle (keeps : Bool)
  | done

/-- Carries out the action of the step at a place. -/
def act (k : Setting) (place : Nat) (step : Step) (s : State) : Course × State :=
  let line := State.putLine k.ending
  match step.action with
  | .group _ => (.on, s)
  | .none => (.on, s)
  | .append text => (.on, { s with behind := s.behind ++ [.text text] })
  | .insert text => (.on, s.put text)
  | .change text =>
    let inside := step.selector.second.isSome && !step.selector.negated && s.isInside place
    (.cycle false, if inside then s else s.put text)
  | .branch target => (.jump target, s)
  | .branchIf replaced target =>
    if s.replaced = replaced then (.jump target, { s with replaced := false })
    else (.on, { s with replaced := false })
  | .delete => (.cycle false, s)
  | .deleteFirst =>
    match s.pattern.dropWhile (· != k.ending) with
    | _ :: rest => (.cycle true, { s with pattern := rest })
    | [] => (.cycle false, s)
  | .number => (.on, s.put (Text.digitsOf s.number ++ ['\n']))
  | .get appends =>
    (.on, { s with pattern := if appends then s.pattern ++ k.ending :: s.held else s.held })
  | .hold appends =>
    (.on, { s with held := if appends then s.held ++ k.ending :: s.pattern else s.pattern })
  | .exchange => (.on, { s with pattern := s.held, held := s.pattern })
  | .show width => (.on, s.put (shownText (width.getD 70) s.pattern))
  | .next =>
    match s.nextLine? with
    | none => if k.printsAll then (.done, line s s.pattern) else (.done, s)
    | some _ =>
      let t := (if k.printsAll then line s s.pattern else s).flush
      (.on, (t.nextLine?).getD t)
  | .appendNext =>
    match s.nextLine? with
    | none => if k.printsAll then (.done, line s s.pattern) else (.done, s)
    | some _ =>
      let t := s.flush
      let u := (t.nextLine?).getD t
      (.on, { u with pattern := s.pattern ++ k.ending :: u.pattern })
  | .print => (.on, line s s.pattern)
  | .printFirst => (.on, s.put (s.pattern.takeWhile (· != k.ending) ++ [k.ending]))
  | .quit status prints =>
    let t := if prints && k.printsAll then line s s.pattern else s
    (.done, { (if prints then t.flush else t) with status := some status })
  | .readFile name => (.on, { s with behind := s.behind ++ [.file name] })
  | .writeFile name => (.on, s.appendTo name (s.pattern ++ ['\n']))
  | .substitute sub =>
    let (r?, s) := s.regexOf sub.pattern
    match r?.bind fun r => substitute? r sub.pattern.folds sub s.pattern with
    | none => (.on, s)
    | some pattern =>
      let t := { s with pattern, replaced := true }
      let t := if sub.prints then line t pattern else t
      (.on, match sub.file with
        | some name => t.appendTo name (pattern ++ ['\n'])
        | none => t)
  | .transliterate pairs =>
    (.on, { s with pattern := s.pattern.map fun c =>
      ((pairs.find? (·.1 == c)).map (·.2)).getD c })
  | .clear => (.on, { s with pattern := [] })
  | .name => (.on, s.put (s.file ++ ['\n']))

/-- Goes through the steps from a place on, and on to further lines. -/
def go (k : Setting) (fuel place : Nat) (s : State) : State :=
  match fuel with
  | 0 => s
  | fuel + 1 =>
    if s.failure.isSome then s
    else match k.steps[place]? with
      | none =>
        let t := (if k.printsAll then s.putLine k.ending s.pattern else s).flush
        match t.nextLine? with
        | some u => go k fuel 0 { u with replaced := false }
        | none => t
      | some step =>
        let (chosen, s) := s.selects place step.selector
        if chosen = step.selector.negated then
          match step.action with
          | .group behind => go k fuel behind s
          | _ => go k fuel (place + 1) s
        else
          match act k place step s with
          | (.on, t) => go k fuel (place + 1) t
          | (.jump target, t) => go k fuel target t
          | (.done, t) => t.flush
          | (.cycle keeps, t) =>
            let t := t.flush
            if keeps then go k fuel 0 t
            else match t.nextLine? with
              | some u => go k fuel 0 { u with replaced := false }
              | none => t

/-- Bounds the steps for a stream. -/
def stepLimit : Nat := 2000000

/-- Edits the lines of a state. -/
def edit (k : Setting) (s : State) : State :=
  match s.nextLine? with
  | none => s
  | some t => go k stepLimit 0 { t with replaced := false }

/-- The lines of a text. -/
def linesIn (ending : Char) (file cs : Octets) : List Line :=
  let pieces := cutAt ending cs
  pieces.dropLast.map (⟨·, true, file⟩) ++
    (pieces.getLast?.toList.filter (!·.isEmpty)).map (⟨·, false, file⟩)

/-- Files that the script writes are empty at first. -/
def writtenFiles (steps : List Step) : List Octets :=
  steps.filterMap fun step => match step.action with
    | .writeFile name => some name
    | .substitute s => s.file
    | _ => none

end Signoff.Shell.Edit
