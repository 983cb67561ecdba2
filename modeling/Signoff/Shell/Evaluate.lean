import Signoff.Shell.Arithmetic
import Signoff.Shell.Program
import Signoff.Shell.Utility.Awk

/-!
# Carrying out a script

Words are expanded and commands carried out together, since each may need the other. Fuel bounds
the depth and the turns of loops, and the world bounds the number of commands; without either the
script counts as one without end.
-/

namespace Signoff.Shell

namespace Session

def outOfFuel (s : Session) : Session := { s with flow := .endless }

/-- What the output of a command adds to a word. -/
def trimmedOutput (cs : Octets) : Octets :=
  ((cs.filter (· != '\x00')).reverse.dropWhile (· == '\n')).reverse

/-- The bits of all arguments; quoted ones stay in one piece each. -/
def argumentBits (s : Session) (quoted : Bool) : List Bit :=
  let each (a : Octets) : List Bit :=
    if quoted then .quotation :: Bit.ofText true true a else Bit.ofText false true a
  ((s.arguments.map each).intersperse [Bit.cut]).flatten

/-- Text that stands in for a value counts as one. -/
def asValue (bits : List Bit) : List Bit :=
  bits.map fun b => match b with
    | .char c false _ => .char c false true
    | _ => b

/-- A tilde at the start of a word is the home folder. -/
def withHome (s : Session) (w : Word) : Word :=
  match w with
  | .text false ('~' :: rest) :: more =>
    if rest.head? = some '/' || (rest.isEmpty && more.isEmpty) then
      match s.lookup? "HOME".toList with
      | some home =>
        .text true home :: (if rest.isEmpty then more else .text false rest :: more)
      | none => w
    else w
  | _ => w

/-- Tildes at the start of a value and behind its colons are the home folder. -/
def withHomes (s : Session) (w : Word) : Word :=
  match s.lookup? "HOME".toList with
  | none => w
  | some home =>
    let rec go (isFront : Bool) : Word → Word
      | .text false cs :: more =>
        let pieces := cutAt ':' cs
        let shown := pieces.zipIdx.map fun (piece, i) =>
          let isLast := i + 1 = pieces.length
          match piece with
          | '~' :: rest =>
            if (isFront || i ≠ 0) &&
                (rest.head? = some '/' || (rest.isEmpty && (!isLast || more.isEmpty))) then
              [WordPart.text true home, WordPart.text false rest]
            else [WordPart.text false piece]
          | _ => [WordPart.text false piece]
        ((shown.intersperse [.text false [':']]).flatten.filter fun part => match part with
          | .text false [] => false
          | _ => true) ++ go false more
      | part :: more => part :: go false more
      | [] => []
    go true w

/-- Commands whose arguments give variables values. -/
def assigningNames : List String := ["export", "readonly", "local", "alias"]

/-- The fields start a command that gives variables values. -/
def assigns (s : Session) (fields : List Octets) : Bool :=
  match fields.dropWhile (· == "command".toList) with
  | [name] => assigningNames.contains (textOf name) && (s.function? name).isNone
  | _ => false

/-- The names that the commands of a pipeline are called by. -/
def programNames : Command → List Octets
  | .plain _ _ (w :: _) _ => (plainText? w).toList
  | .piped first second => programNames first ++ programNames second
  | _ => []

/-- How deep functions and shells may call each other. -/
def depthLimit : Nat := 1000

/-- Takes back what some redirections did to the channels of a session. -/
def withChannelsOf (before : Session) (rs : List Redirection) (s : Session) : Session :=
  rs.foldl (fun (s : Session) r =>
    let channel := match r with
      | .file channel _ _ => channel
      | .duplicate channel _ => channel
      | .document channel _ => channel
    match before.channels.find? (·.1 == channel) with
    | some (_, n) => s.connect channel n
    | none => s.disconnect channel) s

/-- The command `exec` alone, whose redirections stay in force. -/
def isBareExec (fields : List Octets) : Bool := fields == ["exec".toList]

/-- The variables as sums see them. -/
def numbers (s : Session) : Arithmetic.Variables :=
  s.bindings.filterMap fun (name, v) => v.value.map fun value => (name, value)

/-- A command that needs no shell around it when it works in the background. -/
def isProgramCall (s : Session) (c : Command) : Bool :=
  match c with
  | .plain _ _ (w :: _) _ =>
    match plainText? w with
    | some name => !Builtin.isBuiltin name && (s.function? name).isNone
    | none => false
  | _ => false

mutual

/-- The bits of a part of a word. -/
def expandPart (fuel : Nat) (part : WordPart) (s : Session) : List Bit × Session :=
  match fuel with
  | 0 => ([], s.outOfFuel)
  | fuel + 1 =>
    let value (cs : Octets) : List Bit := Bit.ofText part.isQuoted true cs
    match part with
    | .text _ [] => ([.quotation], s)
    | .text quoted cs => (Bit.ofText quoted false cs, s)
    | .parameter quoted name change =>
      let found := s.parameter? name
      let all := name = ['@'] || (name = ['*'] && !quoted)
      let shown (cs : Octets) : List Bit := if all then s.argumentBits quoted else value cs
      let isGiven (ifEmpty : Bool) : Bool := found.any fun v => !(ifEmpty && v.isEmpty)
      let unset : List Bit × Session :=
        ([], s.abort (name ++ octets ": parameter not set"))
      let missing := found.isNone && s.has 'u' && not (["@", "*"].contains (textOf name))
      let other (w : Word) (s : Session) : List Bit × Session :=
        let (bits, s) := expand fuel (if quoted then w else s.withHome w) s
        (if quoted then bits else asValue bits, s)
      match change with
      | .plain => if missing then unset else (shown (found.getD []), s)
      | .length =>
        if missing then unset else (value (Text.digitsOf (found.getD []).length), s)
      | .orElse ifEmpty w => if isGiven ifEmpty then (shown (found.getD []), s) else other w s
      | .orAssign ifEmpty w =>
        if isGiven ifEmpty then (shown (found.getD []), s)
        else
          let (bits, s) := expand fuel w s
          (value (Bit.text bits), s.assign name (Bit.text bits))
      | .orFail ifEmpty w =>
        if isGiven ifEmpty then (shown (found.getD []), s)
        else
          let (bits, s) := expand fuel w s
          let text := if !w.isEmpty then Bit.text bits
            else octets (if ifEmpty then "parameter not set or null" else "parameter not set")
          ([], s.abort (name ++ octets ": " ++ text))
      | .ifSet ifEmpty w => if isGiven ifEmpty then other w s else ([], s)
      | .dropFront longest w =>
        if missing then unset
        else
          let (bits, s) := expand fuel w s
          (value (Shell.dropFront longest (patternOf (Bit.marked bits)) (found.getD [])), s)
      | .dropBack longest w =>
        if missing then unset
        else
          let (bits, s) := expand fuel w s
          (value (Shell.dropBack longest (patternOf (Bit.marked bits)) (found.getD [])), s)
      | .unknown => ([], s.abort (octets "Bad substitution"))
    | .output _ body =>
      -- a copy carries out the body, so that it changes no variable of this session
      let buffer := s.world.buffers.size
      let copy := finish fuel (exec fuel body { s.fork.capturing 1 with isCommand := false })
      let t := s.behind copy
      let t := if t.goesOn then t.waitUntil (releaseTime t.world buffer t.now) else t
      (value (trimmedOutput (contentOf t.world buffer)),
        { t with status := s.status, innerStatus := t.status })
    | .sum _ source =>
      let (bits, s) := expand fuel source s
      if !s.goesOn then ([], s)
      else
        let text := Bit.text bits
        let before := s.numbers
        match (Arithmetic.read text).bind (Arithmetic.eval before) with
        | .ok (n, after) =>
          let changed := (after.take (after.length - before.length)).reverse
          (value (toString n).toList,
            changed.foldl (fun (s : Session) (name, v) => s.assign name v) s)
        | .error fault => ([], s.abort (octets (fault.message text)))

/-- The bits of a word. -/
def expand (fuel : Nat) (w : Word) (s : Session) : List Bit × Session :=
  match fuel with
  | 0 => ([], s.outOfFuel)
  | fuel + 1 =>
    let (back, s) := w.foldl (fun (back, s) part =>
      if !s.goesOn then (back, s)
      else
        let (bits, s) := expandPart fuel part s
        (bits.reverse ++ back, s)) ([], s)
    (back.reverse, s)

/-- The text of a word that is not cut into fields. -/
def expandText (fuel : Nat) (w : Word) (s : Session) : Octets × Session :=
  match fuel with
  | 0 => ([], s.outOfFuel)
  | fuel + 1 =>
    let (bits, s) := expand fuel (s.withHome w) s
    (Bit.text bits, s)

/-- Shows a command in front of it being carried out, if that is asked for. -/
def trace (fuel : Nat) (words : List Octets) (s : Session) : Session :=
  match fuel with
  | 0 => s.outOfFuel
  | fuel + 1 =>
    if !s.has 'x' then s
    else
      let front := (s.lookup? "PS4".toList).getD ['+', ' ']
      let (shown, t) := match Cursor.wholeText? front with
        | none => (front, s)
        | some w => expandText fuel w { s with options := s.options.filter (· != 'x') }
      { t.write 2 (shown ++ joined [' '] words ++ ['\n']) with
        options := s.options, status := s.status }

/-- The fields of some words. -/
def expandAll (fuel : Nat) (ws : List Word) (s : Session) : List Octets × Session :=
  match fuel with
  | 0 => ([], s.outOfFuel)
  | fuel + 1 =>
    let (fields, _, s) := ws.foldl (fun (fields, assigning, s) w =>
      let assigning := assigning || s.assigns fields
      if !s.goesOn then (fields, assigning, s)
      else match if assigning then assignment? w else none with
        | some (name, value) =>
          let (bits, t) := expand fuel (s.withHomes value) s
          (fields ++ [name ++ '=' :: Bit.text bits], assigning, t)
        | none =>
          let (bits, t) := expand fuel (s.withHome w) s
          let isEmpty := bits.all (· == .quotation) && w.any WordPart.isArguments &&
            s.arguments.isEmpty
          if isEmpty then (fields, assigning, t)
          else
            let cut := Cutting.fields t.separators bits
            (fields ++ (if t.has 'f' then cut.map (·.map (·.1))
              else cut.flatMap (matching t.world.files t.folder)), assigning, t)) ([], false, s)
    (fields, s)

/-- Gives variables values; `exports` says that programs see them. -/
def assignAll (fuel : Nat) (exports : Bool) (assignments : List (Octets × Word)) (s : Session) :
    Session :=
  match fuel with
  | 0 => s.outOfFuel
  | fuel + 1 =>
    assignments.foldl (fun (s : Session) (name, w) =>
      if !s.goesOn then s
      else
        let (bits, t) := expand fuel (s.withHomes w) s
        let value := Bit.text bits
        let u := if t.goesOn then t.assign name value else t
        if exports && u.goesOn then u.setVariable name ⟨some value, true, false⟩ else u) s

/-- Sets up redirections from left to right, up to one that fails. -/
def redirect (fuel : Nat) (rs : List Redirection) (s : Session) : Bool × Session :=
  match fuel with
  | 0 => (false, s.outOfFuel)
  | fuel + 1 =>
    rs.foldl (fun (fine, s) r =>
      if !fine || !s.goesOn then (false, s)
      else
        let take (t : Session) (c : Connection) : Bool × Session :=
          match c with
          | .ok u => (true, u)
          | .error message => (false, t.complain message 2)
        match r with
        | .document channel body =>
          let (bits, t) := expand fuel body s
          (t.goesOn, t.openAs channel (readable (Bit.text bits) none))
        | .file channel mark w =>
          let (target, t) := expandText fuel w s
          if t.goesOn then take t (t.redirectTo channel mark target) else (false, t)
        | .duplicate channel w =>
          let (target, t) := expandText fuel w s
          if t.goesOn then take t (t.duplicateText channel target) else (false, t)) (true, s)

/-- Carries out a command of which a failure ends nothing. -/
def execGuarded (fuel : Nat) (c : Command) (s : Session) : Session :=
  match fuel with
  | 0 => s.outOfFuel
  | fuel + 1 => { exec fuel c { s with guarded := true } with guarded := s.guarded }

def exec (fuel : Nat) (c : Command) (s : Session) : Session :=
  match fuel with
  | 0 => s.outOfFuel
  | fuel + 1 =>
    if s.has 'n' then s
    else match c with
    | .nothing => s
    | .plain line assignments words rs => execPlain fuel line assignments words rs s
    | .redirected line inner rs =>
      match redirect fuel rs { s with line } with
      | (false, t) => { t with channels := s.channels }.checked
      | (true, t) => withChannelsOf s rs (exec fuel inner t)
    | .subshell line body rs =>
      let copy := { s.fork with line, isCommand := false }
      let copy := match redirect fuel rs copy with
        | (false, t) => t
        | (true, t) => finish fuel (exec fuel body t)
      attend fuel (s.behind copy).checked
    | .background inner => startWork fuel inner s
    | .branch condition body other =>
      let t := execGuarded fuel condition s
      if !t.goesOn then t
      else if t.status = 0 then exec fuel body t
      else match other with
        | .nothing => t.succeed
        | _ => exec fuel other t
    | .loop untilTrue condition body =>
      let t := turn fuel untilTrue condition body 0 { s with loops := s.loops + 1 }
      { t with loops := s.loops }
    | .each line name words body =>
      let (values, t) := match words with
        | some ws => expandAll fuel ws { s with line }
        | none => (s.arguments, { s with line })
      if t.goesOn then
        let u := turnEach fuel name values body { t.succeed with loops := s.loops + 1 }
        { u with loops := s.loops }
      else t
    | .select line subject cases =>
      let (text, t) := expandText fuel subject { s with line }
      if t.goesOn then choose fuel text cases t else t
    | .define name body =>
      { s with functions := (name, body) :: s.functions.filter (·.1 != name), status := 0 }
    | .negated inner =>
      let t := execGuarded fuel inner s
      if t.goesOn then { t with status := if t.status = 0 then 1 else 0 } else t
    | .piped first second => attend fuel (pipe fuel first second s).checked
    | .both first second =>
      let t := execGuarded fuel first s
      if t.goesOn && t.status = 0 then exec fuel second t else t
    | .either first second =>
      let t := execGuarded fuel first s
      if t.goesOn && t.status != 0 then exec fuel second t else t
    | .sequence first second =>
      let t := exec fuel first s
      if t.goesOn then exec fuel second t else t

/-- Two commands at the same time, of which the second one reads what the first one prints. -/
def pipe (fuel : Nat) (first second : Command) (s : Session) : Session :=
  match fuel with
  | 0 => s.outOfFuel
  | fuel + 1 =>
    let s := Builtin.rememberAll s (programNames first ++ programNames second)
    let buffer := s.world.buffers.size
    let steps := s.world.steps
    let a := { s.fork.capturing 1 with isCommand := s.isProgramCall first }
    let a := finish fuel (exec fuel first
      { a with world := { a.world with steps := steps / 2 } })
    let ready := releaseTime a.world buffer a.now
    let endless := a.flow == .endless
    let input : Opening :=
      { readable (contentOf a.world buffer) none with ready, endless }
    -- the first command may go on without end as long as the second one does not
    let world := { a.world with steps := steps - (steps / 2 - a.world.steps) }
    let b := { { s with world }.fork.openAs 0 input with isCommand := s.isProgramCall second }
    let b := finish fuel (exec fuel second b)
    let t := s.behind b
    if endless then t
    else
      let t := if t.now < ready && t.goesOn then { t with now := ready } else t
      if a.flow == .late && t.goesOn then { t with flow := .late } else t

/-- Starts a command in the background. -/
def startWork (fuel : Nat) (inner : Command) (s : Session) : Session :=
  match fuel with
  | 0 => s.outOfFuel
  | fuel + 1 =>
    let steps := s.world.steps
    let copy := s.fork
    let copy := { copy.openAs 0 (readable [] none) with
      now := s.now + 300, loops := 0, isCommand := s.isProgramCall inner }
    let copy := { copy with world := { copy.world with steps := steps / 4 } }
    -- a group or a redirected command needs no process of its own inside the new one
    let (rs, body) := match inner with
      | .subshell _ body rs => (rs, body)
      | .redirected _ body rs => (rs, body)
      | _ => ([], inner)
    let (isReady, copy) := redirect fuel rs copy
    let w := if isReady then finish fuel (exec fuel body copy) else copy
    let finishTime := if w.flow == .late || w.flow == .endless then s.deadline else w.now
    let signal := match w.flow with
      | .killed signal => some signal
      | _ => none
    let status := match signal with
      | some signal => signal.status
      | none => w.status % 256
    -- a program holds what its own redirections leave it
    let held := if copy.isCommand then [] else copy.buffersHeld
    let holder : Holder := ⟨copy.process, held, finishTime⟩
    let slot := s.freeSlot
    { s with
      world := { w.world with
        steps := steps - (steps / 4 - w.world.steps)
        holders := holder :: w.world.holders }
      works := ⟨copy.process, finishTime, status, signal, false, slot, inner.parts⟩ ::
        s.works.filter (·.slot != slot)
      lastWork := some copy.process
      status := 0 }

/-- Turns of a loop, of which the last body had a status. -/
def turn (fuel : Nat) (untilTrue : Bool) (condition body : Command) (last : Nat) (s : Session) :
    Session :=
  match fuel with
  | 0 => s.outOfFuel
  | fuel + 1 =>
    let t := execGuarded fuel condition s
    if !t.goesOn then
      let (goesOn, v) := t.behindBody
      if goesOn then turn fuel untilTrue condition body last v else v
    else if (t.status == 0) == untilTrue then { t with status := last }
    else
      let u := exec fuel body t
      let (goesOn, v) := u.behindBody
      if goesOn then turn fuel untilTrue condition body v.status v else v

/-- Turns of a loop over values. -/
def turnEach (fuel : Nat) (name : Octets) (values : List Octets) (body : Command)
    (s : Session) : Session :=
  match fuel with
  | 0 => s.outOfFuel
  | fuel + 1 =>
    match values with
    | [] => s
    | value :: rest =>
      let t := s.assign name value
      if !t.goesOn then t
      else
        let (goesOn, t) := (exec fuel body t).behindBody
        if goesOn then turnEach fuel name rest body t else t

/-- Carries out the first case with a pattern that fits. -/
def choose (fuel : Nat) (subject : Octets) (cases : List (List Word × Command)) (s : Session) :
    Session :=
  match fuel with
  | 0 => s.outOfFuel
  | fuel + 1 =>
    match cases with
    | [] => s.succeed
    | (patterns, body) :: rest =>
      let (fits, t) := patterns.foldl (fun (fits, s) w =>
        if fits || !s.goesOn then (fits, s)
        else
          let (bits, s) := expand fuel (s.withHome w) s
          (PatternItem.fits (patternOf (Bit.marked bits)) subject, s)) (false, s)
      if !t.goesOn then t
      else if fits then exec fuel body t.succeed
      else choose fuel subject rest t

def execPlain (fuel line : Nat) (assignments : List (Octets × Word)) (words : List Word)
    (rs : List Redirection) (s : Session) : Session :=
  match fuel with
  | 0 => s.outOfFuel
  | fuel + 1 =>
    if s.world.steps = 0 then s.outOfFuel
    else
      let s := { s with line, innerStatus := 0, world := { s.world with
        steps := s.world.steps - 1 } }
      let (fields, t) := expandAll fuel words s
      if !t.goesOn then t
      else
        let special := fields.head?.any fun name =>
          Builtin.isSpecial name && (t.function? name).isNone
        match redirect fuel rs t with
        | (false, u) =>
          let u := { u with channels := s.channels }
          if !u.goesOn then u
          else if special then u.stop 2
          else u.checked
        | (true, u) =>
          let hides := !fields.isEmpty && !special
          let hidden := if hides then assignments.map fun (a, _) => (a, u.binding? a) else []
          let v := assignAll fuel hides assignments u
          let values := assignments.map fun (a, _) => a ++ '=' :: (v.lookup? a).getD []
          let v := { trace fuel (values ++ fields) { v with channels := s.channels } with
            channels := v.channels }
          let w := match fields with
            | [] => if v.goesOn then { v with status := v.innerStatus } else v
            | name :: args => if v.goesOn then call fuel true name args v else v
          let w := hidden.foldl restore w
          let w := if isBareExec fields && w.goesOn then w else withChannelsOf s rs w
          attend fuel w.checked

/-- Carries out the commands for signals that have arrived. -/
def attend (fuel : Nat) (s : Session) : Session :=
  match fuel with
  | 0 => s.outOfFuel
  | fuel + 1 =>
    if s.world.signals.isEmpty || !s.goesOn then s
    else
      let arrived := s.world.signals.filter fun (process, time, _) =>
        process == s.process && time ≤ s.now
      let waiting := s.world.signals.filter fun (process, time, _) =>
        !(process == s.process && time ≤ s.now)
      (arrived.map (·.2)).foldl (fun (s : Session) (time, signal) =>
        if !s.goesOn then s
        else
          let action := if signal.isSure then none else s.trap? signal
          match action with
          | some [] => s
          | some text =>
            let t := runText fuel false (Cursor.start text) { s with context := [] }
            { t with context := s.context, status := if t.goesOn then s.status else t.status }
          | none =>
            if signal.isHarmless then s
            else if signal.isHalting then { s with flow := .late }
            else
              { s with
                now := time, flow := .killed signal
                world := { s.world with deaths := (s.process, time) :: s.world.deaths } })
        { s with world := { s.world with signals := waiting } }

/-- Carries out a named command; `isOrdinary` says that functions count and that a failure of some
commands ends the session. -/
def call (fuel : Nat) (isOrdinary : Bool) (name : Octets) (args : List Octets) (s : Session) :
    Session :=
  match fuel with
  | 0 => s.outOfFuel
  | fuel + 1 =>
    match if isOrdinary then s.function? name else none with
    | some body => callFunction fuel body args s
    | none =>
      let fail (message : Octets) : Session :=
        let t := { { s with context := name }.complain message 2 with context := s.context }
        if isOrdinary && Builtin.isSpecial name then t.stop 2 else t
      match textOf name, args with
      | "eval", _ =>
        let t := runText fuel false (Cursor.start (joined [' '] args))
          { s.succeed with context := name }
        { t with context := s.context }
      | ".", [] => s.succeed
      | ".", file :: _ =>
        if !file.contains '/' then fail (file ++ octets ": not found")
        else match s.world.files.read (s.path file) with
          | .error _ => fail (cannotOpen file "No such file")
          | .ok bytes =>
            let t := runText fuel true (Cursor.start (octetsOfFile bytes))
              { s.succeed with context := file }
            { t with context := s.context, flow := if t.flow = .back then .next else t.flow }
      | "exec", [] => s.succeed
      | "exec", first :: rest =>
        let t := { s with traps := s.traps.filter (·.2.isEmpty), context := name }
        let u := if (Builtin.commandPath? t first).isSome then
            callProgram fuel first rest { t with context := s.context, isCommand := true }
          else { t.refuse first with context := s.context }
        if u.goesOn then u.stop u.status else u
      | "command", _ => callCommand fuel args s
      | _, _ =>
        -- what cannot be printed is kept apart
        let isLost := (s.outletFault? 1).isSome && Builtin.isBuiltin name
        let buffer := s.world.buffers.size
        let t := { s with context := name }
        match Builtin.run? name args (if isLost then t.capturing 1 else t) with
        | some (.ok t) =>
          if isLost then
            let t := { t with channels := s.channels }
            let u := if (contentOf t.world buffer).isEmpty then t
              else t.complain (name ++ octets ": I/O error") 1
            { u with context := s.context }
          else { t with context := s.context }
        | some (.error message) => fail message
        | none => callProgram fuel name args (Builtin.rememberAll s [name])

/-- A function with arguments of its own. -/
def callFunction (fuel : Nat) (body : Command) (args : List Octets) (s : Session) : Session :=
  match fuel with
  | 0 => s.outOfFuel
  | fuel + 1 =>
    if depthLimit ≤ s.depth then
      s.abort (octets s!"Maximum function recursion depth ({depthLimit}) reached")
    else
      let t := exec fuel body
        { s with arguments := args, hidden := [], depth := s.depth + 1, loops := 0 }
      { t.hidden.foldl restore t with
        arguments := s.arguments, hidden := s.hidden, depth := s.depth, loops := s.loops
        flow := if t.flow = .back then .next else t.flow }

/-- Shows a command, or carries it out without looking for functions. -/
def callCommand (fuel : Nat) (args : List Octets) (s : Session) : Session :=
  match fuel with
  | 0 => s.outOfFuel
  | fuel + 1 =>
    match args with
    | [] => s.succeed
    | ['-', '-'] :: rest => callCommand fuel rest s
    | ['-', 'p'] :: rest => callCommand fuel rest s
    | ['-', 'v'] :: wanted :: _ => Builtin.showCommand s wanted
    | ['-', 'V'] :: wanted => Builtin.type s (wanted.take 1)
    | ('-' :: c :: _) :: _ =>
      ({ { s with context := octets "command" }.complain (octets "Illegal option -" ++ [c]) 2 with
        context := s.context })
    | first :: rest => call fuel false first rest s

/-- Carries out the program that a name stands for. -/
def callProgram (fuel : Nat) (name : Octets) (args : List Octets) (s : Session) : Session :=
  match fuel with
  | 0 => s.outOfFuel
  | fuel + 1 =>
    match Builtin.commandPath? s name with
    | none => s.refuse name
    | some path =>
      match programAt? path with
      | some prog => runProgram fuel name prog args s
      | none =>
        let script := (s.desk.content path).toOption.getD []
        match interpreterOf script with
        | none => runScript fuel path args script [] s
        | some (interpreter, given) =>
          match programAt? interpreter with
          | some prog => runProgram fuel interpreter prog (given ++ path :: args) s
          | none => s.complain (name ++ octets ": not found") 127

/-- Carries out a program of the system; `called` is the name or path by which it was called. -/
def runProgram (fuel : Nat) (called : Octets) (prog : String) (args : List Octets) (s : Session) :
    Session :=
  match fuel with
  | 0 => s.outOfFuel
  | fuel + 1 =>
    if shellNames.contains prog then runShell fuel called args s
    else match prog with
      | "sleep" => Builtin.sleep s args
      | "chmod" => chmod s args
      | "printenv" => printenv s args
      | "kill" => match Builtin.kill s args with
        | .ok t => t
        | .error message =>
          match args.find? fun a => !(Builtin.number? (a.dropWhile (· == '-'))).isSome with
          | some a => s.refuseFor (octets "kill: failed to parse argument: '" ++ a ++ ['\'']) 1
          | none => s.refuseFor (octets "kill: " ++ message) 1
      | "env" =>
        let k := readSetting args
        let t := s.withSetting k
        let u := match k.command with
          | [] => (t.write 1 t.environmentText).succeed
          | name :: rest =>
            if isOption name then t.refuseOption called name
            else if (t.lookup? "PATH".toList).isNone && (program? name).isSome then
              callProgram fuel (octets "/usr/bin/" ++ name) rest t
            else if (Builtin.commandPath? t name).isSome then callProgram fuel name rest t
            else t.refuseFor (called ++ octets ": " ++ quoteWord name ++
              octets ": No such file or directory") 127
        { u with bindings := s.bindings }
      | "nohup" => callOther fuel "nohup" args s
      | "nice" => callOther fuel "nice" (match args with
        | ['-', 'n'] :: _ :: rest => rest
        | _ => args) s
      | "timeout" => runLimited fuel args s
      | "xargs" =>
        let f := readFeeding (args.length + 1) ⟨none, false, none, none, false, false, none, []⟩ args
        let input := (s.opening? 0).getD (readable [] none)
        let t := (s.waitUntil input.ready).setOpening 0 { input with input := [] }
        match f.problem with
        | some text => s.refuseFor (octets "xargs: " ++ text ++
            octets "\nTry 'xargs --help' for more information.") 1
        | none =>
          if input.endless then t.outOfFuel
          else
            let (calls, mark) := callsOf f input.input
            let u := feed fuel f.traces calls t.succeed
            match mark with
            | some c =>
              if u.goesOn then
                let kind := if c = '"' then "double" else "single"
                u.refuseFor (octets (s!"xargs: unmatched {kind} quote; by default quotes are " ++
                  "special to xargs unless you use the -0 option")) 1
              else u
            | none => u
      | "find" =>
        match Find.plan s.desk args with
        | .error fault => s.refuseFor (octets "find: " ++ fault.message) 1
        | .ok (deeds, complaints) =>
          let t := carryOut fuel deeds [] (complaints.foldl (fun (s : Session) c =>
            s.write 2 (c ++ ['\n'])) s.succeed)
          if t.goesOn && !complaints.isEmpty then { t with status := 1 } else t
      | "awk" => s.useDesk prog fun d =>
        Awk.utility (commandOf fuel s) s.environment (octets prog) d args
      | "mktemp" => s.useDesk prog fun d =>
        some (Utility.mktemp (s.lookup? "TMPDIR".toList) d args)
      | "mawk" => s.useDesk prog fun d =>
        Awk.utility (commandOf fuel s) s.environment (octets prog) d args
      | _ => useUtility s called prog args

/-- What a command does that a program of the session starts. -/
def commandOf (fuel : Nat) (s : Session) (d : Desk) (command input : Octets) : Ended :=
  match fuel with
  | 0 => d.done [] 0
  | fuel + 1 =>
    let t := { s with world := { s.world with files := d.files } }.fork
    let printed := t.world.buffers.size
    let t := (t.openAs 0 (readable input none)).capturing 1
    let complained := t.world.buffers.size
    let t := runShell fuel (octets "sh") [octets "-c", command] (t.capturing 2)
    { said := [.complaint (contentOf t.world complained), .output (contentOf t.world printed)]
      status := t.status % 256
      restOfInput := ((t.opening? 0).map (·.input)).getD []
      files := t.world.files }

/-- A program that starts another one. -/
def callOther (fuel : Nat) (prog : String) (args : List Octets) (s : Session) : Session :=
  match fuel with
  | 0 => s.outOfFuel
  | fuel + 1 =>
    match args with
    | [] => s.refuseFor (octets s!"{prog}: missing operand\nTry '{prog} --help' for more " ++
        octets "information.") 125
    | name :: rest =>
      if isOption name then s.refuseOption (octets prog) name
      else if (Builtin.commandPath? s name).isSome then callProgram fuel name rest s
      else
        let what := if prog = "nice" then quoteWord name
          else octets "failed to run command " ++ quoteName name
        s.refuseFor (octets s!"{prog}: " ++ what ++ octets ": No such file or directory") 127

/-- A command with a limit on its time. -/
def runLimited (fuel : Nat) (args : List Octets) (s : Session) : Session :=
  match fuel with
  | 0 => s.outOfFuel
  | fuel + 1 =>
    let hint := octets "Try 'timeout --help' for more information."
    match readLimit ⟨Signal.terminate, false⟩ args with
    | (l, time :: name :: rest) =>
      if isOption time then s.refuseOption (octets "timeout") time
      else match Builtin.duration? time with
      | none =>
        s.refuseFor (octets "timeout: invalid time interval " ++ quoteWord time ++ '\n' :: hint) 125
      | some duration =>
        let limit := s.now + duration
        let isShorter := duration != 0 && limit < s.deadline
        let steps := s.world.steps
        let t := { s.fork with isCommand := true }
        let t := { t with
          deadline := if isShorter then limit else s.deadline
          world := { t.world with steps := steps / 2 } }
        let u := callOther fuel "timeout" (name :: rest) t
        let world := { u.world with steps := steps - (steps / 2 - u.world.steps) }
        let u := { u with world }
        if isShorter && (u.flow == .late || u.flow == .endless) then
          let killed := l.signal == 9
          let u := if killed then u.write 2 (octets "Killed\n") else u
          { s with world := u.world, now := limit
                   status := if killed then 137 else if l.keepsStatus then l.signal.status else 124 }
        else s.behind u
    | _ => s.refuseFor hint 125

/-- Calls that an input makes, one after the other. -/
def feed (fuel : Nat) (traces : Bool) (calls : List (List Octets)) (s : Session) : Session :=
  match fuel with
  | 0 => s.outOfFuel
  | fuel + 1 =>
    match calls with
    | [] => s
    | [] :: rest => feed fuel traces rest s
    | (name :: args) :: rest =>
      let s := if traces then
          s.write 2 (joined [' '] ((name :: args).map quoteIfNeeded) ++ ['\n'])
        else s
      if (Builtin.commandPath? s name).isNone then
        s.refuseFor (octets "xargs: " ++ name ++ octets ": No such file or directory") 127
      else
        let t := callProgram fuel name args s
        if !t.goesOn then t
        else if t.status = 255 then
          t.refuseFor (octets "xargs: " ++ name ++
            octets ": exited with status 255; aborting") 124
        else
          feed fuel traces rest { t with status := if t.status = 0 then s.status else 123 }

/-- What a search does on its way; `collected` are paths for commands that are called at its end. -/
def carryOut (fuel : Nat) (deeds : List Find.Deed) (collected : List (List Octets × Octets))
    (s : Session) : Session :=
  match fuel with
  | 0 => s.outOfFuel
  | fuel + 1 =>
    let run (words : List Octets) : Session :=
      match words with
      | [] => s
      | name :: args =>
        if (Builtin.commandPath? s name).isSome then callProgram fuel name args s
        else s.refuseFor (octets "find: " ++ quoteWord name ++
          octets ": No such file or directory") 1
    if !s.goesOn then s
    else match deeds, collected with
      | [], [] => s
      | [], (words, _) :: _ =>
        let paths := (collected.filter (·.1 == words)).map (·.2)
        let t := run (words ++ paths)
        let worse := if t.goesOn && t.status != 0 then 1 else s.status
        carryOut fuel [] (collected.filter (·.1 != words))
          (if t.goesOn then { t with status := worse } else t)
      | .print cs :: rest, _ => carryOut fuel rest collected (s.write 1 cs)
      | .warn message :: rest, _ => carryOut fuel rest collected (s.write 2 (message ++ ['\n']))
      | .remove path :: rest, _ => carryOut fuel rest collected (s.removeFound path)
      | .collect words path :: rest, _ => carryOut fuel rest (collected ++ [(words, path)]) s
      | .quit :: _, _ => carryOut fuel [] collected s
      | .call words yes no :: rest, _ =>
        let t := run words
        let next := if t.goesOn && t.status = 0 then yes else no
        carryOut fuel (next ++ rest) collected
          (if t.goesOn then { t with status := s.status } else t)

/-- What a session wants done when it ends. -/
def finish (fuel : Nat) (s : Session) : Session :=
  match fuel with
  | 0 => s.outOfFuel
  | fuel + 1 =>
    let ended := s.flow == .late || s.flow == .endless || match s.flow with
      | .killed _ => true
      | _ => false
    match s.trap? 0 with
    | none => s
    | some [] => s
    | some text =>
      if ended then s
      else
        let t := runText fuel false (Cursor.start text)
          { s with traps := s.traps.filter (·.1 != 0), flow := .next, context := [] }
        -- the status stays unless the last commands end the session themselves
        if t.flow = .next then { t with status := s.status, flow := .stopped } else t

/-- Reads and carries out a script line by line; `isFile` says that it is a file, which may be shown
as it is read. -/
def runText (fuel : Nat) (isFile : Bool) (c : Cursor) (s : Session) : Session :=
  match fuel with
  | 0 => s.outOfFuel
  | fuel + 1 =>
    let echo (rest : Octets) : Session :=
      if isFile && s.has 'v' then s.write 2 (c.rest.take (c.rest.length - rest.length)) else s
    match c.next? with
    | .error m =>
      { echo [] with line := m.line }.abort (octets s!"Syntax error: {m.fault.message}")
    | .ok none => echo []
    | .ok (some (command, rest)) =>
      let t := exec fuel command (echo rest.rest)
      if t.goesOn then runText fuel isFile rest t else t

/-- A script with a name and arguments, in a session of its own. -/
def runScript (fuel : Nat) (name : Octets) (args : List Octets) (script : Octets)
    (options : List Char) (s : Session) : Session :=
  match fuel with
  | 0 => s.outOfFuel
  | fuel + 1 =>
    if depthLimit ≤ s.nesting then s.outOfFuel
    else
      s.behindScript (finish fuel (runText fuel true (Cursor.start script)
      (s.child options name args)))

/-- A shell that is called with arguments. -/
def runShell (fuel : Nat) (shell : Octets) (args : List Octets) (s : Session) : Session :=
  match fuel with
  | 0 => s.outOfFuel
  | fuel + 1 =>
    let refuse (text : Octets) (status : Nat) : Session :=
      s.refuseFor (shell ++ octets ": 0: " ++ text) status
    match readSwitches args with
    | .error message => refuse message 2
    | .ok c =>
      if c.isText then
        match c.operands with
        | [] => refuse (octets "-c requires an argument") 2
        | text :: rest =>
          runScript fuel ((rest.head?).getD shell) rest.tail text c.options s
      else match c.readsInput, c.operands with
        | false, file :: rest =>
          match s.world.files.read (s.path file) with
          | .ok bytes => runScript fuel file rest (octetsOfFile bytes) c.options s
          | .error fault =>
          if Utility.lastName shell = octets "bash" then
            s.refuseFor (shell ++ ':' :: ' ' :: file ++ octets s!": {reasonOf fault}")
              (if fault = .isADirectory then 126 else 127)
          else match fault with
          | .isADirectory => runScript fuel file rest [] c.options s
          | .permissionDenied => refuse (cannotOpen file "Permission denied") 2
          | _ => refuse (cannotOpen file "No such file") 2
        | _, operands =>
          let o := (s.opening? 0).getD (readable [] none)
          let t := (s.waitUntil o.ready).setOpening 0 { o with input := [] }
          runScript fuel shell operands o.input c.options t

end

end Session

end Signoff.Shell
