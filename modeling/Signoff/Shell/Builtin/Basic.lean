import Signoff.Shell.Session

/-!
# Commands of the shell itself

These commands act on the session that they are called in. A command that cannot do what it is asked
for ends with a message; what that means for the session is decided where commands are called.
-/

namespace Signoff.Shell.Builtin

/-- What a command makes of a session, or what is wrong. -/
abbrev Outcome := Except Octets Session

def number? (cs : Octets) : Option Nat :=
  if cs.isEmpty || !cs.all Char.isDigit then none
  else some (cs.foldl (fun n c => 10 * n + (c.toNat - '0'.toNat)) 0)

/-- The largest number that an argument may be. -/
def mostNumber : Nat := 2147483647

def number (cs : Octets) : Except Octets Nat :=
  match number? cs with
  | some n => if n ≤ mostNumber then .ok n else .error (octets "Illegal number: " ++ cs)
  | none => .error (octets "Illegal number: " ++ cs)

/-- The letters in front of the operands of a command; all have to be among the known ones. -/
def letters (known : String) : List Octets → Except Octets (List Char × List Octets)
  | [] => .ok ([], [])
  | a :: rest =>
    match a with
    | ['-', '-'] => .ok ([], rest)
    | '-' :: c :: more =>
      match (c :: more).find? (!known.toList.contains ·) with
      | some wrong => .error (octets "Illegal option -" ++ [wrong])
      | none => do
        let (given, operands) ← letters known rest
        return (c :: more ++ given, operands)
    | _ => .ok ([], a :: rest)

/-- A value between single quotation marks. -/
def quoted (cs : Octets) : Octets :=
  '\'' :: cs.flatMap (fun c => if c = '\'' then "'\"'\"'".toList else [c]) ++ ['\'']

def badName (name : Octets) : Octets := name ++ octets ": bad variable name"

end Signoff.Shell.Builtin
