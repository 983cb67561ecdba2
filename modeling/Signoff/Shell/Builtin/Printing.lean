import Signoff.Shell.Builtin.Basic
import Signoff.Shell.Format
import Signoff.Shell.Utility.Condition

/-!
# Commands that print and ask

Printing words and formats, and asking conditions, in the session itself.
-/

namespace Signoff.Shell.Builtin

/-- Prints its arguments, in which escapes count. -/
def echo (s : Session) (args : List Octets) : Session :=
  let (lineFeed, words) := match args with
    | ['-', 'n'] :: rest => (false, rest)
    | _ => (true, args)
  let (text, goesOn) := Format.unescapeAll (joined [' '] words)
  (s.write 1 (if lineFeed && goesOn then text ++ ['\n'] else text)).succeed

def printf (s : Session) (args : List Octets) : Outcome :=
  match args with
  | [] | [['-', '-']] => .error (octets "usage: printf format [arg ...]")
  | ['-', '-'] :: format :: rest => print format rest
  | ('-' :: c :: _) :: _ => .error (octets "Illegal option -" ++ [c])
  | format :: rest => print format rest
where
  print (format : Octets) (rest : List Octets) : Outcome :=
    let p := Format.print format rest
    -- the output is held back until the end
    let t := (p.complaints.foldl (fun (s : Session) c => s.complain (octets c) 1) s.succeed).write 1
      p.output
    .ok (if p.broken then { t with status := 2 } else t)

def test (s : Session) (brackets : Bool) (args : List Octets) : Outcome :=
  let answer := if brackets then Condition.inBrackets s.desk args else Condition.holds s.desk args
  match answer with
  | .ok holds => .ok { s with status := if holds then 0 else 1 }
  | .error fault => .error (octets fault.message)

end Signoff.Shell.Builtin
