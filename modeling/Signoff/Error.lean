import Signoff.Path

/-!
# Causes of errors

Each error is a value that says what went wrong; `message` words it. An error that another one
brought about names it again in its chain of causes.
-/

namespace Signoff

/-- Why a file operation failed. -/
inductive Fault
  | notFound
  | permissionDenied
  | busy
  | alreadyExists
  | notADirectory
  | isADirectory
  | nameTooLong
  | notText
  | nulInName
deriving DecidableEq, Repr

def Fault.message : Fault → String
  | .notFound => "No such file or directory (os error 2)"
  | .permissionDenied => "Permission denied (os error 13)"
  | .busy => "Device or resource busy (os error 16)"
  | .alreadyExists => "File exists (os error 17)"
  | .notADirectory => "Not a directory (os error 20)"
  | .isADirectory => "Is a directory (os error 21)"
  | .nameTooLong => "File name too long (os error 36)"
  | .notText => "stream did not contain valid UTF-8"
  | .nulInName => "file name contained an unexpected NUL byte"

/-- Why a catalog line is no row. -/
inductive RowFault
  | missingFields (line expected found : Nat)
  | emptyField (line : Nat) (field : String)
deriving DecidableEq, Repr

def RowFault.message : RowFault → String
  | .missingFields line expected found =>
    s!"line {line}: expected at least {expected} fields, found {found}"
  | .emptyField line field => s!"line {line}: empty {field}"

/-- Why a line is no result record. -/
inductive RecordFault
  | fieldCount (found : Nat)
  | unknownStatus (text : String)
  | invalidAttempts (text : String)
  | invalidFigures
deriving DecidableEq, Repr

def RecordFault.message : RecordFault → String
  | .fieldCount found => s!"expected 5 fields, found {found}"
  | .unknownStatus text => s!"unknown status: {text}"
  | .invalidAttempts text => "invalid attempt count " ++ Text.textQuotes.quote text
  | .invalidFigures => "invalid metrics: unexpected value"

/-- Why a setting is refused. -/
inductive SettingFault
  | malformed
  | invalidSlots (text : String)
  | noSlots
  | noTimeout
  | noSlotCap
  | reservedDelimiter (c : Char)
deriving DecidableEq, Repr

def SettingFault.message : SettingFault → String
  | .malformed => "TOML parse error"
  | .invalidSlots text =>
    "invalid parallelism " ++ Text.textQuotes.quote text ++ ", expected N or auto"
  | .noSlots => "parallelism must be at least 1"
  | .noTimeout => "timeout_secs must be positive"
  | .noSlotCap => "auto_parallel_cap must be positive"
  | .reservedDelimiter c =>
    "catalog_delimiter " ++ Text.charQuotes.quote (String.singleton c) ++ " is reserved"

inductive Error
  | catalog (path : Path) (fault : RowFault)
  | unknownDomain (text : String)
  | unknownStatus (text : String)
  | setting (file : Option Path) (fault : SettingFault)
  | completionLog (path : Path) (fault : Fault)
  | record (path : Path) (fault : RecordFault)
  | recordWithoutFolder (path : Path)
  | file (fault : Fault)
deriving DecidableEq, Repr

namespace Error

def message : Error → String
  | .catalog path fault => s!"invalid catalog {path.text}: {fault.message}"
  | .unknownDomain text => s!"unknown analysis domain: {text}"
  | .unknownStatus text => s!"unknown status: {text}"
  | .setting none fault => s!"invalid configuration: {fault.message}"
  | .setting (some path) fault => s!"invalid configuration: {path.text}: {fault.message}"
  | .completionLog path fault => s!"state log {path.text}: {fault.message}"
  | .record path fault => s!"result record {path.text}: {fault.message}"
  | .recordWithoutFolder path => s!"result record {path.text}: record path has no parent directory"
  | .file fault => s!"io error: {fault.message}"

/-- The error's message and those of what brought it about. -/
def chain (e : Error) : List String :=
  match e with
  | .catalog _ fault => [e.message, fault.message]
  | .file fault => [e.message, fault.message]
  | _ => [e.message]

end Error

end Signoff
