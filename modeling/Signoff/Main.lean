import Signoff.Command.Help
import Signoff.Launch
import Std.Time.DateTime.Timestamp

/-!
# The command

Reads the current folder into a workspace, lets the program answer the arguments, writes back what
changed, and prints the answer. All decisions are taken by `Command.Program.respond`.
-/

namespace Signoff

/-- Adds an entry of a folder, with all that is in it, to a workspace. -/
partial def loadEntry (w : Workspace) (around : String) (entry : IO.FS.DirEntry) :
    IO Workspace := do
  let name := around ++ entry.fileName
  if ← entry.path.isDir then
    let mut loaded := (w.makeFolders ⟨name⟩).2
    for inner in ← entry.path.readDir do
      loaded ← loadEntry loaded (name ++ "/") inner
    return loaded
  else
    let content ← IO.FS.readBinFile entry.path
    return ((w.write ⟨name⟩ content).toOption).getD w

def loadWorkspace : IO Workspace := do
  let mut w := Workspace.empty
  for entry in ← (← IO.currentDir).readDir do
    w ← loadEntry w "" entry
  return w

/-- Makes the current folder look like the second workspace, if it looks like the first one. -/
def storeWorkspace (before after : Workspace) : IO Unit := do
  let changes := Changes.between before after
  for p in changes.gone do
    match before.item? p, Workspace.below? p with
    | some (.file ..), some name => IO.FS.removeFile name
    | _, _ => pure ()
  for (p, item) in changes.items do
    match item, Workspace.below? p with
    | .folder, some name => IO.FS.createDirAll name
    | .file _ content, some name => IO.FS.writeBinFile name content
    | _, none => pure ()

def currentInstant : IO Time.Instant := do
  let now := (← Std.Time.Timestamp.now).toNanosecondsSinceUnixEpoch.val
  return ⟨now / 1000000000, (now % 1000000000).toNat⟩

def newRunId : IO RunId := do
  return RunId.ofRandom (← IO.getRandomBytes 16).toList

end Signoff

open Signoff in
def main (args : List String) : IO UInt32 := do
  let files ← loadWorkspace
  let now ← currentInstant
  let response := Command.Program.respond {
    files
    config := ← IO.getEnv Command.CommandLine.configVariable
    toolFor := ToolCommand.asTool
    toolState := Changes.none
    settle := Changes.layOver
    processors := 1
    clock := fun _ => now
    runId := ← newRunId } args
  storeWorkspace files response.files
  for line in response.output do
    IO.println line
  IO.eprint response.complaint
  return UInt32.ofNat response.exitCode
