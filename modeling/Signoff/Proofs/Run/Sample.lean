import Signoff.Catalog
import Signoff.Run.Execute

/-!
# A small plan

Units that lie in the output folder itself and a tool that prints nothing, which every domain but
one takes for a missing section.
-/

namespace Signoff.Sample

def unit (index : UInt64) (name : String) : DesignUnit :=
  ⟨index, name, "", ⟨"o"⟩, none, [], "", ""⟩

/-- A plan for two units in one domain. -/
def plan (resume : Option Path) : Plan :=
  ⟨[.timing], [unit 0 "a", unit 1 "b"], false, resume⟩

/-- The rows of a catalog without a malformed line. -/
def rows (catalog : String) : List Catalog.Row := (Catalog.readRows catalog ',').toOption.getD []

/-- A plan for the units of a catalog in one domain. -/
def planOf (catalog : String) (resume : Option Path) : Plan :=
  ⟨[.timing], Catalog.selectRelease (rows catalog) none, false, resume⟩

/-- A tool that answers each attempt at a job in the same way. -/
def tool (answer : Job → UInt32 → ToolAnswer) : Tool Unit :=
  ⟨fun _ _ j attempt _ => (answer j attempt, ())⟩

def silent : Job → UInt32 → ToolAnswer := fun _ _ => .answer ⟨.success, ""⟩

/-- A tool that brings every task down. -/
def collapsing : Job → UInt32 → ToolAnswer := fun _ _ => .collapse

/-- A tool that ends behind the marker of a section, without a newline. -/
def cut : Job → UInt32 → ToolAnswer := fun _ _ => .answer ⟨.success, "===== TIMING ====="⟩

/-- A tool that is timed out at first. -/
def late : Job → UInt32 → ToolAnswer := fun _ attempt =>
  .answer (if attempt = 1 then ⟨.timedOut, "..."⟩ else ⟨.success, "===== TIMING =====\n"⟩)

/-- A bench with the given slots and one retry. -/
def bench (slots : Nat) (answer : Job → UInt32 → ToolAnswer) : Bench Unit :=
  ⟨tool answer, ⟨⟨"o"⟩⟩, ⟨1, 0⟩, 1000, slots, fun n => ⟨n, 0⟩⟩

/-- The same bench while the clock stands still. -/
def stillBench (slots : Nat) (answer : Job → UInt32 → ToolAnswer) : Bench Unit :=
  { bench slots answer with clock := fun _ => ⟨0, 0⟩ }

def runId : RunId := ⟨0⟩

/-- The scene in which the plan starts, with no file but the log. -/
def scene (slots : Nat) (answer : Job → UInt32 → ToolAnswer) : Scene Unit :=
  (bench slots answer).openingScene (plan none) runId
    (Workspace.empty.create ["state.log"] ByteArray.empty) ⟨⟨"state.log"⟩, 0, some 0⟩ ()

/-- The steps of a job's task up to its log line, with one call. -/
def task (place : Nat) : List Choice :=
  List.replicate 5 (.advance place noTrouble)

def job : Job := ⟨.timing, unit 0 "a"⟩

/-- What the first job comes to if the tool prints nothing. -/
def result : JobResult :=
  JobResult.ofVerdict (Verdict.noSection .timing) ⟨"o/raw/timing/00000_a.log"⟩ 1

/-- The first job executed, logged and collected. -/
def firstJob : List Choice :=
  .beginDomain noTrouble :: .launch :: (task 0 ++ [.collect 0])

/-- One job after the other. -/
def inTurn : List Choice :=
  firstJob ++ .launch :: (task 0 ++ [.collect 0, .closeDomain])

/-- One job after the other, with two attempts at each. -/
def twiceInTurn : List Choice :=
  let twice := List.replicate 7 (Choice.advance 0 noTrouble) ++ [.collect 0]
  .beginDomain noTrouble :: .launch :: (twice ++ .launch :: (twice ++ [.closeDomain]))

/-- The other job executed, once the first one has been resumed. -/
def secondJob : List Choice :=
  .beginDomain noTrouble :: .launch :: (task 0 ++ [.collect 0, .closeDomain])

/-- Both jobs launched, and the second one executed before the first. -/
def lastFirst : List Choice :=
  .beginDomain noTrouble :: .launch :: .launch ::
    (task 1 ++ task 0 ++ [.collect 1, .collect 0, .closeDomain])

end Signoff.Sample
