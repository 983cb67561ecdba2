import Signoff.Report.Basic
import Signoff.Json.Fields
import Signoff.Json.Reader
import Signoff.Json.Writer

/-!
# Reports as JSON

A report is kept as a pretty JSON document, which reads back as the same report.
-/

namespace Signoff

open Signoff.Json

def StatusShare.toJson (s : StatusShare) : Json :=
  ofMembers [("status", ofText s.status.name), ("count", ofNat s.count.toNat),
    ("percent", ofReal s.percent)]

def StatusShare.ofJson? (j : Json) : Option StatusShare := do
  match ← j.fields? ["status", "count", "percent"] with
  | [status, count, percent] =>
    let status ← need? name? status >>= Status.ofName?
    return ⟨status, ← need? uint64? count, ← need? real? percent⟩
  | _ => none

def Domain.ofJson? (j : Json) : Option Domain := (name? j).bind Domain.ofName?

def DomainSummary.toJson (s : DomainSummary) : Json :=
  ofMembers [("domain", ofText s.domain.name), ("total", ofNat s.total.toNat),
    ("counts", .array (s.shares.map StatusShare.toJson))]

def DomainSummary.ofJson? (j : Json) : Option DomainSummary := do
  match ← j.fields? ["domain", "total", "counts"] with
  | [domain, total, shares] =>
    return ⟨← need? Domain.ofJson? domain, ← need? uint64? total,
      ← need? (listOf? StatusShare.ofJson?) shares⟩
  | _ => none

namespace UnitRow

def resultsJson (results : ByDomain JobResult) : Json :=
  ofMembers (results.toList.map fun (d, r) => (d.name, r.toJson))

/-- Results by the names of their domains; of two for one domain the last counts. -/
def readResults? : Json → Option (ByDomain JobResult)
  | .object members => do
    let entries ← members.mapM fun (key, value) => do
      let d ← key.bind Domain.ofName?
      let r ← JobResult.ofJson? value
      return (d, r)
    return ByDomain.ofList entries
  | _ => none

def toJson (u : UnitRow) : Json :=
  ofMembers [("index", ofNat u.index.toNat), ("name", ofText u.name),
    ("workarea", ofText u.workarea.text), ("rtl_tag", ofOption ofText u.rtlTag),
    ("release_date", ofText u.releaseDate), ("release_user", ofText u.releaseUser),
    ("results", resultsJson u.results)]

def ofJson? (j : Json) : Option UnitRow := do
  match ← j.fields? ["index", "name", "workarea", "rtl_tag", "release_date", "release_user",
      "results"] with
  | [index, name, workarea, rtlTag, releaseDate, releaseUser, results] =>
    return {
      index := ← need? uint64? index
      name := ← need? text? name
      workarea := ⟨← need? text? workarea⟩
      rtlTag := ← may? text? rtlTag
      releaseDate := ← need? text? releaseDate
      releaseUser := ← need? text? releaseUser
      results := ← need? readResults? results }
  | _ => none

end UnitRow

def ChipletGroup.toJson (g : ChipletGroup) : Json :=
  ofMembers [("chiplet", ofText g.chiplet), ("units", .array (g.units.map UnitRow.toJson))]

def ChipletGroup.ofJson? (j : Json) : Option ChipletGroup := do
  match ← j.fields? ["chiplet", "units"] with
  | [chiplet, units] =>
    return ⟨← need? text? chiplet, ← need? (listOf? UnitRow.ofJson?) units⟩
  | _ => none

namespace Report

def toJson (r : Report) : Json :=
  ofMembers [("schema_version", ofText r.schemaVersion), ("run_id", ofText r.runId.write),
    ("generated_at", ofText r.generatedAt.writeZulu), ("dry_run", .bool r.dryRun),
    ("domains", .array (r.domains.map fun d => ofText d.name)),
    ("summaries", .array (r.summaries.map DomainSummary.toJson)),
    ("chiplets", .array (r.chiplets.map ChipletGroup.toJson))]

def ofJson? (j : Json) : Option Report := do
  match ← j.fields? ["schema_version", "run_id", "generated_at", "dry_run", "domains",
      "summaries", "chiplets"] with
  | [schemaVersion, runId, generatedAt, dryRun, domains, summaries, chiplets] =>
    let generatedAt ← need? text? generatedAt
    return {
      schemaVersion := ← need? text? schemaVersion
      runId := ← need? text? runId >>= RunId.read?
      generatedAt := ← Time.Instant.readLoose? generatedAt.toList
      dryRun := ← need? bool? dryRun
      domains := ← need? (listOf? Domain.ofJson?) domains
      summaries := ← need? (listOf? DomainSummary.ofJson?) summaries
      chiplets := ← need? (listOf? ChipletGroup.ofJson?) chiplets }
  | _ => none

def write (r : Report) : String := r.toJson.pretty

def read? (text : String) : Option Report := (Json.read? text).bind ofJson?

end Report

end Signoff
