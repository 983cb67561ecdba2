import Signoff.Report.Basic

/-!
# Reports as Markdown

The readable form of a report: a list for each summary, a table for each chiplet with a row for
each unit and a column for each domain, and a list of what stops the release.
-/

namespace Signoff.Report

open Signoff.Text

/-- A text for a table cell: bars are escaped and line feeds become blanks. -/
def cellChar (c : Char) : List Char :=
  if c = '|' then ['\\', '|'] else if c = '\n' then [' '] else [c]

def cell (s : String) : String := String.ofList (s.toList.flatMap cellChar)

/-- A table row with a blank around each cell. -/
def tableRow (cells : List String) : String :=
  "|" ++ String.join (cells.map fun c => s!" {c} |")

def delimiterRow (columns : Nat) : String := "|" ++ String.join (List.replicate columns "---|")

def heading (r : Report) : List String :=
  ["# Regression Report", "", s!"- run: `{r.runId.write}`",
    s!"- generated: {r.generatedAt.write}", s!"- units: {r.unitCount}"] ++
    (if r.dryRun then ["- dry run: no analysis was executed"] else []) ++ [""]

def shareLine (s : StatusShare) : String :=
  s!"- {s.status.name}: {s.count} ({s.percent.fixed 1}%)"

def summaryLines (s : DomainSummary) : List String :=
  [s!"### {s.domain.name} ({s.total} units)"] ++
    (if s.shares.isEmpty then ["- no results"] else s.shares.map shareLine) ++ [""]

def unitLine (domains : List Domain) (u : UnitRow) : String :=
  tableRow (cell u.name :: domains.map fun d =>
    ((u.results.get? d).map (·.status.name)).getD Status.unknown.name)

def chipletLines (domains : List Domain) (g : ChipletGroup) : List String :=
  [s!"## Chiplet {g.chiplet}", "", tableRow ("unit" :: domains.map (·.slug)),
    delimiterRow (1 + domains.length)] ++ g.units.map (unitLine domains) ++ [""]

def blockingLine (entry : UnitRow × Domain × JobResult) : String :=
  let (u, d, r) := entry
  s!"- {u.name} {d.slug} {r.status.name}: {cell r.details}"

def blockingLines (r : Report) : List String :=
  if r.blocking.isEmpty then []
  else ["## Blocking Results", ""] ++ r.blocking.map blockingLine

def markdownLines (r : Report) : List String :=
  r.heading ++ ["## Summary", ""] ++ r.summaries.flatMap summaryLines ++
    r.chiplets.flatMap (chipletLines r.domains) ++ r.blockingLines

def markdown (r : Report) : String := String.join (r.markdownLines.map (· ++ "\n"))

end Signoff.Report
