import Signoff.Proofs.Analysis
import Signoff.Proofs.Report.Codec
import Signoff.Proofs.RecordFile
import Signoff.Proofs.Workspace.Again

/-!
# What survives being kept

A report of finite numbers is read back from every file that it was written to (`reads_back`). The
result of a verdict is read back from its record, and from a report with it, exactly if its
figures are finite. Figures of slack and latency are not finite where the
tool prints a number above the largest one of the format; JSON has no word for it, and the `null`
in its place reads as no number.
-/

namespace Signoff

open Text Number

namespace Report

/-- A file that a report was written to holds it. -/
theorem load_of_writeText {w w' : Workspace} {path : Path} {r : Report}
    (h : w.writeText path r.write = .ok w') :
    load w' path = match read? r.write with
      | some r' => .ok r'
      | none => .error (.malformed path) := by
  have hread := Workspace.readText_of_writeText h
  unfold load
  cases hreport : read? r.write with
  | none => simp only [hread, hreport]
  | some r' => simp only [hread, hreport]

theorem load_of_writeText_iff {w w' : Workspace} {path : Path} {r : Report}
    (ht : r.generatedAt.IsExact) (h : w.writeText path r.write = .ok w') :
    load w' path = .ok r ↔ r.IsFinite := by
  rw [load_of_writeText h, ← read?_write_iff ht]
  generalize read? r.write = read
  cases read with
  | none => exact ⟨nofun, nofun⟩
  | some r' => rw [Except.ok.injEq, Option.some.injEq]

theorem isFinite_iff {r : Report}
    (hpercents : ∀ s ∈ r.summaries, ∀ share ∈ s.shares, share.percent.isFinite = true) :
    r.IsFinite ↔ ∀ x ∈ r.results, x.2.2.figures.IsFinite := by
  refine ⟨fun h x hx => ?_, fun h => ⟨hpercents, fun u hu d result hresult => ?_⟩⟩
  · obtain ⟨g, hg, hx⟩ := List.mem_flatMap.mp hx
    obtain ⟨u, hu, hx⟩ := List.mem_flatMap.mp hx
    obtain ⟨⟨d, result⟩, hentry, rfl⟩ := List.mem_map.mp hx
    exact h.figures u (List.mem_flatMap.mpr ⟨g, hg, hu⟩) d result (ByDomain.mem_toList.mp hentry)
  · obtain ⟨g, hg, hu⟩ := List.mem_flatMap.mp hu
    refine h (u, d, result) (List.mem_flatMap.mpr ⟨g, hg, List.mem_flatMap.mpr ⟨u, hu, ?_⟩⟩)
    exact List.mem_map.mpr ⟨(d, result), ByDomain.mem_toList.mpr hresult, rfl⟩

/-- A report of finite numbers is read back from its text, and from every file that it can be
written to. -/
theorem reads_back {r : Report} (ht : r.generatedAt.IsExact) (h : r.IsFinite) :
    read? r.write = some r ∧
      ∀ (w : Workspace) (path : Path) (place : Place), w.writable path = .ok place →
        w.item? place ≠ some .folder →
        ∃ w', w.writeText path r.write = .ok w' ∧ load w' path = .ok r := by
  refine ⟨read?_write h ht, fun w path place hplace hfile => ?_⟩
  obtain ⟨w', hwrite⟩ := Workspace.exists_write hplace hfile r.write.toUTF8
  exact ⟨w', hwrite, (load_of_writeText_iff ht hwrite).mpr h⟩

/-- The results of a unit with figures of every kind. -/
def fullResults : ByDomain JobResult where
  formal := some ⟨.partialPass, "formal \"ok\"\n", .formal ⟨[⟨.rtlVsPnr, .passed, none⟩,
    ⟨.rtlVsSyn, .crashed, some 18446744073709551615⟩]⟩, none, 4294967295⟩
  timing := some ⟨.warn, "", .timing ⟨some ⟨some ⟨true, 0⟩, none, some 7⟩, none, ⟨true, 1⟩,
    some ⟨false, Binary64.infinity - 1⟩, none⟩, some ⟨"out/\u0000.log"⟩, 0⟩
  physical := some ⟨.failed, "\u0007\t", .physical ⟨some 1, none, some 0⟩, none, 1⟩
  clock := some ⟨.passed, "α😀", .clock ⟨[⟨"clk\\", ⟨false, 3⟩, none⟩], ⟨false, 3⟩, "clk\\"⟩,
    none, 1⟩
  release := some ⟨.noData, "-", .release ⟨0, 9, some "null"⟩, none, 1⟩
  gateLevel := some ⟨.error, "\u2028", .gateLevel ⟨3, 1, 2, [⟨"", 2⟩]⟩, none, 1⟩

/-- A report of the last nanosecond of the year 9999, with all of these results. -/
def fullReport : Report where
  schemaVersion := "1.0\r\n"
  runId := ⟨0x0123456789abcdef0123456789abcdef⟩
  generatedAt := ⟨253402300799, 999999999⟩
  dryRun := true
  domains := [.clock, .timing, .clock]
  summaries := [⟨.clock, 18446744073709551615, [⟨.passed, 2, ⟨false, 1⟩⟩, ⟨.warn, 0, ⟨true, 0⟩⟩]⟩]
  chiplets := [⟨"", []⟩, ⟨"core\u001f", [⟨18446744073709551615, "a/b", ⟨""⟩, none, "", "\"",
    ByDomain.empty⟩, ⟨0, "", ⟨"wa"⟩, some "rtl", "2024-05-01", "jdoe", fullResults⟩]⟩]

theorem isFinite_fullReport : fullReport.IsFinite where
  percents := by decide
  figures := by
    intro u hu d r hr
    have hrows : u ∈ [_, _] := hu
    simp only [List.mem_cons, List.not_mem_nil, or_false] at hrows
    rcases hrows with rfl | rfl
    · cases d <;> cases hr
    · cases d with
      | timing =>
        cases hr
        exact ⟨by rintro s ⟨⟩; exact ⟨by rintro x ⟨⟩; decide, nofun⟩, nofun, by decide,
          by rintro x ⟨⟩; decide⟩
      | clock =>
        cases hr
        refine ⟨fun c hc => ?_, by decide⟩
        rw [List.mem_singleton.mp hc]
        exact ⟨by decide, nofun⟩
      | _ =>
        cases hr
        trivial

theorem reads_back_full :
    ∃ w', Workspace.empty.writeText ⟨"report.json"⟩ fullReport.write = .ok w' ∧
      load w' ⟨"report.json"⟩ = .ok fullReport := by
  have hexact : fullReport.generatedAt.IsExact := by
    show Time.Instant.IsExact ⟨253402300799, 999999999⟩
    exact ⟨by decide +kernel, by decide, by decide⟩
  exact (reads_back hexact isFinite_fullReport).2 Workspace.empty ⟨"report.json"⟩ ["report.json"]
    rfl nofun

theorem isFinite_percentOf {count total : Nat} (hcount : count ≤ total) (htotal : total < 2 ^ 64) :
    (percentOf count total).isFinite = true := by
  unfold percentOf
  split
  · decide
  next hne =>
    have hshare : ((Binary64.ofNat count).mul (Binary64.ofNat 100)).Within (64 + 7 + 6) :=
      (Binary64.within_ofNat (by omega)).mul (Binary64.within_ofNat (by decide)) (by decide)
        (by decide)
    have hunit : 1023 * Binary64.binade ≤ (Binary64.ofNat total).position :=
      Binary64.le_position_ofNat (Nat.one_le_iff_ne_zero.mpr hne)
    have hfinite : (Binary64.ofNat total).isFinite = true :=
      (Binary64.within_ofNat (e := 64) htotal.le).isFinite (by decide)
    exact (hshare.div (by decide) hunit hfinite).isFinite (by decide)

/-- The percentages of a report of a run are finite. -/
theorem isFinite_percents_build {units : List DesignUnit} (hunits : units.length < 2 ^ 64)
    (domains : List Domain) (ledger : Ledger) (dryRun : Bool) (runId : RunId)
    (generatedAt : Time.Instant) :
    ∀ s ∈ (build units domains ledger dryRun runId generatedAt).summaries,
      ∀ share ∈ s.shares, share.percent.isFinite = true := by
  intro s hs share hshare
  obtain ⟨d, -, rfl⟩ := List.mem_map.mp hs
  obtain ⟨status, -, hstatus⟩ := List.mem_filterMap.mp hshare
  dsimp only at hstatus
  split at hstatus
  · exact nomatch hstatus
  · rw [← Option.some.inj hstatus]
    refine isFinite_percentOf List.count_le_length ?_
    rw [List.length_map, inOrder, List.length_mergeSort]
    exact hunits

end Report

namespace JobResult

/-- The result of a verdict is read back from its record, and unchanged from every report with it
whose other numbers are finite, exactly if its figures are finite. They are for every domain that
only counts, and where at most 300 digits stand in a row in the output. -/
theorem survives_iff_finite (d : Domain) (output : String) (raw : Path) (attempts : UInt32)
    (hraw : raw.text.toList ≠ []) :
    let r := ofVerdict (d.classify output) raw attempts
    (Record.decode (Record.encode r) = .ok r ↔ r.figures.IsFinite) ∧
    (∀ report : Report, report.generatedAt.IsExact →
      (∀ s ∈ report.summaries, ∀ share ∈ s.shares, share.percent.isFinite = true) →
      (∃ u c, (u, c, r) ∈ report.results) →
      (∀ x ∈ report.results, x.2.2 ≠ r → x.2.2.figures.IsFinite) →
      ∀ (w w' : Workspace) (path : Path), w.writeText path report.write = .ok w' →
        (Report.load w' path = .ok report ↔ r.figures.IsFinite)) ∧
    ((d.isMeasured = true → RunsWithin 300 output.toList) → r.figures.IsFinite) := by
  intro r
  refine ⟨Record.decode_encode_iff fun path hpath => ?_, ?_, fun hruns => d.isFinite_classify hruns⟩
  · obtain rfl : raw = path := Option.some.inj hpath
    exact hraw
  · intro report htime hpercents hmem hothers w w' path hwrite
    rw [Report.load_of_writeText_iff htime hwrite, Report.isFinite_iff hpercents]
    refine ⟨fun h => ?_, fun h x hx => ?_⟩
    · obtain ⟨u, c, hresult⟩ := hmem
      exact h (u, c, r) hresult
    · by_cases heq : x.2.2 = r
      · rw [heq]
        exact h
      · exact hothers x hx heq

/-- The verdict on slack, as the result of the first unit. -/
def sampleSlack (output : String) : JobResult :=
  ofVerdict (Domain.timing.classify output) ⟨"out/raw/timing/00000_u0.log"⟩ 1

/-- A report with one result. -/
def sampleReport (r : JobResult) : Report :=
  { schemaVersion := Report.schema
    runId := RunId.nil
    generatedAt := ⟨0, 0⟩
    dryRun := false
    domains := [.timing]
    summaries := []
    chiplets := [⟨"core0", [⟨0, "u0", ⟨"wa/u0"⟩, none, "2024-05-01", "jdoe",
      ByDomain.empty.set .timing r⟩]⟩] }

theorem sampleSlack_raw (output : String) :
    ∀ path, (sampleSlack output).raw = some path → path.text.toList ≠ [] := by
  intro path hpath
  obtain rfl : (⟨"out/raw/timing/00000_u0.log"⟩ : Path) = path := Option.some.inj hpath
  decide

theorem figures_sampleSlack {output : String} {body : List Char} {report : SlackReport}
    (hbody : Section.body? .timing output.toList = some body)
    (hread : (SlackPair.read body).combine? = some report) :
    (sampleSlack output).figures = .timing report := by
  simp only [sampleSlack, ofVerdict, Domain.classify, hbody, Verdict.ofBody?, hread,
    Option.map_some, Option.getD_some]

theorem sampleReport_exact (r : JobResult) : (sampleReport r).generatedAt.IsExact := by
  show Time.Instant.IsExact ⟨0, 0⟩
  exact ⟨by decide +kernel, by decide, by decide⟩

theorem sampleReport_percents (r : JobResult) :
    ∀ s ∈ (sampleReport r).summaries, ∀ share ∈ s.shares, share.percent.isFinite = true :=
  fun _ hs => nomatch hs

theorem mem_results_sampleReport {r : JobResult} {x : UnitRow × Domain × JobResult} :
    x ∈ (sampleReport r).results → x.2.2 = r := by
  intro hx
  have hresults : (sampleReport r).results.map (·.2.2) = [r] := rfl
  exact List.mem_singleton.mp (hresults ▸ List.mem_map_of_mem hx)

theorem isFinite_sampleReport (r : JobResult) :
    (sampleReport r).IsFinite ↔ r.figures.IsFinite := by
  rw [Report.isFinite_iff (sampleReport_percents r)]
  refine ⟨fun h => h (_, .timing, r) List.mem_cons_self, fun h x hx => ?_⟩
  rw [mem_results_sampleReport hx]
  exact h

theorem survives_iff_finite_slack :
    let output := "===== TIMING =====\nsetup: WNS=-0.10 TNS=-1,234.5 NVP=7"
    let r := sampleSlack output
    Record.decode (Record.encode r) = .ok r ∧
      ∃ w', Workspace.empty.writeText ⟨"report.json"⟩ (sampleReport r).write = .ok w' ∧
        Report.load w' ⟨"report.json"⟩ = .ok (sampleReport r) := by
  intro output r
  obtain ⟨hrecord, hreport, hfinite⟩ := survives_iff_finite .timing output
    ⟨"out/raw/timing/00000_u0.log"⟩ 1 (by decide)
  have hr := hfinite fun _ => runsWithin_of_length (by decide)
  refine ⟨hrecord.mpr hr, Workspace.empty.create ["report.json"] (sampleReport r).write.toUTF8,
    rfl, ?_⟩
  exact (hreport (sampleReport r) (sampleReport_exact r) (sampleReport_percents r)
    ⟨_, .timing, List.mem_cons_self⟩ (fun x hx hne => absurd (mem_results_sampleReport hx) hne)
    .empty _ _ rfl).mpr hr

theorem lost_of_not_finite {output : String} (h : ¬ (sampleSlack output).figures.IsFinite) :
    Record.decode (Record.encode (sampleSlack output)) ≠ .ok (sampleSlack output) ∧
      Report.read? (sampleReport (sampleSlack output)).write ≠
        some (sampleReport (sampleSlack output)) := by
  refine ⟨fun hrecord => h ?_, fun hreport => h ?_⟩
  · exact (Record.decode_encode_iff (sampleSlack_raw output)).mp hrecord
  · exact (isFinite_sampleReport _).mp ((Report.read?_write_iff (sampleReport_exact _)).mp hreport)

/-- A slack of 310 digits, which is above the largest number. -/
def longLine : List Char := "setup: WNS=1".toList ++ List.replicate 309 '0'

def longSlack : String := String.ofList ("===== TIMING =====\n".toList ++ longLine)

def endlessSlack : SlackReport :=
  ⟨some ⟨some (.infinite false), none, none⟩, none, .infinite false, none, none⟩

theorem toList_longSlack : longSlack.toList = "===== TIMING =====\n".toList ++ longLine :=
  String.toList_ofList

theorem body?_longSlack : Section.body? .timing longSlack.toList = some longLine := by
  rw [toList_longSlack]
  decide +kernel

theorem combine?_longLine : (SlackPair.read longLine).combine? = some endlessSlack := by
  decide +kernel

theorem figures_longSlack : (sampleSlack longSlack).figures = .timing endlessSlack :=
  figures_sampleSlack body?_longSlack combine?_longLine

/-- The verdict on it is lost: neither its record nor a report with it is read back. -/
theorem longSlack_lost :
    Record.decode (Record.encode (sampleSlack longSlack)) ≠ .ok (sampleSlack longSlack) ∧
      Report.read? (sampleReport (sampleSlack longSlack)).write ≠
        some (sampleReport (sampleSlack longSlack)) := by
  have hendless : ∀ r : JobResult, r.figures = .timing endlessSlack → ¬ r.figures.IsFinite := by
    intro r hr h
    rw [hr] at h
    exact absurd h.worst (by decide)
  exact lost_of_not_finite (hendless _ figures_longSlack)

end JobResult

end Signoff
