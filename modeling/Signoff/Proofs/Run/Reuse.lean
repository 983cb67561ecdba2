import Signoff.Proofs.Catalog
import Signoff.Proofs.Run.Resume

/-!
# Whose results are reused

A run that goes on with the log of another one, over another catalog, reuses results of jobs with
the same keys.  Their units have the same names, but for bars and carriage returns, which neither
the log nor the name of a record tells from underscores (`reused_of_logged`).
-/

namespace Signoff

open Workspace Deed

/-! ## Names in a log -/

namespace CompletionLog

/-- A character of a name as it stands in a line. -/
theorem sanitizeChar_cases (c : Char) :
    (c = '|' ∨ c = '\n' ∨ c = '\r') ∧ (if c = '|' || c = '\n' || c = '\r' then '_' else c) = '_' ∨
      ¬ (c = '|' ∨ c = '\n' ∨ c = '\r') ∧
        (if c = '|' || c = '\n' || c = '\r' then '_' else c) = c := by
  by_cases h : c = '|' ∨ c = '\n' ∨ c = '\r'
  · exact Or.inl ⟨h, if_pos (by simpa [or_assoc] using h)⟩
  · exact Or.inr ⟨h, if_neg (by simpa [or_assoc] using h)⟩

/-- The name of a unit is trimmed as it stands in the log, as no mark of a line is a blank there. -/
theorem trim_sanitize {name : String} (h : Catalog.IsField name) :
    Text.trim (sanitize name.toList) = sanitize name.toList := by
  -- an underscore is no blank, and every other character is the one in the name
  have hkept : ∀ c d : Char, (if c = '|' || c = '\n' || c = '\r' then '_' else c) = d →
      Text.isBlank c = false → Text.isBlank d = false := by
    intro c d hd hc
    split at hd
    · rw [← hd]
      decide
    · rwa [← hd]
  refine Text.trim_eq_self (fun d hd => ?_) (fun d hd => ?_)
  · rw [sanitize, List.head?_map, Option.map_eq_some_iff] at hd
    obtain ⟨c, hc, hcd⟩ := hd
    rw [← h.trimmed] at hc
    exact hkept c d hcd (Text.not_blank_of_head?_trim hc)
  · rw [sanitize, List.getLast?_map, Option.map_eq_some_iff] at hd
    obtain ⟨c, hc, hcd⟩ := hd
    rw [← h.trimmed] at hc
    exact hkept c d hcd (Text.not_blank_of_getLast?_trim hc)

/-- A file name does not tell a name from what the log makes of it. -/
theorem safeName_eq_of_sanitize {name name' : String} (h : name'.toList = sanitize name.toList) :
    Job.safeName name' = Job.safeName name := by
  unfold Job.safeName
  rw [h, sanitize, List.map_map]
  refine List.map_congr_left fun c _ => ?_
  rw [Function.comp_apply]
  rcases sanitizeChar_cases c with ⟨hmark, hchar⟩ | ⟨-, hchar⟩
  · rw [hchar]
    rcases hmark with rfl | rfl | rfl <;> decide
  · rw [hchar]

end CompletionLog

theorem Progress.unit_of_logged {σ : Type} {b : Bench σ} {plan : Plan}
    {done : CompletionLog.Completions} {scene : Scene σ} {ds : List Deed} {p : Progress σ}
    (hidx : (plan.units.map (·.index)).Nodup) (hdom : plan.domains.Nodup)
    (h : Follows b plan done (start plan scene) ds p) {j : Job} {r : JobResult} {t : Time.Instant}
    (hj : .logged j r t ∈ ds) : j.unit ∈ plan.units :=
  ((courses_of_follows hidx hdom h).member j
    (mem_takes.mpr (Or.inl ((launched_of_deed h).2 j r t hj).1))).2

namespace Bench

variable {σ : Type} {b : Bench σ} {w v : Workspace} {plan : Plan} {scene : Scene σ}
  {ds : List Deed} {p : Progress σ}

/-- What the log of a stopped run says of a key was said of a job with that key. -/
theorem Stopped.logged_of_entry (hselected : plan.IsSelected)
    (h : b.Stopped w plan scene ds p v) (hdom : plan.domains.Nodup) {k : JobKey} {c : Completion}
    (hc : (CompletionLog.read (logText ds)).lookup? k = some c) :
    ∃ i r t, .logged i r t ∈ ds ∧ i.key = k ∧
      c.unitName.toList = CompletionLog.sanitize i.unit.name.toList := by
  obtain ⟨i, r, t, hi, hkey, hname⟩ := Deed.logged_of_lookup? hc
  have hfield := hselected.isField _ (h.mem_of_logged hselected.nodup_index hdom hi).2
  rw [CompletionLog.trim_sanitize hfield] at hname
  exact ⟨i, r, t, hi, hkey, hname⟩

/-- The record of a job lies at one place for all names that the log takes for the same. -/
theorem recordPath_of_entry {l l' : Layout} {i j : Job} (hroot : l'.root.place = l.root.place)
    (hkey : i.key = j.key)
    (hname : j.unit.name.toList = CompletionLog.sanitize i.unit.name.toList) :
    (l'.recordPath j).place = (l.recordPath i).place := by
  have hdomain : i.domain = j.domain := congrArg JobKey.domain hkey
  have hindex : i.unit.index = j.unit.index := congrArg JobKey.index hkey
  have hstem : j.stem = i.stem := by
    unfold Job.stem
    rw [CompletionLog.safeName_eq_of_sanitize hname, hindex]
  rw [Layout.place_recordPath, Layout.place_recordPath, hroot, hdomain, hstem]

section Reused

variable {σ₁ σ₂ : Type} {b₁ : Bench σ₁} {b₂ : Bench σ₂} {plan₁ plan₂ : Plan} {path : Path}
  {runId₁ : RunId} {tool₁ : σ₁} {ds₁ : List Deed} {p₁ : Progress σ₁} {j : Job} {r : JobResult}

/-- A run of the plan reuses a result: wherever it gets to, or in a survey if it only lists. -/
inductive Takes (b : Bench σ) (v : Workspace) (plan : Plan) (j : Job) (r : JobResult) : Prop
  | resumed {runId : RunId} {tool : σ} {ds : List Deed} {p : Progress σ} :
      b.Attains v plan runId tool ds p → .resumed j r ∈ ds → Takes b v plan j r
  | listed {done : CompletionLog.Completions} {d : Domain} : plan.dryRun = true →
      completions v plan = .ok done → d ∈ plan.domains →
      (j, r) ∈ (Survey.take v b.layout done plan.units d).resumed → Takes b v plan j r

/-- A result that is reused has an entry in the log that names the unit, and is in the record. -/
theorem Takes.found (hv : v.Sound) (hidx : (plan.units.map (·.index)).Nodup)
    (hdom : plan.domains.Nodup) (hapart : b.ResumesApart plan) (h : b.Takes v plan j r) :
    ∃ done entry text, completions v plan = .ok done ∧ done.lookup? j.key = some entry ∧
      entry.unitName = j.unit.name ∧
      v.contentAt (b.layout.recordPath j).place = some text.toUTF8 ∧
      Record.decodeFile text = .ok r := by
  cases h with
  | resumed hattains hj =>
    obtain ⟨done, scene, hdone, hopened, hfollows⟩ := hattains.opened hv
    have hapart := apartFrom_logAt hapart
    obtain ⟨-, hmem, entry, text, hlookup, hname, -, htext, hdecode⟩ :=
      (Progress.resumed_iff hidx hdom hopened.sound hopened.keeps hapart hfollows j r).mp hj
    -- opening the log has not touched the record
    have hd : j.domain ∈ plan.domains :=
      ((Progress.courses_of_follows hidx hdom hfollows).member j
        (mem_takes.mpr (Or.inr ⟨r, hj⟩))).1
    have hne : (b.layout.recordPath j).place ≠ (b.logAt plan).place := fun heq =>
      hapart _ hd j hmem (Or.inr heq.symm)
    exact ⟨done, entry, text, hdone, hlookup, hname, (hopened.elsewhere _ hne).symm.trans htext,
      hdecode⟩
  | @listed done d _ hdone _ hj =>
    have hreuse := (Survey.mem_take_resumed.mp hj).2
    unfold Survey.reusable? at hreuse
    split at hreuse
    · cases hreuse
    next entry hlookup =>
      split at hreuse
      next hname =>
        obtain ⟨text, hread, hdecode⟩ := cached?_iff.mp hreuse
        exact ⟨done, entry, text, hdone, hlookup, hname, (readText_eq_ok_iff.mp hread).2, hdecode⟩
      · cases hreuse

/-- A reused result was recorded for a job with the same key.  Take a run of a plan from a catalog
that starts a log of its own, and stops anywhere, and a run of a plan from any catalog that goes on
with that log in the same root.  Each result that the second run reuses is what the record of a
logged job with the same key reads as, and the two units have one name but for bars and carriage
returns of the first one. -/
theorem reused_of_logged (hroot : b₂.layout.root.place = b₁.layout.root.place) (hw : w.Sound)
    (hselected₁ : plan₁.IsSelected) (hselected₂ : plan₂.IsSelected) (hdom₁ : plan₁.domains.Nodup)
    (hdom₂ : plan₂.domains.Nodup) (hfresh : plan₁.resume = none)
    (hresume : plan₂.resume = some path) (hpath : path.place = b₁.layout.logPath.place)
    (hstop : b₁.Attains w plan₁ runId₁ tool₁ ds₁ p₁) (hleft : b₁.Leaves plan₁ runId₁ p₁ v)
    (hj : b₂.Takes v plan₂ j r) :
    ∃ i r₁ t, .logged i r₁ t ∈ ds₁ ∧ i.key = j.key ∧
      j.unit.name.toList = CompletionLog.sanitize i.unit.name.toList ∧
      Record.decodeFile (Record.lineOf r₁) = .ok r ∧ (Record.Keeps r₁ → r = r₁) ∧
      ('|' ∉ i.unit.name.toList → '\r' ∉ i.unit.name.toList → j.unit.name = i.unit.name) := by
  obtain ⟨scene₁, hopened₁, hfollows₁⟩ := hstop.opened_of_fresh hw hfresh
  have hidx₁ := hselected₁.nodup_index
  have hsound := (Progress.housed_of_follows hidx₁ hdom₁ hopened₁.sound hopened₁.keeps
    (apartFrom_logAt fun path hpath => by simp [hfresh] at hpath) hfollows₁).sound
  have h : b₁.Stopped w plan₁ scene₁ ds₁ p₁ v :=
    ⟨hfresh, hopened₁, hfollows₁, hleft.alikeButReport hsound⟩
  -- the log lies right below the root, where no job of the second run has a file
  have hapart₂ : b₂.ResumesApart plan₂ := by
    intro path' hpath' d _ i _
    rw [hresume, Option.some.injEq] at hpath'
    rw [← hpath', hpath, Layout.place_logPath, ← hroot]
    exact Layout.not_jobFile_below_root "state.log"
  obtain ⟨done, entry, text, hdone, hentry, hname, htext, hdecode⟩ :=
    hj.found h.left.sound hselected₂.nodup_index hdom₂ hapart₂
  rcases completions_eq_ok hresume hdone with rfl | ⟨log, -, hlog, rfl⟩
  · cases hentry
  -- the text of the log is that of the lines of the first run
  have hlines : log = logText ds₁ := by
    rw [hpath, (h.contentAt_log hidx₁ hdom₁).2, Option.some.injEq] at hlog
    exact (toUTF8_injective hlog).symm
  rw [hlines] at hentry
  obtain ⟨i, r₁, t, hi, hkey, hsame⟩ := h.logged_of_entry hselected₁ hdom₁ hentry
  rw [hname] at hsame
  -- the record of the second job is that of the first one
  rw [recordPath_of_entry hroot hkey hsame, (h.record_of_logged hidx₁ hdom₁ hi).2,
    Option.some.injEq] at htext
  rw [← toUTF8_injective htext] at hdecode
  refine ⟨i, r₁, t, hi, hkey, hsame, hdecode, fun hkeeps => ?_, fun hbar hcarriage => ?_⟩
  · rw [Record.decodeFile_lineOf hkeeps] at hdecode
    exact (Except.ok.inj hdecode).symm
  · have hfield := hselected₁.isField _ (h.mem_of_logged hidx₁ hdom₁ hi).2
    have hplain : CompletionLog.IsName i.unit.name :=
      ⟨hfield.trimmed, hfield.nonempty, hbar, hfield.feed, hcarriage⟩
    rw [CompletionLog.sanitize_eq_self hplain] at hsame
    exact String.toList_inj.mp hsame

end Reused

end Bench

/-! ## Small catalogs -/

namespace Sample

theorem isSelected_planOf {catalog : String} (resume : Option Path)
    (hread : (Catalog.readRows catalog ',').toOption.isSome = true)
    (hlength : (rows catalog).length ≤ UInt64.size) : (planOf catalog resume).IsSelected := by
  obtain ⟨read, hok⟩ := Bench.exists_eq_ok hread
  have hrows : rows catalog = read := by rw [rows, hok]; rfl
  -- an empty filter keeps all units
  refine ⟨catalog, ',', rows catalog, none, ⟨[], none⟩, by rw [hrows]; exact hok, hlength, ?_⟩
  exact (List.filter_eq_self.mpr fun u _ => rfl).symm

end Sample

namespace Bench

/-- A run is followed by some steps of another one, which lead to where a test holds. -/
theorem exists_followed {σ₁ σ₂ : Type} {b₁ : Bench σ₁} {b₂ : Bench σ₂} {w : Workspace}
    {plan₁ plan₂ : Plan} {runId₁ runId₂ : RunId} {tool₁ : σ₁} {tool₂ : σ₂} {cs : List Choice}
    (hdry : plan₁.dryRun = false)
    (hrun : (b₁.run w plan₁ runId₁ tool₁).result.toOption.isSome = true)
    (test : List Deed → Progress σ₂ → Bool)
    (h : (b₂.play (b₁.run w plan₁ runId₁ tool₁).files plan₂ runId₂ tool₂ cs).any
      (fun e => test e.1 e.2) = true) :
    ∃ ds₁ p₁ r₁ ds₂ p₂, b₁.Finishes w plan₁ runId₁ tool₁ ds₁ p₁ r₁ ∧
      b₂.Attains (b₁.finish plan₁ runId₁ p₁).files plan₂ runId₂ tool₂ ds₂ p₂ ∧
      test ds₂ p₂ = true := by
  obtain ⟨r₁, hresult⟩ := exists_eq_ok hrun
  obtain ⟨ds₁, p₁, hfin₁, hfiles⟩ := exists_finishes_of_run hdry hresult
  obtain ⟨ds₂, p₂, hattains₂, htest⟩ := exists_attains test h
  exact ⟨ds₁, p₁, r₁, ds₂, p₂, hfin₁, hfiles ▸ hattains₂, htest⟩

/-- A result of the named unit is reused. -/
def reusesFor (name : String) (ds : List Deed) (_ : Progress Unit) : Bool :=
  (resumptions ds).any fun e => e.1.unit.name == name

theorem exists_resumed {name : String} {ds : List Deed} {p : Progress Unit}
    (h : reusesFor name ds p = true) : ∃ j r, .resumed j r ∈ ds ∧ j.unit.name = name := by
  obtain ⟨⟨j, r⟩, he, hname⟩ := List.any_eq_true.mp h
  exact ⟨j, r, mem_resumptions.mp he, beq_iff_eq.mp hname⟩

/-- A run goes on with the log of another one over the same catalog, and reuses the result of the
unit with the same name. -/
theorem reused_of_logged_same_catalog :
    ∃ ds₁ p₁ r₁ ds₂ p₂ j r,
      (Sample.planOf "a,c,o" none).IsSelected ∧
      (Sample.bench 1 Sample.silent).Finishes .empty (Sample.planOf "a,c,o" none) Sample.runId ()
        ds₁ p₁ r₁ ∧
      (Sample.bench 1 Sample.silent).Attains
        ((Sample.bench 1 Sample.silent).finish (Sample.planOf "a,c,o" none) Sample.runId p₁).files
        (Sample.planOf "a,c,o" (some ⟨"o/state.log"⟩)) Sample.runId () ds₂ p₂ ∧
      .resumed j r ∈ ds₂ ∧ j.unit.name = "a" ∧
      ∃ i r' t, .logged i r' t ∈ ds₁ ∧ i.key = j.key ∧ i.unit.name = "a" := by
  obtain ⟨ds₁, p₁, r₁, ds₂, p₂, hfin₁, hattains₂, htest⟩ := @exists_followed Unit Unit
    (Sample.bench 1 Sample.silent) (Sample.bench 1 Sample.silent) .empty
    (Sample.planOf "a,c,o" none) (Sample.planOf "a,c,o" (some ⟨"o/state.log"⟩)) Sample.runId
    Sample.runId () () [.beginDomain noTrouble] rfl (by decide +kernel) (reusesFor "a")
    (by decide +kernel)
  obtain ⟨j, r, hj, hname⟩ := exists_resumed htest
  have hselected : ∀ resume, (Sample.planOf "a,c,o" resume).IsSelected := fun resume =>
    Sample.isSelected_planOf resume (by decide) (by decide)
  obtain ⟨i, r', t, hi, hkey, hsame, -⟩ := reused_of_logged rfl sound_empty (hselected none)
    (hselected (some ⟨"o/state.log"⟩)) (by decide) (by decide) rfl rfl (by decide) hfin₁.1
    (.finished hfin₁.2.1) (.resumed hattains₂ hj)
  -- what a line makes of the name of the only unit is that name
  obtain ⟨scene₁, -, hfollows₁⟩ := hfin₁.1.opened_of_fresh sound_empty rfl
  have hunit := Progress.unit_of_logged (hselected none).nodup_index (by decide) hfollows₁ hi
  have hall : ∀ u ∈ (Sample.planOf "a,c,o" none).units, u.name = "a" := by decide
  exact ⟨ds₁, p₁, r₁, ds₂, p₂, j, r, hselected none, hfin₁, hattains₂, hj, hname, i, r', t, hi,
    hkey, hall _ hunit⟩

/-- The names of two units differ in a bar and an underscore, so the log of one catalog names the
unit of the other, and the record is found as well: the result is reused for a unit that was never
executed. -/
theorem reused_for_other_unit :
    ∃ ds₁ p₁ r₁ ds₂ p₂ j r,
      (Sample.planOf "a|b,c,o" none).IsSelected ∧
      (Sample.planOf "a_b,c,o" (some ⟨"o/state.log"⟩)).IsSelected ∧
      (Sample.bench 1 Sample.silent).layout.logPath = ⟨"o/state.log"⟩ ∧
      (Sample.bench 1 Sample.silent).Finishes .empty (Sample.planOf "a|b,c,o" none) Sample.runId ()
        ds₁ p₁ r₁ ∧
      (Sample.bench 1 Sample.silent).Attains
        ((Sample.bench 1 Sample.silent).finish (Sample.planOf "a|b,c,o" none) Sample.runId p₁).files
        (Sample.planOf "a_b,c,o" (some ⟨"o/state.log"⟩)) Sample.runId () ds₂ p₂ ∧
      .resumed j r ∈ ds₂ ∧ ∀ i r' t, .logged i r' t ∈ ds₁ → i.unit.name ≠ j.unit.name := by
  obtain ⟨ds₁, p₁, r₁, ds₂, p₂, hfin₁, hattains₂, htest⟩ := @exists_followed Unit Unit
    (Sample.bench 1 Sample.silent) (Sample.bench 1 Sample.silent) .empty
    (Sample.planOf "a|b,c,o" none) (Sample.planOf "a_b,c,o" (some ⟨"o/state.log"⟩)) Sample.runId
    Sample.runId () () [.beginDomain noTrouble] rfl (by decide +kernel) (reusesFor "a_b")
    (by decide +kernel)
  obtain ⟨j, r, hj, hname⟩ := exists_resumed htest
  have hselected : (Sample.planOf "a|b,c,o" none).IsSelected :=
    Sample.isSelected_planOf _ (by decide) (by decide)
  refine ⟨ds₁, p₁, r₁, ds₂, p₂, j, r, hselected,
    Sample.isSelected_planOf _ (by decide) (by decide), by decide, hfin₁,
    hattains₂, hj, fun i r' t hi => ?_⟩
  obtain ⟨scene₁, -, hfollows₁⟩ := hfin₁.1.opened_of_fresh sound_empty rfl
  have hunit := Progress.unit_of_logged hselected.nodup_index (by decide) hfollows₁ hi
  have hall : ∀ u ∈ (Sample.planOf "a|b,c,o" none).units, u.name ≠ "a_b" := by decide
  rw [hname]
  exact hall _ hunit

end Bench

end Signoff
