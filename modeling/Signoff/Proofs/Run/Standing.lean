import Signoff.Proofs.LogAndRecord
import Signoff.Proofs.Run.Outcome

/-!
# Results that stand

While a run goes on, the result that an earlier run left of a job can be reused exactly if it could
be when the run began, until the job is launched (`reusable?_iff_of_not_launched`).  So the jobs
that the run takes over and does not launch are those whose results stood when it began
(`reused_iff`), whatever domains are repeated and wherever the log lies.
-/

namespace Signoff

open Workspace Deed

namespace Deed

/-- The job is given the result of an earlier run instead of being executed. -/
def Reused (ds : List Deed) (j : Job) (r : JobResult) : Prop := .resumed j r ∈ ds ∧ .launched j ∉ ds

end Deed

namespace Progress

variable {σ : Type} {b : Bench σ} {plan : Plan} {done : CompletionLog.Completions}
  {ds es : List Deed} {p q : Progress σ} {w v : Workspace} {log : LogFile} {scene : Scene σ}
  {j : Job} {r : JobResult}

/-! ## One record -/

/-- Until its job is launched, what can be read from a record of which the log knows does not
change. -/
theorem record_iff_of_not_launched (hidx : (plan.units.map (·.index)).Nodup)
    (hdone : Bench.completions w plan = .ok done) (hopened : b.Opened plan w log v)
    (hframed : Framed b v (b.logAt plan).place (b.logBase w plan) ds p)
    (hplanned : ∀ i, .launched i ∈ ds → i.unit ∈ plan.units) (hj : j.unit ∈ plan.units)
    (hnot : .launched j ∉ ds) {entry : Completion} (hentry : done.lookup? j.key = some entry) :
    (∃ text, p.scene.files.contentAt (b.layout.recordPath j).place = some text.toUTF8 ∧
        Record.decodeFile text = .ok r) ↔
      ∃ text, w.contentAt (b.layout.recordPath j).place = some text.toUTF8 ∧
        Record.decodeFile text = .ok r := by
  have hfree : ∀ i, .launched i ∈ ds → ¬ b.layout.JobFile i (b.layout.recordPath j).place := by
    intro i hi hfile
    have hkey := Layout.key_of_jobFile hfile (Or.inr rfl)
    rw [eq_of_key hidx (hplanned i hi) hj hkey] at hi
    exact hnot hi
  by_cases hlog : (b.layout.recordPath j).place = (b.logAt plan).place
  · rw [hlog] at hfree ⊢
    -- the log is an earlier one, or it would know of no job
    obtain ⟨path, hresume⟩ : ∃ path, plan.resume = some path := by
      cases hres : plan.resume with
      | some path => exact ⟨path, rfl⟩
      | none =>
        unfold Bench.completions at hdone
        rw [hres, Except.ok.injEq] at hdone
        rw [← hdone] at hentry
        cases hentry
    have hat : b.logAt plan = path := by
      unfold Bench.logAt
      rw [hresume]
      rfl
    rw [hat] at hfree hframed ⊢
    rcases Bench.completions_eq_ok hresume hdone with rfl | ⟨text, -, htext, rfl⟩
    · cases hentry
    have hbase : b.logBase w plan = text.toUTF8 := by
      unfold Bench.logBase Bench.logMode
      rw [hresume, hat]
      show (w.contentAt path.place).getD ByteArray.empty = text.toUTF8
      rw [htext, Option.getD_some]
    have hnow : p.scene.files.contentAt path.place = some (text ++ logText ds).toUTF8 := by
      rw [toUTF8_append, ← hbase]
      exact (hframed.keeps hfree).contentAt
    rw [hnow, htext]
    -- the lines that were appended do not make another record of it
    have happend := Record.decodeFile_append hentry (logText ds) r
    constructor
    · rintro ⟨t, ht, hr⟩
      rw [← toUTF8_injective (Option.some.inj ht)] at hr
      exact ⟨text, rfl, happend.mp hr⟩
    · rintro ⟨t, ht, hr⟩
      rw [← toUTF8_injective (Option.some.inj ht)] at hr
      exact ⟨text ++ logText ds, rfl, happend.mpr hr⟩
  · rw [hframed.contentAt_eq hlog hfree, hopened.elsewhere _ hlog]

/-- Until a job is launched, its result can be reused if it could be when the run began. -/
theorem reusable?_iff_of_not_launched (hidx : (plan.units.map (·.index)).Nodup)
    (htree : w.IsTree) (hroot : b.layout.RootStands w)
    (hdone : Bench.completions w plan = .ok done) (hopened : b.Opened plan w log v)
    (hframed : Framed b v (b.logAt plan).place (b.logBase w plan) ds p)
    (hplanned : ∀ i, .launched i ∈ ds → i.unit ∈ plan.units) (hj : j.unit ∈ plan.units)
    (hnot : .launched j ∉ ds) :
    Survey.reusable? p.scene.files b.layout done j = some r ↔
      Survey.reusable? w b.layout done j = some r := by
  have hfolder : ∀ q, w.item? q = some .folder → p.scene.files.item? q = some .folder :=
    fun q hq => hframed.kept q ((hopened.folders q).mpr (Or.inl hq))
  have hsome : ∀ {c : Option ByteArray} {text : String}, c = some text.toUTF8 → c ≠ none := by
    intro c text hc
    rw [hc]
    exact Option.some_ne_none _
  rw [Bench.reusable?_eq_some_iff, Bench.reusable?_eq_some_iff]
  apply exists_congr
  intro entry
  apply and_congr_right
  intro hentry
  have hrecord := @record_iff_of_not_launched σ b plan done ds p w v log j r hidx hdone hopened
    hframed hplanned hj hnot entry hentry
  apply and_congr_right
  intro _
  rw [Bench.cached?_iff, Bench.cached?_iff]
  simp only [readText_eq_ok_iff, and_assoc]
  constructor
  · rintro ⟨text, hleads, htext, hr⟩
    obtain ⟨old, hold, hr'⟩ := hrecord.mp ⟨text, htext, hr⟩
    exact ⟨old, Layout.leads_recordPath hroot htree (hsome hold) (hsome htext) hleads, hold, hr'⟩
  · rintro ⟨text, hleads, htext, hr⟩
    obtain ⟨new, hnew, hr'⟩ := hrecord.mpr ⟨text, htext, hr⟩
    exact ⟨new, hleads.mono hfolder, hnew, hr'⟩

/-! ## Step by step -/

/-- The run executes and takes over what it should, where `stands j r` says that `r` could be reused
for `j` when it began. -/
structure TakesOver (plan : Plan) (stands : Job → JobResult → Prop) (ds : List Deed)
    (p : Progress σ) : Prop where
  planned : ∀ i, .launched i ∈ ds → i.unit ∈ plan.units
  executed : ∀ j r, stands j r → .launched j ∉ ds
  queued : ∀ a, p.active = some a → ∀ j ∈ a.queue, j.unit ∈ plan.units ∧ ∀ r, ¬ stands j r
  reused : ∀ j r, .resumed j r ∈ ds → .launched j ∉ ds → stands j r
  taken : ∀ d, .began d ∈ ds → ∀ j ∈ jobsOf plan.units d, ∀ r, stands j r → .resumed j r ∈ ds

namespace TakesOver

variable {stands : Job → JobResult → Prop}

theorem start : TakesOver plan stands [] (Progress.start plan scene) where
  planned i hi := by simp at hi
  executed j r _ := by simp
  queued a ha := by simp [Progress.start] at ha
  reused j r hj := by simp at hj
  taken d hd := by simp at hd

/-- A step that neither begins a domain nor launches anything takes nothing over. -/
theorem idle (h : TakesOver plan stands ds p) (hbegan : ∀ e ∈ es, e.isBegan = false)
    (hlaunches : launches es = []) (hresumptions : resumptions es = [])
    (hqueue : ∀ a, q.active = some a → ∀ j ∈ a.queue, ∃ a', p.active = some a' ∧ j ∈ a'.queue) :
    TakesOver plan stands (ds ++ es) q := by
  have hlaunched : ∀ i, .launched i ∈ ds ++ es ↔ .launched i ∈ ds := by
    intro i
    rw [← mem_launches, ← mem_launches, launches_append, hlaunches, List.append_nil]
  have hresumed : ∀ i r, .resumed i r ∈ ds ++ es ↔ .resumed i r ∈ ds := by
    intro i r
    rw [← mem_resumptions, ← mem_resumptions, resumptions_append, hresumptions, List.append_nil]
  have hfirst : ∀ d, .began d ∈ ds ++ es → .began d ∈ ds := by
    intro d hd
    refine (List.mem_append.mp hd).resolve_right fun he => ?_
    exact absurd (hbegan _ he) (by simp [isBegan])
  refine ⟨fun i hi => ?_, fun i s hs => ?_, fun a ha i hi => ?_, fun i s hi hn => ?_,
    fun d hd i hi s hs => ?_⟩
  · exact h.planned i ((hlaunched i).mp hi)
  · rw [hlaunched]
    exact h.executed i s hs
  · obtain ⟨a', ha', hi'⟩ := hqueue a ha i hi
    exact h.queued a' ha' i hi'
  · rw [hlaunched] at hn
    exact h.reused i s ((hresumed i s).mp hi) hn
  · exact (hresumed i s).mpr (h.taken d (hfirst d hd) i hi s hs)

/-- A launched job waited for its turn, so no earlier result stood for it. -/
theorem launches (h : TakesOver plan stands ds p) {a : Active} {rest : List Job}
    (ha : p.active = some a) (hq : a.queue = j :: rest) :
    TakesOver plan stands (ds ++ [.launched j]) (p.launch a j rest) := by
  have hj := h.queued a ha j (by simp [hq])
  refine ⟨fun i hi => ?_, fun i s hs hi => ?_, fun a' ha' i hi => ?_, fun i s hi hn => ?_,
    fun d hd i hi s hs => ?_⟩
  · rcases List.mem_append.mp hi with hi | hi
    · exact h.planned i hi
    · have heq : i = j := by simpa using hi
      rw [heq]
      exact hj.1
  · rcases List.mem_append.mp hi with hi | hi
    · exact h.executed i s hs hi
    · have heq : i = j := by simpa using hi
      rw [heq] at hs
      exact hj.2 s hs
  · obtain rfl := Option.some.inj ha'
    exact h.queued a ha i (by simp [hq, show i ∈ rest from hi])
  · have hold : .resumed i s ∈ ds := by simpa using hi
    exact h.reused i s hold fun hmem => hn (List.mem_append_left _ hmem)
  · have hbegan : .began d ∈ ds := by simpa using hd
    exact List.mem_append_left _ (h.taken d hbegan i hi s hs)

/-- A survey takes over the results that stood when the run began. -/
theorem begins (h : TakesOver plan stands ds p) {d : Domain} {s : Survey} (hw : ∀ j r,
      j.unit ∈ plan.units → .launched j ∉ ds →
        (Survey.reusable? w b.layout done j = some r ↔ stands j r))
    (hs : s = Survey.take w b.layout done plan.units d)
    (hqueue : ∀ a, q.active = some a → a.queue = s.queue) :
    TakesOver plan stands (ds ++ .began d :: s.resumed.map fun (j, r) => .resumed j r) q := by
  have hlaunched : ∀ i, .launched i ∈
      ds ++ .began d :: (s.resumed.map fun (j, r) => Deed.resumed j r) ↔ .launched i ∈ ds := by
    intro i
    simp
  have hresumed : ∀ i r, .resumed i r ∈
      ds ++ .began d :: (s.resumed.map fun (j, r) => Deed.resumed j r) ↔
        .resumed i r ∈ ds ∨ (i, r) ∈ s.resumed := by
    intro i r
    rw [List.mem_append, Survey.resumed_mem_deeds]
  refine ⟨fun i hi => ?_, fun i x hx => ?_, fun a ha i hi => ?_, fun i x hi hn => ?_,
    fun e he i hi x hx => ?_⟩
  · exact h.planned i ((hlaunched i).mp hi)
  · rw [hlaunched]
    exact h.executed i x hx
  · rw [hqueue a ha, hs, Survey.take_queue, List.mem_filter] at hi
    obtain ⟨hmem, hnone⟩ := hi
    have hunit := (mem_jobsOf.mp hmem).2
    refine ⟨hunit, fun x hx => ?_⟩
    -- what stands for a job would be found, as the job is not launched
    rw [(hw i x hunit (h.executed i x hx)).mpr hx] at hnone
    simp at hnone
  · rw [hlaunched] at hn
    rcases (hresumed i x).mp hi with hold | hnew
    · exact h.reused i x hold hn
    · rw [hs, Survey.mem_take_resumed] at hnew
      exact (hw i x (mem_jobsOf.mp hnew.1).2 hn).mp hnew.2
  · rw [hresumed]
    rcases List.mem_append.mp he with hold | hnew
    · exact Or.inl (h.taken e hold i hi x hx)
    · have heq : e = d := by simpa using hnew
      rw [heq] at hi
      right
      rw [hs, Survey.mem_take_resumed]
      exact ⟨hi, (hw i x (mem_jobsOf.mp hi).2 (h.executed i x hx)).mpr hx⟩

end TakesOver

theorem takesOver_of_follows (hidx : (plan.units.map (·.index)).Nodup) (htree : w.IsTree)
    (hroot : b.layout.RootStands w) (hdone : Bench.completions w plan = .ok done)
    (hopened : b.Opened plan w log scene.files) (hlog : scene.log = log)
    (h : Follows b plan done (start plan scene) ds p) :
    TakesOver plan (fun j r => Survey.reusable? w b.layout done j = some r) ds p := by
  refine h.induct (motive := fun ds p =>
    TakesOver plan (fun j r => Survey.reusable? w b.layout done j = some r) ds p) .start ?_
  intro ds es p q hfol hf hm ih
  have hframed := framed_of_follows hopened.sound (hlog ▸ hopened.keeps) hfol
  have hstands : ∀ j r, j.unit ∈ plan.units → .launched j ∉ ds →
      (Survey.reusable? p.scene.files b.layout done j = some r ↔
        Survey.reusable? w b.layout done j = some r) := fun j r hj hnot =>
    reusable?_iff_of_not_launched hidx htree hroot hdone hopened hframed ih.planned hj hnot
  cases hm with
  | begins ha hp hs hprep =>
    refine ih.begins hstands hs fun a ha' => ?_
    rw [← Option.some.inj ha']
  | stumbles ha hp hs hprep =>
    refine ih.begins hstands hs fun a ha' => ?_
    simp [ha] at ha'
  | launches ha hq hr => exact ih.launches ha hq
  | advances ha hr hstep =>
    obtain ⟨hlaunches, -, hresumptions⟩ := hstep.enters_nothing
    refine ih.idle (fun e he => hstep.isBegan_of_mem he) hlaunches hresumptions fun a' ha' i hi => ?_
    obtain rfl := Option.some.inj ha'
    exact ⟨_, ha, hi⟩
  | collects ha hr =>
    refine ih.idle (by simp [isBegan]) rfl rfl fun a' ha' i hi => ?_
    obtain rfl := Option.some.inj ha'
    exact ⟨_, ha, hi⟩
  | breaks ha hr => exact ih.idle (by simp) rfl rfl (by simp)
  | closes ha hq hr => exact ih.idle (by simp) rfl rfl (by simp [closeDomain])

end Progress

namespace Bench

variable {σ : Type} {b : Bench σ} {w : Workspace} {plan : Plan} {runId : RunId} {tool : σ}
  {done : CompletionLog.Completions} {ds : List Deed} {p : Progress σ}

theorem Attains.mem_domains (h : b.Attains w plan runId tool ds p) {d : Domain}
    (hd : .began d ∈ ds) : d ∈ plan.domains := by
  obtain ⟨-, done, log, files, -, -, hfollows⟩ := h
  exact Progress.mem_domains_of_began hfollows hd

/-- In a domain that was begun, the jobs that are reused are those whose results stood when the run
began. -/
theorem Attains.reused_iff (h : b.Attains w plan runId tool ds p) (hw : w.Sound)
    (htree : w.IsTree) (hroot : b.layout.RootStands w)
    (hidx : (plan.units.map (·.index)).Nodup) (hdone : completions w plan = .ok done)
    {d : Domain} (hd : .began d ∈ ds) {j : Job} (hj : j ∈ jobsOf plan.units d) (r : JobResult) :
    Reused ds j r ↔ Survey.reusable? w b.layout done j = some r := by
  obtain ⟨log, files, hopen, hfollows⟩ := h.follows hdone
  have htaken := Progress.takesOver_of_follows hidx htree hroot hdone
    (opened_of_openLog hw hopen) rfl hfollows
  constructor
  · exact fun hr => htaken.reused j r hr.1 hr.2
  · exact fun hr => ⟨htaken.taken d hd j hj r hr, htaken.executed j r hr⟩

end Bench

end Signoff
