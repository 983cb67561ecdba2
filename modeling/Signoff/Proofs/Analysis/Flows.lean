import Mathlib.Data.Fintype.Basic
import Mathlib.Logic.Function.Basic
import Signoff.Verdict

/-!
# The formal verdict

A report has one result for each flow that some line of the section is about, in the order of
`Flow.all` and as the last of these lines has it (`read_flows`). The states in the report decide the
verdict by the first rule that applies (`statusFor`), and nothing else of the section counts.
-/

namespace Signoff

open Text

namespace Flow

instance : Fintype Flow where
  elems := ⟨all, by decide⟩
  complete f := by cases f <;> decide

theorem mem_all (f : Flow) : f ∈ all := by cases f <;> decide

theorem rank_lt_all : all.Pairwise fun f g => f.rank < g.rank := by decide

end Flow

namespace FlowReport

/-! ## What the lines of a section say -/

/-- The last of the results for a flow. -/
def latest? (results : List FlowResult) (f : Flow) : Option FlowResult :=
  (results.filter (·.flow == f)).getLast?

theorem flow_of_latest? {results : List FlowResult} {f : Flow} {r : FlowResult}
    (h : latest? results f = some r) : r.flow = f := by
  have hmem := List.mem_of_getLast? h
  simpa using List.of_mem_filter hmem

theorem latest?_append (results : List FlowResult) (r : FlowResult) :
    latest? (results ++ [r]) = Function.update (latest? results) r.flow (some r) := by
  funext f
  unfold latest?
  rw [List.filter_append]
  by_cases hf : f = r.flow
  · subst hf
    rw [Function.update_self, List.filter_cons_of_pos (by simp), List.filter_nil,
      List.getLast?_concat]
  · have hne : (r.flow == f) = false := by simpa using Ne.symm hf
    rw [Function.update_of_ne hf, List.filter_cons_of_neg (by simp [hne]), List.filter_nil,
      List.append_nil]

theorem place_of_before {r : FlowResult} {flows : List FlowResult}
    (h : ∀ s ∈ flows, r.flow.rank < s.flow.rank) : place r flows = r :: flows := by
  cases flows with
  | nil => rfl
  | cons s rest =>
    have hlt := h s List.mem_cons_self
    have hne : r.flow ≠ s.flow := by
      intro heq
      rw [heq] at hlt
      omega
    rw [place, if_neg hne, if_pos hlt]

/-- A result takes the place of its flow in a list that goes through flows in order. -/
theorem place_filterMap {known : Flow → Option FlowResult} {r : FlowResult} {fs : List Flow}
    (hknown : ∀ f s, known f = some s → s.flow = f) (hfs : fs.Pairwise fun f g => f.rank < g.rank)
    (hr : r.flow ∈ fs) :
    place r (fs.filterMap known) = fs.filterMap (Function.update known r.flow (some r)) := by
  induction fs with
  | nil => exact absurd hr List.not_mem_nil
  | cons f fs ih =>
    obtain ⟨hfirst, hrest⟩ := List.pairwise_cons.mp hfs
    by_cases hf : r.flow = f
    · -- the flows behind this one keep what they have
      have hsame : fs.filterMap (Function.update known r.flow (some r)) = fs.filterMap known := by
        apply List.filterMap_congr
        intro g hg
        have hlt := hfirst g hg
        apply Function.update_of_ne
        intro heq
        rw [heq, hf] at hlt
        omega
      have hput : Function.update known r.flow (some r) f = some r := by
        rw [← hf]
        exact Function.update_self ..
      rw [List.filterMap_cons_some hput, hsame]
      cases hold : known f with
      | none =>
        rw [List.filterMap_cons_none hold]
        apply place_of_before
        intro s hs
        obtain ⟨g, hg, hgs⟩ := List.mem_filterMap.mp hs
        rw [hknown g s hgs, hf]
        exact hfirst g hg
      | some s =>
        have hflow := hknown f s hold
        rw [List.filterMap_cons_some hold, place, if_pos (hf.trans hflow.symm)]
    · have hmem : r.flow ∈ fs := (List.mem_cons.mp hr).resolve_left hf
      have hkeep : Function.update known r.flow (some r) f = known f :=
        Function.update_of_ne (Ne.symm hf) _ _
      cases hold : known f with
      | none =>
        rw [List.filterMap_cons_none hold, List.filterMap_cons_none (hkeep.trans hold)]
        exact ih hrest hmem
      | some s =>
        have hflow := hknown f s hold
        have hlt := hfirst r.flow hmem
        rw [List.filterMap_cons_some hold, List.filterMap_cons_some (hkeep.trans hold), place,
          if_neg (by rwa [hflow]), if_neg (by rw [hflow]; omega), ih hrest hmem]

theorem foldl_place (results : List FlowResult) :
    results.foldl (fun flows r => place r flows) [] = Flow.all.filterMap (latest? results) := by
  induction results using List.reverseRecOn with
  | nil => rfl
  | append_singleton results r ih =>
    rw [List.foldl_append, ih, List.foldl_cons, List.foldl_nil, latest?_append]
    exact place_filterMap (fun f s => flow_of_latest?) Flow.rank_lt_all (Flow.mem_all r.flow)

/-- What the last line about a flow says. -/
def lastLine? (body : List Char) (f : Flow) : Option FlowResult :=
  latest? ((lines body).filterMap readLine?) f

theorem read_flows (body : List Char) :
    (read body).flows = Flow.all.filterMap (lastLine? body) := foldl_place _

theorem mem_read {body : List Char} {r : FlowResult} :
    r ∈ (read body).flows ↔ lastLine? body r.flow = some r := by
  rw [read_flows, List.mem_filterMap]
  constructor
  · rintro ⟨f, -, hf⟩
    rwa [flow_of_latest? hf]
  · intro h
    exact ⟨r.flow, Flow.mem_all r.flow, h⟩

/-- Every flow that is reported stands in the report once, in the order of all flows. -/
theorem map_flow_read (body : List Char) :
    (read body).flows.map (·.flow) = Flow.all.filter fun f => (lastLine? body f).isSome := by
  rw [read_flows]
  generalize Flow.all = fs
  induction fs with
  | nil => rfl
  | cons f fs ih =>
    cases hf : lastLine? body f with
    | none => rw [List.filterMap_cons_none hf, List.filter_cons_of_neg (by simp [hf]), ih]
    | some r =>
      rw [List.filterMap_cons_some hf, List.filter_cons_of_pos (by simp [hf]), List.map_cons, ih,
        flow_of_latest? hf]

theorem read_eq_empty_iff (body : List Char) :
    (read body).flows = [] ↔ ∀ line ∈ lines body, readLine? line = none := by
  have hresults : (lines body).filterMap readLine? = [] ↔
      ∀ line ∈ lines body, readLine? line = none := List.filterMap_eq_nil_iff
  rw [← hresults, List.eq_nil_iff_forall_not_mem, List.eq_nil_iff_forall_not_mem]
  constructor
  · intro h r hr
    -- among the lines about the flow of this one there is a last one
    have hmem : r ∈ ((lines body).filterMap readLine?).filter (·.flow == r.flow) := by
      simpa using hr
    obtain ⟨s, hs⟩ := Option.isSome_iff_exists.mp
      (List.getLast?_isSome.mpr (List.ne_nil_of_mem hmem))
    have hflow : s.flow = r.flow := flow_of_latest? hs
    exact h s (mem_read.mpr (by rw [hflow]; exact hs))
  · intro h r hr
    have hlast := List.mem_of_getLast? (mem_read.mp hr)
    exact h r (List.mem_of_mem_filter hlast)

/-! ## The states of the flows -/

/-- The verdict on flows in these states, by the first rule that applies. -/
def statusFor (state : Flow → Option FlowState) : Status :=
  if ∃ f, state f = some .crashed then .crashed
  else if ∃ f, f.isPrimary = true ∧ state f = some .failed then .failed
  else if ∃ f, state f = some .running then .running
  else if ∃ f, state f = some .unresolved then .unresolved
  else if (∀ f, f.isPrimary = true → state f = some .passed) ∧
      ¬ ∃ f, f.isPrimary = false ∧ state f = some .failed then .passed
  else if ∃ f, f.isPrimary = true ∧ state f = some .passed then .partialPass
  else if ∃ f, f.isPrimary = false ∧ state f = some .failed then .failed
  else .unknown

variable {report : FlowReport} {state : Flow → Option FlowState}

/-- The report has these states, and none for a flow that it leaves out. -/
def HasStates (report : FlowReport) (state : Flow → Option FlowState) : Prop :=
  ∀ f s, state f = some s ↔ ∃ r ∈ report.flows, r.flow = f ∧ r.state = s

theorem hasStates_read (body : List Char) :
    (read body).HasStates fun f => (lastLine? body f).map (·.state) := by
  intro f s
  rw [Option.map_eq_some_iff]
  constructor
  · rintro ⟨r, hr, rfl⟩
    have hflow := flow_of_latest? hr
    exact ⟨r, mem_read.mpr (by rw [hflow]; exact hr), hflow, rfl⟩
  · rintro ⟨r, hr, rfl, rfl⟩
    exact ⟨r, mem_read.mp hr, rfl⟩

theorem withState?_eq_none_iff (h : report.HasStates state) (s : FlowState) :
    report.withState? s = none ↔ ¬ ∃ f, state f = some s := by
  unfold withState?
  rw [List.find?_eq_none]
  simp only [h _ s, beq_iff_eq]
  constructor
  · rintro hnone ⟨f, r, hr, -, hs⟩
    exact hnone r hr hs
  · intro hnone r hr hs
    exact hnone ⟨r.flow, r, hr, rfl, hs⟩

theorem primaryFailure?_eq_none_iff (h : report.HasStates state) :
    report.primaryFailure? = none ↔ ¬ ∃ f, f.isPrimary = true ∧ state f = some .failed := by
  unfold primaryFailure?
  rw [List.find?_eq_none]
  simp only [h _ FlowState.failed, Bool.and_eq_true, beq_iff_eq]
  constructor
  · rintro hnone ⟨f, hf, r, hr, rfl, hs⟩
    exact hnone r hr ⟨hs, hf⟩
  · rintro hnone r hr ⟨hs, hf⟩
    exact hnone ⟨r.flow, hf, r, hr, rfl, hs⟩

theorem exists_state_of_withState? (h : report.HasStates state) {s : FlowState} {r : FlowResult}
    (hr : report.withState? s = some r) : ∃ f, state f = some s := by
  by_contra hnone
  rw [(withState?_eq_none_iff h s).mpr hnone] at hr
  exact nomatch hr

/-- The states that look-ups in the report find are the states that it has. -/
theorem stateOf?_eq (h : report.HasStates state) : report.stateOf? = state := by
  funext f
  unfold stateOf?
  cases hfind : report.flows.find? (·.flow == f) with
  | none =>
    rw [List.find?_eq_none] at hfind
    cases hstate : state f with
    | none => rfl
    | some s =>
      obtain ⟨r, hr, hflow, -⟩ := (h f s).mp hstate
      exact absurd (by simpa using hflow) (hfind r hr)
  | some r =>
    have hflow : r.flow = f := by simpa using List.find?_some hfind
    exact ((h f r.state).mpr ⟨r, List.mem_of_find?_eq_some hfind, hflow, rfl⟩).symm

/-! ## The verdict -/

theorem forall_primary {p : Flow → Prop} :
    (∀ f, f.isPrimary = true → p f) ↔ p .rtlVsPnr ∧ p .rtlVsPnrBbox := by
  constructor
  · intro h
    exact ⟨h _ rfl, h _ rfl⟩
  · rintro ⟨hpnr, hbbox⟩ f hf
    cases f with
    | rtlVsPnr => exact hpnr
    | rtlVsPnrBbox => exact hbbox
    | rtlVsSyn => exact nomatch hf
    | rtlVsSynBbox => exact nomatch hf

theorem exists_primary {p : Flow → Prop} :
    (∃ f, f.isPrimary = true ∧ p f) ↔ p .rtlVsPnr ∨ p .rtlVsPnrBbox := by
  constructor
  · rintro ⟨f, hf, hp⟩
    cases f with
    | rtlVsPnr => exact .inl hp
    | rtlVsPnrBbox => exact .inr hp
    | rtlVsSyn => exact nomatch hf
    | rtlVsSynBbox => exact nomatch hf
  · rintro (hp | hp)
    · exact ⟨_, rfl, hp⟩
    · exact ⟨_, rfl, hp⟩

/-- How many primary flows passed decides, and a failure of a secondary one, when no flow crashed,
failed as a primary one, runs or is unresolved. -/
theorem status_primaryVerdict (h : report.HasStates state) (hsecondary :
      (∃ f, state f = some .failed) ↔ ∃ f, f.isPrimary = false ∧ state f = some .failed) :
    report.primaryVerdict.1 =
      if (∀ f, f.isPrimary = true → state f = some .passed) ∧
        ¬ ∃ f, f.isPrimary = false ∧ state f = some .failed then .passed
      else if ∃ f, f.isPrimary = true ∧ state f = some .passed then .partialPass
      else if ∃ f, f.isPrimary = false ∧ state f = some .failed then .failed
      else .unknown := by
  simp only [forall_primary, exists_primary (p := fun f => state f = some .passed), ← hsecondary]
  unfold primaryVerdict passedPrimaries
  rw [stateOf?_eq h]
  have hnone := withState?_eq_none_iff h .failed
  cases hfailed : report.withState? .failed with
  | none =>
    have hno : ¬ ∃ f, state f = some .failed := hnone.mp hfailed
    by_cases hpnr : state .rtlVsPnr = some .passed <;>
      by_cases hbbox : state .rtlVsPnrBbox = some .passed <;> simp [hpnr, hbbox, hno]
  | some r =>
    have hsome : ∃ f, state f = some .failed := exists_state_of_withState? h hfailed
    by_cases hpnr : state .rtlVsPnr = some .passed <;>
      by_cases hbbox : state .rtlVsPnrBbox = some .passed <;> simp [hpnr, hbbox, hsome]

theorem status_verdict (h : report.HasStates state) : report.verdict.1 = statusFor state := by
  unfold verdict statusFor
  cases hcrashed : report.withState? .crashed with
  | some r => rw [if_pos (exists_state_of_withState? h hcrashed)]
  | none =>
    rw [if_neg ((withState?_eq_none_iff h .crashed).mp hcrashed)]
    have hprimary := primaryFailure?_eq_none_iff h
    cases hfailed : report.primaryFailure? with
    | some r =>
      have hsome : ∃ f, f.isPrimary = true ∧ state f = some .failed := by
        by_contra hno
        rw [hprimary.mpr hno] at hfailed
        exact nomatch hfailed
      rw [if_pos hsome]
    | none =>
      have hno := hprimary.mp hfailed
      rw [if_neg hno]
      cases hrunning : report.withState? .running with
      | some r => rw [if_pos (exists_state_of_withState? h hrunning)]
      | none =>
        rw [if_neg ((withState?_eq_none_iff h .running).mp hrunning)]
        cases hunresolved : report.withState? .unresolved with
        | some r => rw [if_pos (exists_state_of_withState? h hunresolved)]
        | none =>
          rw [if_neg ((withState?_eq_none_iff h .unresolved).mp hunresolved)]
          apply status_primaryVerdict h
          -- no primary flow failed, so whatever failed is a secondary one
          constructor
          · rintro ⟨f, hf⟩
            refine ⟨f, ?_, hf⟩
            by_contra hprim
            exact hno ⟨f, by simpa using hprim, hf⟩
          · rintro ⟨f, -, hf⟩
            exact ⟨f, hf⟩

/-! ## The order of the lines -/

def isAbout (f : Flow) (line : List Char) : Bool := (readLine? line).any (·.flow == f)

theorem filter_results (ls : List (List Char)) (f : Flow) :
    (ls.filterMap readLine?).filter (·.flow == f) =
      (ls.filter (isAbout f)).filterMap readLine? := by
  induction ls with
  | nil => rfl
  | cons line ls ih =>
    cases hread : readLine? line with
    | none =>
      have hother : isAbout f line = false := by simp [isAbout, hread]
      rw [List.filterMap_cons_none hread, ih, List.filter_cons_of_neg (by simp [hother])]
    | some r =>
      rw [List.filterMap_cons_some hread]
      have habout : isAbout f line = (r.flow == f) := by simp [isAbout, hread]
      by_cases hf : r.flow = f
      · rw [List.filter_cons_of_pos (by simpa using hf),
          List.filter_cons_of_pos (by simpa [habout] using hf), List.filterMap_cons_some hread, ih]
      · rw [List.filter_cons_of_neg (by simpa using hf),
          List.filter_cons_of_neg (by simpa [habout] using hf), ih]

/-- Only the order of the lines about one flow counts. -/
theorem read_congr {body other : List Char}
    (h : ∀ f, (lines body).filter (isAbout f) = (lines other).filter (isAbout f)) :
    read body = read other := by
  have hlast : lastLine? body = lastLine? other := by
    funext f
    unfold lastLine? latest?
    rw [filter_results, filter_results, h f]
  have hflows : (read body).flows = (read other).flows := by rw [read_flows, read_flows, hlast]
  calc read body = ⟨(read body).flows⟩ := rfl
    _ = ⟨(read other).flows⟩ := by rw [hflows]
    _ = read other := rfl

theorem ofBody?_formal (body : List Char) :
    Verdict.ofBody? .formal body =
      if (read body).flows = [] then none
      else some ⟨(read body).verdict.1, (read body).verdict.2, .formal (read body)⟩ := by
  simp only [Verdict.ofBody?, List.isEmpty_iff]

/-- The report on a text has each flow that a recognised line is about once, in the order of all
flows and as the last such line has it. Where the text is the section of an output, the states
decide the status by the rules of `statusFor`, and there is no data without a recognised line.
Sections that agree in the lines about each flow have the same verdict, in whatever order lines
about different flows stand. -/
theorem verdict_by_priority (body : List Char) :
    (read body).flows.map (·.flow) = Flow.all.filter (fun f => (lastLine? body f).isSome) ∧
    (∀ r, r ∈ (read body).flows ↔ lastLine? body r.flow = some r) ∧
    ∀ output : String, Section.body? .formal output.toList = some body →
      (Domain.formal.classify output).status =
        (if ∀ line ∈ lines body, readLine? line = none then .noData
          else statusFor fun f => (lastLine? body f).map (·.state)) ∧
      ∀ (output' : String) (body' : List Char),
        Section.body? .formal output'.toList = some body' →
        (∀ f, (lines body).filter (isAbout f) = (lines body').filter (isAbout f)) →
        Domain.formal.classify output' = Domain.formal.classify output := by
  refine ⟨map_flow_read body, fun r => mem_read, ?_⟩
  intro output h
  have hclassify : Domain.formal.classify output =
      (Verdict.ofBody? .formal body).getD (Verdict.noData .formal) := by
    unfold Domain.classify
    rw [h]
  constructor
  · rw [hclassify, ofBody?_formal]
    by_cases hnone : ∀ line ∈ lines body, readLine? line = none
    · rw [if_pos hnone, if_pos ((read_eq_empty_iff body).mpr hnone)]
      rfl
    · rw [if_neg hnone, if_neg (fun hempty => hnone ((read_eq_empty_iff body).mp hempty)),
        Option.getD_some]
      exact status_verdict (hasStates_read body)
  · intro output' body' h' hlines
    rw [hclassify, ofBody?_formal, read_congr hlines, ← ofBody?_formal]
    unfold Domain.classify
    rw [h']

end FlowReport

namespace Sample

def formalSection (body : String) : String := "===== FORMAL =====\n" ++ body

/-- A primary flow fails at first and passes at last, and a secondary one fails. -/
def flowLines : String :=
  "rtl_vs_pnr : FAILED\nlicense ok\nrtl_vs_syn : FAILED (3 failing points)\nFlow rtl2pnr: PASSED"

/-- The same lines, with the one about the secondary flow in front. -/
def movedFlowLines : String :=
  "rtl_vs_syn : FAILED (3 failing points)\nrtl_vs_pnr : FAILED\nFlow rtl2pnr: PASSED\nlicense ok"

end Sample

namespace FlowReport

theorem verdict_by_priority_moved_line :
    Section.body? .formal (Sample.formalSection Sample.flowLines).toList =
      some Sample.flowLines.toList ∧
    (Domain.formal.classify (Sample.formalSection Sample.flowLines)).status = .partialPass ∧
    Domain.formal.classify (Sample.formalSection Sample.movedFlowLines) =
      Domain.formal.classify (Sample.formalSection Sample.flowLines) := by
  have hbody : Section.body? .formal (Sample.formalSection Sample.flowLines).toList =
      some Sample.flowLines.toList := by decide +kernel
  have hmoved : Section.body? .formal (Sample.formalSection Sample.movedFlowLines).toList =
      some Sample.movedFlowLines.toList := by decide +kernel
  have hlines : ∀ f, (lines Sample.flowLines.toList).filter (isAbout f) =
      (lines Sample.movedFlowLines.toList).filter (isAbout f) := by decide +kernel
  obtain ⟨-, -, houtput⟩ := verdict_by_priority Sample.flowLines.toList
  obtain ⟨hstatus, hsame⟩ := houtput _ hbody
  refine ⟨hbody, ?_, hsame _ _ hmoved hlines⟩
  rw [hstatus]
  decide +kernel

end FlowReport

end Signoff
