import Signoff.Proofs.CompletionLog
import Signoff.Proofs.Record
import Signoff.Proofs.Run.Agreement
import Signoff.Proofs.Run.Bookkeeping

/-!
# What a stopped run leaves

A run may stop after any of its steps.  Its log is then read back as the jobs that were logged
(`lookup?_of_stop`), what they came to can be read from their records (`keeps_of_comes`), and all
jobs of the domains before one that was begun are among them (`done_before`).
-/

namespace Signoff

open Workspace Deed

/-! ## Results that a record keeps -/

namespace Terms

variable {t : Terms} {answer : Job → UInt32 → ToolAnswer} {present : Bool} {j : Job}
  {stage : Stage} {saved : Option String} {r : JobResult}

/-- The figures of every verdict on an answer for the job are finite. -/
def FiniteFor (t : Terms) (answer : Job → UInt32 → ToolAnswer) (j : Job) : Prop :=
  ∀ attempt i v, answer j attempt = .answer i → i.judge j.domain t.timeoutMillis = .final v →
    v.figures.IsFinite

/-- What the stage holds is an answer of the tool, or a result that a record keeps. -/
def IsGenuine (answer : Job → UInt32 → ToolAnswer) (j : Job) : Stage → Prop
  | .answered attempt i => answer j attempt = .answer i
  | .resolved r => Record.Keeps r
  | .recorded r => Record.Keeps r
  | .finished r => Record.Keeps r
  | _ => True

theorem rawPath_ne_nil (l : Layout) (j : Job) : (l.rawPath j).text.toList ≠ [] := by
  have hproper := @Job.isProper_stem j ".log" (by decide) (by decide)
  have hname : (j.stem ++ ".log").toList ≠ [] := by
    rw [String.toList_append]
    exact List.append_ne_nil_of_right_ne_nil _ (by decide)
  rcases Path.text_child hproper (l.rawFolder j.domain) with ⟨htext, -⟩ | ⟨htext, -⟩
  · rw [Layout.rawPath, htext]
    exact List.append_ne_nil_of_right_ne_nil _ hname
  · rw [Layout.rawPath, htext]
    exact List.append_ne_nil_of_right_ne_nil _ (List.cons_ne_nil _ _)

theorem keeps_missing (workarea : Path) : Record.Keeps (JobResult.missing workarea) where
  figures := trivial
  raw path hpath := by simp [JobResult.missing] at hpath

theorem keeps_exhausted (attempts : UInt32) (cause : String) (l : Layout) (j : Job) :
    Record.Keeps (JobResult.exhausted attempts cause (some (l.rawPath j))) where
  figures := trivial
  raw path hpath := by
    rw [← Option.some.inj hpath]
    exact rawPath_ne_nil l j

theorem keeps_ofVerdict {v : Verdict} (h : v.figures.IsFinite) (l : Layout) (j : Job)
    (attempts : UInt32) : Record.Keeps (JobResult.ofVerdict v (l.rawPath j) attempts) where
  figures := h
  raw path hpath := by
    rw [← Option.some.inj hpath]
    exact rawPath_ne_nil l j

theorem isGenuine_judged (hfinite : t.FiniteFor answer j) {attempt : UInt32} {i : Invocation}
    (h : answer j attempt = .answer i) : IsGenuine answer j (t.judged j attempt i) := by
  unfold judged RetryPolicy.decide
  cases hjudge : i.judge j.domain t.timeoutMillis with
  | final v => exact keeps_ofVerdict (hfinite attempt i v h hjudge) t.layout j attempt
  | passing cause =>
    dsimp only
    split
    next heq =>
      split at heq
      · cases heq
      · cases heq
    next => exact keeps_exhausted _ _ t.layout j
    next => trivial

/-- Every step of a job keeps its stage genuine. -/
theorem IsGenuine.step (hfinite : t.FiniteFor answer j) (h : IsGenuine answer j stage)
    {next : Stage × Option String}
    (hnext : t.next? answer present j (stage, saved) = some next) :
    IsGenuine answer j next.1 := by
  -- the only results are made of verdicts, of missing folders and of too many attempts
  cases stage with
  | fresh =>
    rw [← Option.some.inj hnext]
    unfold started
    dsimp only
    split
    · exact keeps_missing _
    · split
      · exact keeps_exhausted _ _ t.layout j
      · trivial
  | ready attempt =>
    unfold next? at hnext
    dsimp only at hnext
    split at hnext
    next i hi =>
      rw [← Option.some.inj hnext]
      exact hi
    next => cases hnext
  | answered attempt i =>
    rw [← Option.some.inj hnext]
    exact isGenuine_judged hfinite h
  | resolved r =>
    rw [← Option.some.inj hnext]
    exact h
  | recorded r =>
    rw [← Option.some.inj hnext]
    exact h
  | finished r => cases hnext
  | broken e => cases hnext

/-- What a job comes to is kept by its record. -/
theorem keeps_of_comes (hfinite : t.FiniteFor answer j)
    (h : t.Comes answer present j (.finished r) saved) : Record.Keeps r := by
  -- a fresh job is genuine, and each step keeps it so
  have hgenuine : ∀ n stage saved, t.after answer present j n = some (stage, saved) →
      IsGenuine answer j stage := by
    intro n
    induction n with
    | zero =>
      intro stage saved hn
      rw [after, Option.some.injEq, Prod.mk.injEq] at hn
      rw [← hn.1]
      trivial
    | succ n ih =>
      intro stage saved hn
      rw [after, Option.bind_eq_some_iff] at hn
      obtain ⟨⟨before, saved'⟩, hbefore, hstep⟩ := hn
      exact (ih before saved' hbefore).step hfinite hstep
  obtain ⟨n, hn⟩ := h
  exact hgenuine n _ saved hn

end Terms

namespace Progress

variable {σ : Type} {b : Bench σ} {plan : Plan} {done : CompletionLog.Completions}
  {ds : List Deed} {p : Progress σ} {scene : Scene σ}

/-! ## Who was called and logged -/

/-- Only launched jobs are called and logged, and the times of the lines are read off the clock. -/
theorem launched_of_deed (h : Follows b plan done (start plan scene) ds p) :
    (∀ j n, .called j n ∈ ds → .launched j ∈ ds) ∧
      ∀ j r t, .logged j r t ∈ ds → .launched j ∈ ds ∧ ∃ n, t = b.clock n := by
  refine h.induct (motive := fun ds _ => (∀ j n, .called j n ∈ ds → .launched j ∈ ds) ∧
    ∀ j r t, .logged j r t ∈ ds → .launched j ∈ ds ∧ ∃ n, t = b.clock n) ⟨by simp, by simp⟩ ?_
  intro ds es p q hfol hf hm ⟨hcalled, hlogged⟩
  -- the deeds of a move are of a job that is already launched, if they are a task's at all
  have hnew : (∀ j n, .called j n ∈ es → .launched j ∈ ds) ∧
      ∀ j r t, .logged j r t ∈ es → .launched j ∈ ds ∧ ∃ n, t = b.clock n := by
    cases hm with
    | @advances a place j stage next scene' es ha hr hstep =>
      have hj := launched_of_running (orderly_of_follows hfol) ha hr
      refine ⟨fun i n hi => ?_, fun i r t hi => ?_⟩
      · cases hstep with
        | calls => rw [(Deed.called.inj (List.mem_singleton.mp hi)).1]; exact hj
        | collapses => rw [(Deed.called.inj (List.mem_singleton.mp hi)).1]; exact hj
        | _ => simp at hi
      · cases hstep with
        | logs =>
          obtain ⟨hij, -, ht⟩ := Deed.logged.inj (List.mem_singleton.mp hi)
          rw [hij]
          exact ⟨hj, _, ht⟩
        | _ => simp at hi
    | _ => simp
  refine ⟨fun j n hj => ?_, fun j r t hj => ?_⟩
  · rcases List.mem_append.mp hj with hj | hj
    · exact List.mem_append_left _ (hcalled j n hj)
    · exact List.mem_append_left _ (hnew.1 j n hj)
  · rcases List.mem_append.mp hj with hj | hj
    · exact (hlogged j r t hj).imp_left (List.mem_append_left _)
    · exact (hnew.2 j r t hj).imp_left (List.mem_append_left _)

/-- A job is launched after its domain was begun. -/
theorem began_of_launched (h : Follows b plan done (start plan scene) ds p) {j : Job}
    (hj : .launched j ∈ ds) : .began j.domain ∈ ds := by
  refine h.induct (motive := fun ds _ => .launched j ∈ ds → .began j.domain ∈ ds) (by simp) ?_ hj
  intro ds es p q hfol hf hm ih hj
  rcases List.mem_append.mp hj with hj | hj
  · exact List.mem_append_left _ (ih hj)
  cases hm with
  | @launches a i rest ha hq hw =>
    have hij : j = i := by simpa using hj
    -- what waits is of the domain in hand, which was begun
    have hmem : i ∈ jobsOf plan.units a.domain := by
      rw [((orderly_of_follows hfol).account a ha).jobs.mem_iff, hq]
      simp
    rw [hij, (mem_jobsOf.mp hmem).1]
    exact List.mem_append_left _ (began_of_active hfol hf ha)
  | advances ha hr hstep =>
    have hnone := hstep.enters_nothing.1
    rw [← mem_launches, hnone] at hj
    simp at hj
  | _ => simp at hj

/-! ## Domains in order -/

/-- Of two elements of a list one comes first. -/
theorem eq_or_mem_takeWhile {l : List Domain} {d e : Domain} (hd : d ∈ l) (he : e ∈ l)
    (h : d ∉ l.takeWhile (· != e)) : e = d ∨ e ∈ l.takeWhile (· != d) := by
  induction l with
  | nil => simp at hd
  | cons c l ih =>
    -- the head is one of the two, or both come later
    by_cases hc : c = d
    · subst hc
      by_cases hce : c = e
      · exact Or.inl hce.symm
      · simp [hce] at h
    · by_cases hce : c = e
      · subst hce
        refine Or.inr ?_
        simp [hc]
      · rw [List.mem_cons, or_iff_right (Ne.symm hc)] at hd
        rw [List.mem_cons, or_iff_right (Ne.symm hce)] at he
        rw [List.takeWhile_cons_of_pos (by simpa using hce), List.mem_cons,
          or_iff_right (Ne.symm hc)] at h
        rw [List.takeWhile_cons_of_pos (by simpa using hc), List.mem_cons,
          or_iff_right (Ne.symm hce)]
        exact ih hd he h

/-- When a domain is begun, every job of the domains before it was executed or resumed. -/
theorem done_before (hidx : (plan.units.map (·.index)).Nodup) (hdom : plan.domains.Nodup)
    (h : Follows b plan done (start plan scene) ds p) {e : Domain} (he : .began e ∈ ds) {j : Job}
    (hj : j.domain ∈ plan.domains.takeWhile (· != e)) (hu : j.unit ∈ plan.units) :
    ∃ r, .collected j r ∈ ds ∨ .resumed j r ∈ ds := by
  refine h.induct (motive := fun ds _ => .began e ∈ ds →
    ∃ r, .collected j r ∈ ds ∨ .resumed j r ∈ ds) (by simp) ?_ he
  intro ds es p q hfol hf hm ih he
  -- a domain that is next has only closed ones before it
  have hnext : ∀ {rest}, p.active = none → p.pending = e :: rest →
      ∃ r, .collected j r ∈ ds ∨ .resumed j r ∈ ds := by
    intro rest ha hp
    have hdomains := (orderly_of_follows hfol).domains hf
    rw [ha, hp] at hdomains
    rw [takeWhile_domains hdom hdomains] at hj
    exact executed_or_resumed_of_closed hidx hdom hfol hf hj hu
  have hbefore : ∃ r, .collected j r ∈ ds ∨ .resumed j r ∈ ds := by
    rcases List.mem_append.mp he with he | he
    · exact ih he
    cases hm with
    | begins ha hp =>
      obtain rfl : e = _ := by simpa using he
      exact hnext ha hp
    | stumbles ha hp =>
      obtain rfl : e = _ := by simpa using he
      exact hnext ha hp
    | advances ha hr hstep => exact absurd he (hstep.began_not_mem e)
    | _ => simp at he
  obtain ⟨r, hr⟩ := hbefore
  exact ⟨r, hr.imp (List.mem_append_left _) (List.mem_append_left _)⟩

end Progress

/-! ## The log of a stopped run -/

namespace Deed

/-- What the log says about the jobs that were logged. -/
def entries (ds : List Deed) : List (JobKey × Completion) :=
  (completions ds).map fun e => (e.1.key, ⟨e.1.unit.name, e.2.2⟩)

theorem logText_eq (ds : List Deed) : logText ds = CompletionLog.textOf (entries ds) := by
  unfold logText entries CompletionLog.textOf
  rw [List.flatMap_map]
  rfl

theorem mem_entries {ds : List Deed} {e : JobKey × Completion} :
    e ∈ entries ds ↔ ∃ j r t, .logged j r t ∈ ds ∧ e = (j.key, ⟨j.unit.name, t⟩) := by
  unfold entries
  rw [List.mem_map]
  constructor
  · rintro ⟨⟨j, r, t⟩, hmem, rfl⟩
    exact ⟨j, r, t, mem_completions.mp hmem, rfl⟩
  · rintro ⟨j, r, t, hmem, rfl⟩
    exact ⟨(j, r, t), mem_completions.mpr hmem, rfl⟩

/-- What the lines of a run say of a key was said of a job with that key. -/
theorem logged_of_lookup? {ds : List Deed} {k : JobKey} {c : Completion}
    (h : (CompletionLog.read (logText ds)).lookup? k = some c) :
    ∃ j r t, .logged j r t ∈ ds ∧ j.key = k ∧
      c.unitName.toList = Text.trim (CompletionLog.sanitize j.unit.name.toList) := by
  rw [logText_eq, CompletionLog.lookup?_read_textOf, Option.map_eq_some_iff] at h
  obtain ⟨e, hfind, rfl⟩ := h
  obtain ⟨e', he', hread⟩ := List.mem_filterMap.mp (List.mem_of_find?_eq_some hfind)
  obtain ⟨j, r, t, hj, rfl⟩ := mem_entries.mp he'
  obtain ⟨hkey, hname⟩ := CompletionLog.eq_of_readLine?_writeLine hread
  have hfound : e.1 = k := by simpa using List.find?_some hfind
  exact ⟨j, r, t, hj, hkey.symm.trans hfound, hname⟩

/-- The lines of a run say something of a job that was logged, if its line can be read. -/
theorem exists_lookup?_of_logged {ds : List Deed} {j : Job} {r : JobResult} {t : Time.Instant}
    (hj : .logged j r t ∈ ds) (hname : CompletionLog.IsName j.unit.name) (ht : t.IsPlain) :
    ∃ c, (CompletionLog.read (logText ds)).lookup? j.key = some c := by
  rw [logText_eq, CompletionLog.lookup?_read_textOf]
  have hsome : ((entries ds).filterMap fun e => CompletionLog.readLine?
      (CompletionLog.writeLine e.1 e.2.unitName e.2.completedAt).toList).find?
        (·.1 == j.key) ≠ none := by
    rw [Ne, List.find?_eq_none, not_forall]
    refine ⟨(j.key, ⟨j.unit.name, t⟩), fun hnot => ?_⟩
    refine hnot (List.mem_filterMap.mpr ⟨_, mem_entries.mpr ⟨j, r, t, hj, rfl⟩, ?_⟩)
      (beq_self_eq_true _)
    exact CompletionLog.readLine?_writeLine hname j.key ht
  obtain ⟨e, he⟩ := Option.ne_none_iff_exists'.mp hsome
  exact ⟨e.2, by rw [he, Option.map_some]⟩

end Deed

end Signoff
