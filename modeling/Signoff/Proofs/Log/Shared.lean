import Mathlib.Data.Prod.Lex
import Mathlib.Logic.Relation
import Signoff.Proofs.CompletionLog
import Signoff.Proofs.Run.Lines
import Signoff.Proofs.Run.Opening
import Signoff.Proofs.Run.Termination

/-!
# A log that tasks share

A task that records a job reads the clock, waits for the lock of the log, writes its line in as
many pieces as it takes and lets go of the lock. However the steps of the tasks interleave, the log
is that of recording the jobs one after the other in the order in which they got the lock
(`contentAt_recordAll`), and every run can be brought to an end (`exists_settled`).
-/

namespace Signoff

open Workspace Time

namespace LogFile

/-- Records jobs one after the other. -/
def recordAll (log : LogFile) (w : Workspace) (es : List (JobKey × Completion)) :
    LogFile × Workspace :=
  es.foldl (fun s e => s.1.record s.2 e.1 e.2.unitName e.2.completedAt) (log, w)

end LogFile

open CompletionLog

/-- A job that is to be recorded. -/
structure SharedLog.Call where
  key : JobKey
  unitName : String
deriving DecidableEq, Repr, Inhabited

/-- How far a call has come. -/
inductive SharedLog.Stage
  | called
  /-- The clock was read, and the lock is awaited. -/
  | stamped (time : Instant)
  | locked (time : Instant)
  | returned (time : Instant)

/-- What the call that has the lock still has to write. Nobody else has access to the log. -/
structure SharedLog.Guard where
  caller : Nat
  left : ByteArray

open SharedLog

/-- A log with the calls that record in it. -/
structure SharedLog where
  log : LogFile
  files : Workspace
  guard : Option Guard
  calls : List (Call × SharedLog.Stage)
  /-- The calls that got the lock, in this order, with the times of their lines. -/
  order : List (JobKey × Completion)

namespace SharedLog

def Call.entry (c : Call) (time : Instant) : JobKey × Completion := (c.key, ⟨c.unitName, time⟩)

/-- The call that an entry is of. -/
def callOf (e : JobKey × Completion) : Call := ⟨e.1, e.2.unitName⟩

/-- No call has begun. -/
def start (log : LogFile) (files : Workspace) (calls : List Call) : SharedLog where
  log := log
  files := files
  guard := none
  calls := calls.map fun c => (c, .called)
  order := []

/-- One step of one task. -/
inductive Step : SharedLog → SharedLog → Prop
  | stamps {s : SharedLog} {i : Nat} {c : Call} (time : Instant)
      (hc : s.calls[i]? = some (c, .called)) :
      Step s { s with calls := s.calls.set i (c, .stamped time) }
  | locks {s : SharedLog} {i : Nat} {c : Call} {time : Instant} (hg : s.guard = none)
      (hc : s.calls[i]? = some (c, .stamped time)) :
      Step s { s with
        guard := some ⟨i, (line (c.entry time)).toUTF8⟩
        calls := s.calls.set i (c, .locked time)
        order := s.order ++ [c.entry time] }
  | writes {s : SharedLog} {i : Nat} {piece left : ByteArray}
      (hg : s.guard = some ⟨i, piece ++ left⟩) (hpiece : piece.size ≠ 0) :
      Step s { s with
        log := (s.log.append s.files piece).1
        files := (s.log.append s.files piece).2
        guard := some ⟨i, left⟩ }
  | unlocks {s : SharedLog} {i : Nat} {c : Call} {time : Instant}
      (hg : s.guard = some ⟨i, ByteArray.empty⟩) (hc : s.calls[i]? = some (c, .locked time)) :
      Step s { s with guard := none, calls := s.calls.set i (c, .returned time) }

/-- Any number of steps of any tasks. -/
abbrev Runs : SharedLog → SharedLog → Prop := Relation.ReflTransGen Step

/-- Every call has returned. -/
def Settled (s : SharedLog) : Prop := ∀ c ∈ s.calls, ∃ time, c.2 = .returned time

/-- The entry of a call that got the lock. -/
def entry? : Call × Stage → Option (JobKey × Completion)
  | (c, .locked time) | (c, .returned time) => some (c.entry time)
  | _ => none

/-- What is still to be written under the lock. -/
def left (s : SharedLog) : ByteArray := (s.guard.map (·.left)).getD ByteArray.empty

/-! ## What every step keeps -/

/-- The log and its calls at any time of a run that began with the text `base` at the place, in the
workspace `w`. -/
structure Sane (place : Place) (base : ByteArray) (w : Workspace) (calls : List Call)
    (s : SharedLog) : Prop where
  sound : s.files.Sound
  elsewhere : ∀ q, q ≠ place → s.files.item? q = w.item? q
  /-- But for what is still to be written, the log has the lines of the calls that had the lock. -/
  holds : ∃ written, s.log.Keeps s.files place (base ++ written) ∧
    written ++ s.left = (textOf s.order).toUTF8
  guarded : ∀ i, (∃ c time, s.calls[i]? = some (c, .locked time)) ↔
    ∃ left, s.guard = some ⟨i, left⟩
  ordered : s.order.Perm (s.calls.filterMap entry?)
  same : s.calls.map (·.1) = calls

variable {place : Place} {base : ByteArray} {w : Workspace} {calls : List Call} {s s' : SharedLog}

theorem sane_start {log : LogFile} (hw : w.Sound) (hk : log.Keeps w place base) :
    Sane place base w calls (start log w calls) where
  sound := hw
  elsewhere _ _ := rfl
  holds := ⟨ByteArray.empty, by rw [ByteArray.append_empty]; exact hk, rfl⟩
  guarded i := by
    refine ⟨fun ⟨c, time, h⟩ => ?_, fun ⟨left, h⟩ => nomatch h⟩
    obtain ⟨c', -, heq⟩ := List.mem_map.mp (List.mem_of_getElem? h)
    cases heq
  ordered := by
    rw [List.filterMap_eq_nil_iff.mpr]
    · exact .nil
    · intro x hx
      obtain ⟨c, -, rfl⟩ := List.mem_map.mp hx
      rfl
  same := by
    unfold start
    rw [List.map_map]
    exact List.map_id' calls

section Set

variable {cs : List (Call × Stage)} {i : Nat} {c : Call} {stage : Stage}

/-- A step other than taking the lock leaves the entries as they are. -/
theorem filterMap_entry?_set (h : cs[i]? = some (c, stage)) (next : Stage)
    (heq : entry? (c, next) = entry? (c, stage)) :
    (cs.set i (c, next)).filterMap entry? = cs.filterMap entry? := by
  have hfilter := congrArg (List.filterMap id) (map_set_eq h heq)
  rw [List.filterMap_map, List.filterMap_map] at hfilter
  exact hfilter

theorem locked_set_iff {j : Nat} {next : Stage} (h : cs[i]? = some (c, stage)) :
    (∃ d time, (cs.set i (c, next))[j]? = some (d, .locked time)) ↔
      if i = j then ∃ time, next = .locked time
      else ∃ d time, cs[j]? = some (d, .locked time) := by
  split
  next heq =>
    subst heq
    rw [List.getElem?_set_self (List.getElem?_eq_some_iff.mp h).1]
    simp
  next hne => rw [List.getElem?_set_ne hne]

end Set

/-- Each step of a task keeps the log sane. -/
theorem Sane.step (h : Sane place base w calls s) (hs : Step s s') : Sane place base w calls s' := by
  obtain ⟨hsound, helse, ⟨written, hkeeps, hleft⟩, hguarded, hordered, hsame⟩ := h
  cases hs with
  | @stamps i c time hc =>
    refine ⟨hsound, helse, ⟨written, hkeeps, hleft⟩, fun j => ?_, ?_, ?_⟩
    · rw [locked_set_iff hc, ← hguarded j]
      split
      next heq =>
        subst heq
        simp [hc]
      next => rfl
    · rw [filterMap_entry?_set hc (.stamped time) rfl]
      exact hordered
    · exact (map_set_eq hc (by rfl)).trans hsame
  | @locks i c time hg hc =>
    -- the lock was free, so every line that was begun is complete
    have hnone : s.left = ByteArray.empty := by simp [left, hg]
    rw [hnone, ByteArray.append_empty] at hleft
    refine ⟨hsound, helse, ⟨written, hkeeps, ?_⟩, fun j => ?_, ?_, ?_⟩
    · rw [textOf_append, toUTF8_append, ← hleft, textOf_singleton]
      rfl
    · rw [locked_set_iff hc]
      split
      next heq => simp [heq]
      next hne =>
        rw [hguarded j, hg]
        simp [hne]
    · refine (hordered.append_right _).trans ?_
      exact (Progress.filterMap_set_perm (f := entry?) hc rfl (c, .locked time)).symm
    · exact (map_set_eq hc (by rfl)).trans hsame
  | @writes i piece rest hg hpiece =>
    obtain ⟨hkeeps', hstores⟩ := hkeeps.append hsound piece
    rw [ByteArray.append_assoc] at hkeeps' hstores
    have hpart : s.left = piece ++ rest := by simp [left, hg]
    refine ⟨hsound.stores hstores, fun q hq => (hstores.elsewhere q hq).trans (helse q hq),
      ⟨written ++ piece, hkeeps', ?_⟩, fun j => ?_, hordered, hsame⟩
    · rw [← hleft, hpart, ByteArray.append_assoc]
      rfl
    · rw [hguarded j, hg]
      simp
  | @unlocks i c time hg hc =>
    have hnone : s.left = ByteArray.empty := by simp [left, hg]
    rw [hnone] at hleft
    refine ⟨hsound, helse, ⟨written, hkeeps, hleft⟩, fun j => ?_, ?_, ?_⟩
    · rw [locked_set_iff hc]
      split
      next => simp
      next hne =>
        rw [hguarded j, hg]
        simp [hne]
    · rw [filterMap_entry?_set hc (.returned time) rfl]
      exact hordered
    · exact (map_set_eq hc (by rfl)).trans hsame

theorem Sane.run (h : Sane place base w calls s) (hr : Runs s s') :
    Sane place base w calls s' := by
  induction hr with
  | refl => exact h
  | tail _ hstep ih => exact ih.step hstep

/-! ## When all calls have returned -/

/-- The log has the lines of all calls, in the order in which they had the lock. -/
theorem Sane.settled (h : Sane place base w calls s) (hs : s.Settled) :
    s.log.Keeps s.files place (base ++ (textOf s.order).toUTF8) ∧
      (s.order.map callOf).Perm calls := by
  constructor
  · obtain ⟨written, hkeeps, hleft⟩ := h.holds
    -- a call that has the lock has not returned
    have hfree : s.guard = none := by
      cases hg : s.guard with
      | none => rfl
      | some guard =>
        obtain ⟨c, time, hc⟩ := (h.guarded guard.caller).mpr ⟨guard.left, hg⟩
        obtain ⟨_, hret⟩ := hs _ (List.mem_of_getElem? hc)
        cases hret
    rw [left, hfree, Option.map_none, Option.getD_none, ByteArray.append_empty] at hleft
    rw [← hleft]
    exact hkeeps
  · have hall : (s.calls.filterMap entry?).map callOf = s.calls.map (·.1) := by
      rw [List.map_filterMap, ← List.filterMap_eq_map]
      refine List.filterMap_congr fun c hc => ?_
      obtain ⟨c, stage⟩ := c
      obtain ⟨time, rfl⟩ := hs _ hc
      rfl
    rw [← h.same, ← hall]
    exact h.ordered.map callOf

end SharedLog

namespace LogFile

variable {log : LogFile} {w : Workspace} {place : Place} {content : ByteArray}

theorem Keeps.recordAll (h : log.Keeps w place content) (hw : w.Sound)
    (es : List (JobKey × Completion)) :
    (log.recordAll w es).1.Keeps (log.recordAll w es).2 place (content ++ (textOf es).toUTF8) ∧
      ∀ q, q ≠ place → (log.recordAll w es).2.item? q = w.item? q := by
  induction es generalizing log w content with
  | nil =>
    refine ⟨?_, fun _ _ => rfl⟩
    rw [textOf_nil]
    exact (ByteArray.append_empty (b := content)).symm ▸ h
  | cons e es ih =>
    obtain ⟨hkeeps, hstores⟩ := h.append hw (line e).toUTF8
    obtain ⟨hall, helse⟩ := ih hkeeps (hw.stores hstores)
    rw [ByteArray.append_assoc, ← toUTF8_append] at hall
    rw [← List.singleton_append, textOf_append, textOf_singleton]
    exact ⟨hall, fun q hq => (helse q hq).trans (hstores.elsewhere q hq)⟩

end LogFile

namespace SharedLog

variable {place : Place} {base : ByteArray} {w : Workspace} {calls : List Call} {s s' : SharedLog}

/-- From the lock on, a call that is not interrupted records its job. -/
theorem runs_record {i : Nat} {c : Call} {time : Instant} (hg : s.guard = none)
    (hc : s.calls[i]? = some (c, .stamped time)) :
    Runs s ⟨(s.log.record s.files c.key c.unitName time).1,
      (s.log.record s.files c.key c.unitName time).2, none, s.calls.set i (c, .returned time),
      s.order ++ [c.entry time]⟩ := by
  obtain ⟨hlt, -⟩ := List.getElem?_eq_some_iff.mp hc
  have hline : (line (c.entry time)).toUTF8.size ≠ 0 := by
    rw [line, toUTF8_append, ByteArray.size_append]
    exact Nat.succ_ne_zero _
  have hguard : some (Guard.mk i (line (c.entry time)).toUTF8) =
      some ⟨i, (line (c.entry time)).toUTF8 ++ ByteArray.empty⟩ := by
    rw [ByteArray.append_empty]
  refine .head (.locks hg hc) (.head (.writes hguard hline) ?_)
  refine .head (@Step.unlocks _ i c time rfl (List.getElem?_set_self hlt)) ?_
  dsimp only
  rw [List.set_set]
  exact .refl

/-- However the tasks interleave, what they leave behind is what recording the jobs one after the
other leaves behind, in the order in which they had the lock. -/
theorem contentAt_recordAll {log : LogFile} (hw : w.Sound) (hk : log.Keeps w place base)
    (hr : Runs (start log w calls) s) (hs : s.Settled) (q : Place) :
    s.files.contentAt q = (log.recordAll w s.order).2.contentAt q := by
  have hsane : Sane place base w calls s := (sane_start hw hk).run hr
  obtain ⟨hkeeps, helse⟩ := hk.recordAll hw s.order
  by_cases hq : q = place
  · rw [hq, hkeeps.contentAt, (hsane.settled hs).1.contentAt]
  · exact contentAt_congr ((hsane.elsewhere q hq).trans (helse q hq).symm)

/-! ## Runs come to an end -/

def Stage.stepsLeft : Stage → Nat
  | called => 3
  | stamped _ => 2
  | locked _ => 1
  | returned _ => 0

/-- The steps that are left but for writing, and the bytes that are left under the lock. -/
def rank (s : SharedLog) : Nat ×ₗ Nat :=
  toLex ((s.calls.map fun c => c.2.stepsLeft).sum, s.left.size)

theorem sum_stepsLeft_set_lt {cs : List (Call × Stage)} {i : Nat} {c : Call} {stage next : Stage}
    (hc : cs[i]? = some (c, stage)) (h : next.stepsLeft < stage.stepsLeft) :
    ((cs.set i (c, next)).map fun c => c.2.stepsLeft).sum <
      (cs.map fun c => c.2.stepsLeft).sum := by
  rw [sum_map_set hc, sum_map_eraseIdx hc]
  exact Nat.add_lt_add_right h _

/-- Each step leaves fewer, whichever it is. -/
theorem Step.rank_lt (h : Step s s') : s'.rank < s.rank := by
  unfold rank
  rw [Prod.Lex.toLex_lt_toLex]
  cases h with
  | stamps _ hc | locks _ hc | unlocks _ hc =>
    exact Or.inl (sum_stepsLeft_set_lt hc (Nat.lt_succ_self _))
  | @writes i piece rest hg hpiece =>
    refine Or.inr ⟨rfl, ?_⟩
    simp only [left, hg, Option.map_some, Option.getD_some, ByteArray.size_append]
    omega

/-- The tasks do not wait for each other for ever. -/
theorem Sane.exists_step (h : Sane place base w calls s) (hs : ¬ s.Settled) :
    ∃ s', Step s s' := by
  cases hg : s.guard with
  | some guard =>
    obtain ⟨i, rest⟩ := guard
    obtain ⟨c, time, hc⟩ := (h.guarded i).mpr ⟨rest, hg⟩
    by_cases hrest : rest.size = 0
    · rw [ByteArray.size_eq_zero_iff.mp hrest] at hg
      exact ⟨_, .unlocks hg hc⟩
    · rw [← ByteArray.append_empty (b := rest)] at hg
      exact ⟨_, .writes hg hrest⟩
  | none =>
    unfold Settled at hs
    push Not at hs
    obtain ⟨⟨c, stage⟩, hmem, hnot⟩ := hs
    obtain ⟨i, hc⟩ := List.getElem?_of_mem hmem
    cases stage with
    | called => exact ⟨_, .stamps default hc⟩
    | stamped time => exact ⟨_, .locks hg hc⟩
    | locked time =>
      obtain ⟨rest, hlocked⟩ := (h.guarded i).mp ⟨c, time, hc⟩
      rw [hg] at hlocked
      cases hlocked
    | returned time => exact absurd rfl (hnot time)

theorem Sane.exists_settled (h : Sane place base w calls s) : ∃ s', Runs s s' ∧ s'.Settled := by
  induction hn : s.rank using WellFoundedLT.induction generalizing s with
  | ind n ih =>
    by_cases hs : s.Settled
    · exact ⟨s, .refl, hs⟩
    · obtain ⟨next, hstep⟩ := h.exists_step hs
      obtain ⟨s', hruns, hsettled⟩ := ih next.rank (hn ▸ hstep.rank_lt) (h.step hstep) rfl
      exact ⟨s', .head hstep hruns, hsettled⟩

end SharedLog

end Signoff
