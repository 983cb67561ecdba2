import Signoff.Proofs.Run.Courses

/-!
# The lines of the log and the executed jobs

The log has a line for each executed job and for those whose task just finished, each once, and the
lines stand domain by domain in the order of the plan.
-/

namespace Signoff

open Deed

/-- The result of a task that finished. -/
def finished? : Job × Stage → Option (Job × JobResult)
  | (j, .finished r) => some (j, r)
  | _ => none

/-- The jobs that were logged, with their results. -/
def Deed.loggedResults (ds : List Deed) : List (Job × JobResult) :=
  (completions ds).map fun e => (e.1, e.2.1)

namespace Bench

variable {σ : Type} {b : Bench σ} {s s' : Scene σ} {j : Job} {stage next : Stage}
  {es : List Deed}

/-- What a step of a task logs is what its stage shows. -/
theorem TaskMove.loggedResults_eq (h : b.TaskMove s j stage es next s') :
    loggedResults es = (finished? (j, next)).toList ∧ finished? (j, stage) = none := by
  cases h <;> exact ⟨rfl, rfl⟩

end Bench

namespace Progress

variable {σ : Type} {b : Bench σ} {plan : Plan} {done : CompletionLog.Completions}
  {ds : List Deed} {p : Progress σ} {scene : Scene σ}

/-- What an entry that had nothing to show comes to show stands behind the rest. -/
theorem filterMap_set_perm {α β : Type} {f : α → Option β} {l : List α} {n : Nat} {x : α}
    (hr : l[n]? = some x) (hs : f x = none) (y : α) :
    ((l.set n y).filterMap f).Perm (l.filterMap f ++ (f y).toList) := by
  -- old and new list agree but for the entry at the place
  have hold := ((perm_eraseIdx hr).filterMap f).symm
  have hnew := (perm_set hr y).filterMap f
  rw [List.filterMap_cons_none hs] at hold
  refine hnew.trans ?_
  cases hf : f y with
  | none =>
    rw [List.filterMap_cons_none hf, Option.toList_none, List.append_nil]
    exact hold
  | some e =>
    rw [List.filterMap_cons_some hf, Option.toList_some]
    exact (hold.cons e).trans (List.perm_append_singleton e _).symm

theorem filterMap_eraseIdx_perm {l : List (Job × Stage)} {n : Nat} {j : Job} {r : JobResult}
    (hr : l[n]? = some (j, .finished r)) :
    (l.filterMap finished?).Perm ((j, r) :: (l.eraseIdx n).filterMap finished?) :=
  (perm_eraseIdx hr).filterMap finished?

theorem loggedResults_append (ds es : List Deed) :
    loggedResults (ds ++ es) = loggedResults ds ++ loggedResults es := by
  unfold loggedResults
  rw [completions_append, List.map_append]

/-- The logged jobs are those that were executed and those whose task finished. -/
theorem loggedResults_perm (h : Follows b plan done (start plan scene) ds p)
    (hf : p.failure = none) :
    (loggedResults ds).Perm (collections ds ++ p.tasks.filterMap finished?) := by
  refine h.induct (motive := fun ds p => p.failure = none →
    (loggedResults ds).Perm (collections ds ++ p.tasks.filterMap finished?))
    (fun _ => .nil) ?_ hf
  intro ds es p q _ hf hm ih hfq
  have ih := ih hf
  have hquiet : ∀ {es : List Deed} {p' : Progress σ}, loggedResults es = [] → collections es = [] →
      p'.tasks.filterMap finished? = p.tasks.filterMap finished? →
      (loggedResults (ds ++ es)).Perm (collections (ds ++ es) ++ p'.tasks.filterMap finished?) := by
    intro es p' hlog hcol htasks
    rw [loggedResults_append, collections_append, hlog, hcol, htasks, List.append_nil,
      List.append_nil]
    exact ih
  -- a finishing task joins the right side, and collecting moves it within that side
  cases hm with
  | @begins trouble d rest survey files ha hp hs hprep =>
    refine hquiet ?_ survey.collections_of_resumed (by simp [tasks, ha])
    rw [loggedResults, survey.completions_of_deeds, List.map_nil]
  | stumbles => simp at hfq
  | @launches a j rest ha hq hw =>
    exact hquiet rfl rfl (by simp [tasks, launch, ha, finished?])
  | @advances a n j stage next s es ha hr hstep =>
    obtain ⟨hlog, hnone⟩ := hstep.loggedResults_eq
    rw [loggedResults_append, collections_append, hlog, hstep.enters_nothing.2.1, List.append_nil]
    have htasks : p.tasks = a.running := tasks_of_active ha
    rw [htasks] at ih
    refine (ih.append_right _).trans ?_
    rw [List.append_assoc]
    exact List.Perm.append_left _ (filterMap_set_perm hr hnone _).symm
  | @collects a n j r ha hr =>
    have htasks : p.tasks = a.running := tasks_of_active ha
    have hcol : collections (ds ++ [.collected j r]) = collections ds ++ [(j, r)] := by
      simp [collections, collected?]
    rw [htasks] at ih
    have hlog : loggedResults (ds ++ [.collected j r]) = loggedResults ds := by
      rw [loggedResults_append]
      exact List.append_nil _
    rw [hlog, hcol, List.append_assoc, List.singleton_append]
    exact ih.trans (List.Perm.append_left _ (filterMap_eraseIdx_perm hr))
  | breaks => simp at hfq
  | @closes a ha hq hr =>
    exact hquiet rfl rfl (by simp [tasks, closeDomain, ha, hr])

/-- The lines stand domain by domain. -/
theorem completions_in_order (hidx : (plan.units.map (·.index)).Nodup)
    (hdom : plan.domains.Nodup) (h : Follows b plan done (start plan scene) ds p) :
    (completions ds).Pairwise fun e f =>
      plan.domains.idxOf e.1.domain ≤ plan.domains.idxOf f.1.domain := by
  refine h.induct (motive := fun ds _ => (completions ds).Pairwise fun e f =>
    plan.domains.idxOf e.1.domain ≤ plan.domains.idxOf f.1.domain) List.Pairwise.nil ?_
  intro ds es p q hfol hf hm ih
  rw [completions_append]
  have hquiet : completions es = [] → (completions ds ++ completions es).Pairwise fun e f =>
      plan.domains.idxOf e.1.domain ≤ plan.domains.idxOf f.1.domain := by
    intro hnone
    rw [hnone, List.append_nil]
    exact ih
  cases hm with
  | @advances a n j stage next s es ha hr hstep =>
    have ho := orderly_of_follows hfol
    have hc := courses_of_follows hidx hdom hfol
    have hj := (mem_jobsOf.mp
      ((ho.account a ha).mem_jobsOf_of_running (List.mem_of_getElem? hr))).1
    have hdomains := ho.domains hf
    rw [ha] at hdomains
    -- whatever was logged belongs to this domain or to one before it
    have hle : ∀ e ∈ completions ds,
        plan.domains.idxOf e.1.domain ≤ plan.domains.idxOf a.domain := by
      rintro ⟨i, r, t⟩ he
      have hi : i ∈ takes ds := by
        rcases hc.settled hf i r t (mem_completions.mp he) with hcol | hrun
        · exact hc.mem_takes_of_collected hf hcol
        · exact hc.mem_takes_of_task hf hrun
      have hpend := hc.unseen i hi
      have hmem := (hc.member i hi).1
      have hnodup := hdom
      simp only [Option.toList_some, List.map_cons, List.map_nil, List.singleton_append]
        at hdomains
      rw [hdomains] at hmem hnodup ⊢
      have hnot : a.domain ∉ p.closed.map (·.1) := fun hmem' =>
        (List.nodup_append.mp hnodup).2.2 _ hmem' _ List.mem_cons_self rfl
      rw [List.idxOf_append_of_notMem hnot, List.idxOf_cons_self, Nat.add_zero]
      rcases List.mem_append.mp hmem with hmem | hmem
      · rw [List.idxOf_append_of_mem hmem]
        exact (List.idxOf_lt_length_of_mem hmem).le
      · have heq : i.domain = a.domain := (List.mem_cons.mp hmem).resolve_right hpend
        dsimp only
        rw [heq, List.idxOf_append_of_notMem hnot, List.idxOf_cons_self, Nat.add_zero]
    -- a task logs its own job, which is of the domain in hand
    have hown : ∀ f ∈ completions es, f.1.domain = a.domain := by
      rintro ⟨i, r, t⟩ hf
      rw [(hstep.logs_own.2.1 i r t (mem_completions.mp hf)).1]
      exact hj
    refine List.pairwise_append.mpr ⟨ih, ?_, fun e he f hf => ?_⟩
    · exact List.pairwise_of_forall_mem_list fun e he f hf => by rw [hown e he, hown f hf]
    · rw [hown f hf]
      exact hle e he
  | begins | stumbles => exact hquiet (Survey.completions_of_deeds _)
  | launches | collects | breaks | closes => exact hquiet rfl

end Progress

end Signoff
