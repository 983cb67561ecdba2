import Mathlib.Data.List.Induction
import Mathlib.Data.List.Perm.Basic
import Signoff.Proofs.Run.Courses

/-!
# What each job adds to a run

Much of what a run does and tells comes from its tasks, each of which adds to it as it goes on:
its launch, its calls, its retries and its end. Tasks take their steps in any order, so what the
run has is an interleaving of what the tasks have (`interleaved_of_follows`).
-/

namespace Signoff

open Deed

/-! ## Interleavings -/

/-- The lists can be told one element at a time, each in its own order. -/
inductive Interleaved {α : Type} : List (List α) → List α → Prop
  | none : Interleaved [] []
  | idle {ls : List (List α)} {as : List α} : Interleaved ls as → Interleaved ([] :: ls) as
  | next {l as : List α} {ls : List (List α)} (a : α) : Interleaved (l :: ls) as →
      Interleaved ((l ++ [a]) :: ls) (as ++ [a])
  | perm {ls ms : List (List α)} {as : List α} : ls.Perm ms → Interleaved ls as →
      Interleaved ms as

namespace Interleaved

variable {α : Type} {l as : List α} {ls : List (List α)}

theorem append (h : Interleaved (l :: ls) as) (xs : List α) :
    Interleaved ((l ++ xs) :: ls) (as ++ xs) := by
  induction xs using List.reverseRecOn with
  | nil => rwa [List.append_nil, List.append_nil]
  | append_singleton xs x ih =>
    rw [← List.append_assoc, ← List.append_assoc]
    exact .next x ih

theorem perm_flatten (h : Interleaved ls as) : as.Perm ls.flatten := by
  induction h with
  | none => exact .nil
  | idle _ ih => exact ih
  | @next l as ls a _ ih =>
    rw [List.flatten_cons] at ih ⊢
    have hback : (as ++ [a]).Perm (a :: (l ++ ls.flatten)) :=
      (List.perm_append_comm.trans (ih.cons a))
    rw [List.append_assoc, List.singleton_append]
    exact hback.trans List.perm_middle.symm
  | perm hls _ ih => exact ih.trans hls.flatten

theorem length_eq {β : Type} {f : β → List α} {xs : List β} (h : Interleaved (xs.map f) as) :
    as.length = (xs.map fun x => (f x).length).sum := by
  rw [h.perm_flatten.length_eq, List.length_flatten, List.map_map]
  rfl

/-- Each list keeps its order. -/
theorem sublist (h : Interleaved ls as) : ∀ l ∈ ls, l.Sublist as := by
  induction h with
  | none => exact fun l hl => absurd hl List.not_mem_nil
  | idle _ ih =>
    intro l hl
    rcases List.mem_cons.mp hl with rfl | hl
    · exact List.nil_sublist _
    · exact ih l hl
  | @next first as ls a _ ih =>
    intro l hl
    rcases List.mem_cons.mp hl with rfl | hl
    · exact (ih first List.mem_cons_self).append (List.Sublist.refl [a])
    · exact (ih l (List.mem_cons_of_mem _ hl)).trans (List.sublist_append_left as [a])
  | perm hls _ ih => exact fun l hl => ih l (hls.mem_iff.mpr hl)

theorem filter (p : α → Bool) (h : Interleaved ls as) :
    Interleaved (ls.map (List.filter p)) (as.filter p) := by
  induction h with
  | none => exact .none
  | idle _ ih => exact .idle ih
  | @next l as ls a _ ih =>
    rw [List.map_cons, List.filter_append, List.filter_append]
    exact ih.append _
  | perm hls _ ih => exact .perm (hls.map _) ih

theorem eq_of_others_nil (h : Interleaved (l :: ls) as) (hls : ∀ m ∈ ls, m = []) : as = l := by
  have hflat : ls.flatten = [] := List.flatten_eq_nil_iff.mpr hls
  have hlength := h.perm_flatten.length_eq
  rw [List.flatten_cons, hflat, List.append_nil] at hlength
  exact ((h.sublist l List.mem_cons_self).eq_of_length hlength.symm).symm

end Interleaved

/-! ## Attempts in bounds -/

namespace Stage

/-- The attempt at hand is one of those that may be made. -/
def InBounds (most : UInt32) : Stage → Prop
  | ready attempt => 0 < attempt.toNat ∧ attempt.toNat ≤ most.toNat
  | answered attempt _ => 0 < attempt.toNat ∧ attempt.toNat ≤ most.toNat
  | _ => True

def IsBroken : Stage → Prop
  | broken _ => True
  | _ => False

end Stage

namespace Bench

variable {σ : Type} {b : Bench σ} {s s' : Scene σ} {j : Job} {stage next : Stage}
  {es : List Deed}

theorem TaskMove.inBounds (h : b.TaskMove s j stage es next s')
    (hstage : stage.InBounds b.retry.maxAttempts) : next.InBounds b.retry.maxAttempts := by
  cases h with
  | starts hw hmax =>
    have hpos : b.retry.maxAttempts.toNat ≠ 0 := fun h0 => hmax (UInt32.toNat_inj.mp h0)
    simp only [Stage.InBounds, UInt32.toNat_one]
    omega
  | @retries attempt i files cause hw hj hlt =>
    have hnext := toNat_succ hlt
    rw [UInt32.lt_iff_toNat_lt] at hlt
    simp only [Stage.InBounds, hnext]
    omega
  | calls => exact hstage
  | _ => exact trivial

theorem TaskMove.not_broken (h : b.TaskMove s j stage es next s') : ¬ stage.IsBroken := by
  cases h <;> exact id

end Bench

namespace Progress

variable {σ : Type} {b : Bench σ} {plan : Plan} {done : CompletionLog.Completions}
  {ds es : List Deed} {p q : Progress σ}

/-- The run has not failed, and no task of it is about to make it fail. -/
structure Intact (p : Progress σ) : Prop where
  going : p.failure = none
  whole : ∀ t ∈ p.tasks, ¬ t.2.IsBroken

/-- A broken task stays until it makes the run fail. -/
theorem Intact.of_move (hq : q.Intact) (hf : p.failure = none) (hm : Move b plan done p es q) :
    p.Intact := by
  refine ⟨hf, ?_⟩
  have hwhole := hq.whole
  cases hm with
  | begins ha hp hs hprep => simp [tasks_of_idle ha]
  | stumbles ha hp hs hprep => simp [tasks_of_idle ha]
  | launches ha hq hw =>
    rw [tasks_of_active ha]
    intro t ht
    exact hwhole t (List.mem_append_left _ ht)
  | @advances a place j stage next scene es ha hr hstep =>
    rw [tasks_of_active ha]
    intro t ht
    rcases List.mem_cons.mp ((perm_eraseIdx hr).mem_iff.mp ht) with rfl | ht
    · exact hstep.not_broken
    · exact hwhole t ((perm_set hr _).mem_iff.mpr (List.mem_cons_of_mem _ ht))
  | @collects a place j r ha hr =>
    rw [tasks_of_active ha]
    intro t ht
    rcases List.mem_cons.mp ((perm_eraseIdx hr).mem_iff.mp ht) with rfl | ht
    · exact id
    · exact hwhole t ht
  | breaks ha hr => exact nomatch hq.going
  | closes ha hq hr => simp [tasks_of_active ha, hr]

theorem inBounds_of_follows {scene : Scene σ} (h : Follows b plan done (start plan scene) ds p) :
    ∀ t ∈ p.tasks, t.2.InBounds b.retry.maxAttempts := by
  apply h.induct
  · exact fun t ht => absurd ht List.not_mem_nil
  · intro ds es q r _ _ hm ih
    cases hm with
    | begins ha hp hs hprep => exact fun t ht => absurd ht List.not_mem_nil
    | stumbles ha hp hs hprep => exact ih
    | launches ha hq hw =>
      rw [tasks_of_active ha] at ih
      intro t ht
      rcases List.mem_append.mp ht with ht | ht
      · exact ih t ht
      · rw [List.mem_singleton.mp ht]
        exact trivial
    | @advances a place j stage next scene es ha hr hstep =>
      rw [tasks_of_active ha] at ih
      intro t ht
      rcases List.mem_cons.mp ((perm_set hr _).mem_iff.mp ht) with rfl | ht
      · exact hstep.inBounds (ih _ (List.mem_of_getElem? hr))
      · exact ih t (List.mem_of_mem_eraseIdx ht)
    | @collects a place j r ha hr =>
      rw [tasks_of_active ha] at ih
      exact fun t ht => ih t (List.mem_of_mem_eraseIdx ht)
    | breaks ha hr => exact fun t ht => absurd ht List.not_mem_nil
    | closes ha hq hr => exact fun t ht => absurd ht List.not_mem_nil

end Progress

/-! ## Shares -/

/-- Part of what a run does and tells that comes from its tasks: the share of a task grows with
its stage, by what its step adds. -/
structure ByTasks {σ α : Type} (b : Bench σ) (share : Job → Stage → List α)
    (seen : List Deed → List Event → List α) : Prop where
  append : ∀ ds es events more, seen (ds ++ es) (events ++ more) = seen ds events ++ seen es more
  begins : ∀ (d : Domain) (s : Survey),
    seen (.began d :: s.resumed.map fun (j, r) => .resumed j r) s.resumedEvents = []
  launches : ∀ j, seen [.launched j] [] = share j .fresh
  advances : ∀ {s s' : Scene σ} {j : Job} {stage next : Stage} {es : List Deed},
    b.TaskMove s j stage es next s' → stage.InBounds b.retry.maxAttempts → ¬ next.IsBroken →
    ∃ more, s'.events = s.events ++ more ∧ share j next = share j stage ++ seen es more
  collects : ∀ j r, seen [.collected j r] [] = []
  closes : ∀ units l d, seen [] [summaryEvent units l d] = []

namespace Progress

variable {σ α : Type} {b : Bench σ} {plan : Plan} {done : CompletionLog.Completions}
  {ds es : List Deed} {p q : Progress σ} {share : Job → Stage → List α}
  {seen : List Deed → List Event → List α}

/-- The shares of the tasks, and those of the executed jobs. -/
def shares (share : Job → Stage → List α) (ds : List Deed) (p : Progress σ) : List (List α) :=
  p.tasks.map (fun t => share t.1 t.2) ++
    (collections ds).map fun e => share e.1 (.finished e.2)

theorem interleaved_of_follows (hseen : ByTasks b share seen) {scene : Scene σ}
    (hstart : seen [] scene.events = []) (h : Follows b plan done (start plan scene) ds p)
    (hp : p.Intact) : Interleaved (shares share ds p) (seen ds p.scene.events) := by
  revert hp
  apply h.induct
  · intro _
    show Interleaved [] (seen [] scene.events)
    rw [hstart]
    exact .none
  · intro ds es q r hfollows hf hm ih hintact
    have hgrown := ih (hintact.of_move hf hm)
    -- most steps tell nothing
    have hsilent : ∀ es, seen (ds ++ es) q.scene.events = seen ds q.scene.events ++ seen es [] := by
      intro es
      rw [← hseen.append, List.append_nil]
    unfold shares at hgrown ⊢
    cases hm with
    | @begins trouble d rest survey files ha hp hs hprep =>
      have hcoll : collections (Deed.began d :: survey.resumed.map fun (j, r) => .resumed j r) =
          [] := survey.collections_of_resumed
      rw [tasks_of_idle ha] at hgrown
      rw [hseen.append, hseen.begins, List.append_nil, collections_append, hcoll, List.append_nil]
      exact hgrown
    | stumbles ha hp hs hprep => exact nomatch hintact.going
    | @launches a j rest ha hq hw =>
      have hcoll : collections (ds ++ [.launched j]) = collections ds := by
        rw [collections_append]
        exact List.append_nil _
      have htasks : (q.launch a j rest).tasks = a.running ++ [(j, .fresh)] := rfl
      rw [tasks_of_active ha] at hgrown
      rw [hcoll, htasks, List.map_append, List.append_assoc]
      show Interleaved _ (seen (ds ++ [.launched j]) q.scene.events)
      rw [hsilent, hseen.launches]
      have hnew := (Interleaved.idle hgrown).append (share j .fresh)
      exact .perm List.perm_middle.symm hnew
    | @advances a place j stage next scene es ha hrun hstep =>
      have hbounds := inBounds_of_follows hfollows (j, stage)
      rw [tasks_of_active ha] at hgrown hbounds
      have hold := (perm_eraseIdx hrun).map fun t => share t.1 t.2
      have hnew := (perm_set hrun (j, next)).map fun t => share t.1 t.2
      have hwhole : ¬ next.IsBroken :=
        hintact.whole (j, next) ((perm_set hrun _).mem_iff.mpr List.mem_cons_self)
      obtain ⟨more, hevents, hshare⟩ :=
        hseen.advances hstep (hbounds (List.mem_of_getElem? hrun)) hwhole
      rw [collections_append, hstep.enters_nothing.2.1, List.append_nil]
      dsimp only
      rw [hevents, hseen.append]
      refine .perm (hnew.symm.append_right _) ?_
      rw [List.map_cons, hshare]
      exact (Interleaved.perm (hold.append_right _) hgrown).append (seen es more)
    | @collects a place j result ha hrun =>
      have hcoll : collections (ds ++ [.collected j result]) = collections ds ++ [(j, result)] := by
        rw [collections_append]
        rfl
      rw [tasks_of_active ha] at hgrown
      have hold := (perm_eraseIdx hrun).map fun t => share t.1 t.2
      rw [hsilent, hseen.collects, List.append_nil, hcoll, List.map_append, ← List.append_assoc]
      refine .perm ?_ hgrown
      -- the share goes from the tasks to the executed jobs
      refine (hold.append_right _).trans ?_
      exact (List.perm_append_singleton _ _).symm
    | breaks ha hrun => exact nomatch hintact.going
    | @closes a ha hq hrun =>
      rw [tasks_of_active ha, hrun] at hgrown
      rw [List.append_nil]
      have htold : (q.closeDomain plan a).scene.events =
          q.scene.events ++ [summaryEvent plan.units q.ledger a.domain] := rfl
      have hseen' := hseen.append ds [] q.scene.events [summaryEvent plan.units q.ledger a.domain]
      rw [List.append_nil, hseen.closes, List.append_nil] at hseen'
      rw [htold, hseen']
      exact hgrown

end Progress

end Signoff
