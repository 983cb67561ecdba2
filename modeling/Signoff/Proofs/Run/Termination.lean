import Signoff.Proofs.Run.Deeds

/-!
# Runs end

`stepsLeft` bounds the steps that are left to a run.  Each step lowers it (`stepsLeft_of_move`),
whatever its order, and the fuel of `runToEnd` covers it.  A run that can take no step has failed or
is complete, so `runToEnd` stops only there.
-/

namespace Signoff

namespace Stage

/-- The steps left to a task until it is collected, with at most `most` attempts. -/
def stepsLeft (most : Nat) : Stage → Nat
  | fresh => 2 * most + 4
  | ready attempt => 2 * (most - attempt.toNat) + 5
  | answered attempt _ => 2 * (most - attempt.toNat) + 4
  | resolved _ => 3
  | recorded _ => 2
  | finished _ => 1
  | broken _ => 1

end Stage

namespace Bench

variable {σ : Type} {b : Bench σ} {s s' : Scene σ} {j : Job} {stage next : Stage}
  {es : List Deed}

/-- Each step of a task leaves it fewer. -/
theorem TaskMove.stepsLeft_lt (h : b.TaskMove s j stage es next s') :
    next.stepsLeft b.retry.maxAttempts.toNat < stage.stepsLeft b.retry.maxAttempts.toNat := by
  cases h with
  | starts hw hmax =>
    have hpos : b.retry.maxAttempts.toNat ≠ 0 := fun h0 => hmax (UInt32.toNat_inj.mp h0)
    simp only [Stage.stepsLeft, UInt32.toNat_one]
    omega
  | @retries attempt i files cause hw hj hlt =>
    have hnext := toNat_succ hlt
    rw [UInt32.lt_iff_toNat_lt] at hlt
    simp only [Stage.stepsLeft, hnext]
    omega
  | _ => simp [Stage.stepsLeft]

/-- A task that is not over can take a step. -/
theorem isSome_advance? (trouble : Trouble) (s : Scene σ) (j : Job) (h : stage.isOver = false) :
    (b.advance? trouble s j stage).isSome = true := by
  cases stage with
  | finished r => simp [Stage.isOver] at h
  | broken e => simp [Stage.isOver] at h
  | _ => simp [advance?]

end Bench

section Sum

variable {α : Type} {f : α → Nat} {l : List α} {n : Nat} {x : α}

theorem sum_map_eraseIdx (hr : l[n]? = some x) :
    (l.map f).sum = f x + ((l.eraseIdx n).map f).sum := by
  -- the sum does not care for the order, so the entry may stand in front
  have hperm := (perm_eraseIdx hr).map f
  simpa using hperm.sum_eq

theorem sum_map_set (hr : l[n]? = some x) (y : α) :
    ((l.set n y).map f).sum = f y + ((l.eraseIdx n).map f).sum := by
  have hperm := (perm_set hr y).map f
  simpa using hperm.sum_eq

end Sum

namespace Active

/-- The most steps that one job takes, from its launch to its collection. -/
def stepsOfJob (most : Nat) : Nat := 2 * most + 6

def stepsLeft (most : Nat) (a : Active) : Nat :=
  1 + a.queue.length * stepsOfJob most + (a.running.map fun e => e.2.stepsLeft most).sum

end Active

namespace Progress

variable {σ : Type} {b : Bench σ} {plan : Plan} {done : CompletionLog.Completions}
  {ds es : List Deed} {p q : Progress σ}

/-- A bound on the steps left to a run. -/
def stepsLeft (b : Bench σ) (plan : Plan) (p : Progress σ) : Nat :=
  let most := b.retry.maxAttempts.toNat
  if p.failure.isSome then 0
  else p.pending.length * (2 + plan.units.length * Active.stepsOfJob most) +
    (p.active.map (Active.stepsLeft most)).getD 0

theorem stepsLeft_start (scene : Scene σ) :
    (start plan scene).stepsLeft b plan + 1 = fuelFor b plan := by
  simp [stepsLeft, start, fuelFor, Active.stepsOfJob, Nat.add_comm]

theorem length_queue_take (w : Workspace) (l : Layout) (units : List DesignUnit) (d : Domain) :
    (Survey.take w l done units d).queue.length ≤ units.length := by
  simpa [Survey.take] using List.length_filter_le _ (units.map (Job.mk d))

/-- Each step of a run leaves it fewer, whichever it is. -/
theorem stepsLeft_of_move (hf : p.failure = none) (hm : Move b plan done p es q) :
    q.stepsLeft b plan < p.stepsLeft b plan := by
  cases hm with
  | @begins trouble d rest survey files ha hp hs hprep =>
    have hq : survey.queue.length ≤ plan.units.length := by
      rw [hs]
      exact length_queue_take _ _ _ _
    have hmul := Nat.mul_le_mul_right (Active.stepsOfJob b.retry.maxAttempts.toNat) hq
    simp only [stepsLeft, hf, ha, hp, Option.isSome_none, Bool.false_eq_true, if_false,
      List.length_cons, Option.map_some, Option.getD_some, Option.map_none, Option.getD_none,
      Active.stepsLeft, List.map_nil, List.sum_nil, Nat.add_mul]
    omega
  | @stumbles trouble d rest survey error files ha hp hs hprep =>
    simp only [stepsLeft, hf, ha, hp, Option.isSome_none, Option.isSome_some, Bool.false_eq_true,
      if_false, if_true, List.length_cons, Nat.add_mul]
    omega
  | @launches a j rest ha hq hw =>
    simp only [stepsLeft, launch, hf, ha, hq, Option.isSome_none, Bool.false_eq_true, if_false,
      Option.map_some, Option.getD_some, Active.stepsLeft, List.length_cons, List.map_append,
      List.map_cons, List.map_nil, List.sum_append, List.sum_cons, List.sum_nil, Stage.stepsLeft,
      Nat.add_mul, Active.stepsOfJob]
    omega
  | @advances a place j stage next scene es ha hr hstep =>
    have hlt := hstep.stepsLeft_lt
    simp only [stepsLeft, hf, ha, Option.isSome_none, Bool.false_eq_true, if_false,
      Option.map_some, Option.getD_some, Active.stepsLeft, sum_map_eraseIdx hr,
      sum_map_set hr]
    omega
  | @collects a place j r ha hr =>
    have hone : (Stage.finished r).stepsLeft b.retry.maxAttempts.toNat = 1 := rfl
    simp only [stepsLeft, hf, ha, Option.isSome_none, Bool.false_eq_true, if_false,
      Option.map_some, Option.getD_some, Active.stepsLeft, sum_map_eraseIdx hr, hone]
    omega
  | @breaks a place j error ha hr =>
    simp only [stepsLeft, hf, ha, Option.isSome_none, Option.isSome_some, Bool.false_eq_true,
      if_false, if_true, Option.map_some, Option.getD_some, Active.stepsLeft]
    omega
  | @closes a ha hq hr =>
    simp only [stepsLeft, closeDomain, hf, ha, Option.isSome_none, Bool.false_eq_true, if_false,
      Option.map_some, Option.getD_some, Option.map_none, Option.getD_none, Active.stepsLeft]
    omega

/-- Nothing takes more steps than it has left. -/
theorem exists_not_step_from (f : ℕ → Progress σ) :
    ∃ n ≤ (f 0).stepsLeft b plan, ¬ Step b plan done (f n) (f (n + 1)) := by
  by_contra hall
  push Not at hall
  -- if all of these were steps, each would use up one of those that were left at the start
  have hbound : ∀ n ≤ (f 0).stepsLeft b plan + 1,
      (f n).stepsLeft b plan + n ≤ (f 0).stepsLeft b plan := by
    intro n
    induction n with
    | zero => intro _; simp
    | succ n ih =>
      intro hn
      obtain ⟨c, hc⟩ := hall n (by omega)
      have hlt := stepsLeft_of_move (failure_of_step? hc) (move_of_step? hc)
      have := ih (by omega)
      omega
  have hlast := hbound _ (Nat.le_refl _)
  omega

/-- No run takes more steps than its plan has fuel for. -/
theorem exists_not_step (scene : Scene σ) (f : ℕ → Progress σ) (h0 : f 0 = start plan scene) :
    ∃ n < fuelFor b plan, ¬ Step b plan done (f n) (f (n + 1)) := by
  obtain ⟨n, hn, hstep⟩ := @exists_not_step_from _ b plan done f
  have hfuel := @stepsLeft_start _ b plan scene
  rw [h0] at hn
  exact ⟨n, by omega, hstep⟩

/-! ## The schedule never gives up early -/

theorem hindmost_lt {a : Active} (h : a.running ≠ []) : a.hindmost < a.running.length := by
  unfold Active.hindmost
  dsimp only
  cases hfind : List.findIdx? (fun n => (a.running.map fun x => x.2.turn).all (n ≤ ·))
      (a.running.map fun x => x.2.turn) with
  | none => simpa [hfind] using List.length_pos_iff.mpr h
  | some n =>
    have := List.findIdx?_eq_some_iff_findIdx_eq.mp hfind
    simpa [hfind] using this.1

theorem exists_step_of_active {a : Active} (hf : p.failure = none) (ha : p.active = some a) :
    ∃ q, p.step? b plan done (a.choose b.width) = some q := by
  unfold Active.choose
  split
  next hroom =>
    simp only [Bool.and_eq_true, decide_eq_true_eq, Bool.not_eq_true',
      List.isEmpty_eq_false_iff] at hroom
    obtain ⟨j, rest, hq⟩ := List.exists_cons_of_ne_nil hroom.2
    exact ⟨_, by simp only [step?, hf, ha, hq, hroom.1, Option.isSome_none, Bool.false_eq_true,
      if_false, if_true]; rfl⟩
  next hroom =>
    split
    next place hover =>
      obtain ⟨hlt, hov, -⟩ := List.findIdx?_eq_some_iff_getElem.mp hover
      cases hget : a.running[place] with
      | mk j stage =>
        have hr : a.running[place]? = some (j, stage) := by
          rw [List.getElem?_eq_getElem hlt, hget]
        rw [hget] at hov
        simp only [step?, hf, ha, collect?, hr, Option.isSome_none, Bool.false_eq_true, if_false]
        cases stage with
        | finished r => exact ⟨_, rfl⟩
        | broken e => exact ⟨_, rfl⟩
        | _ => simp [Stage.isOver] at hov
    next hover =>
      split
      next hempty =>
        rw [List.isEmpty_iff] at hempty
        have hwidth : 0 < b.width := by rw [Bench.width]; split <;> omega
        have hq : a.queue.isEmpty = true := by
          by_contra hq
          exact hroom (by simp [hempty, hwidth, hq])
        exact ⟨_, by simp only [step?, hf, ha, hq, hempty, Option.isSome_none,
          Bool.false_eq_true, if_false, List.isEmpty_nil, Bool.and_self, if_true]; rfl⟩
      next hempty =>
        have hlt := hindmost_lt (a := a) (by simpa using hempty)
        cases hget : a.running[a.hindmost] with
        | mk j stage =>
          have hr : a.running[a.hindmost]? = some (j, stage) := by
            rw [List.getElem?_eq_getElem hlt, hget]
          have hov : stage.isOver = false := by
            have hmem : (j, stage) ∈ a.running := List.mem_of_getElem? hr
            simpa using List.findIdx?_eq_none_iff.mp hover _ hmem
          obtain ⟨next, hadv⟩ := Option.isSome_iff_exists.mp
            (Bench.isSome_advance? (b := b) noTrouble p.scene j hov)
          exact ⟨_, by simp only [step?, hf, ha, advance?, hr, hadv, Option.isSome_none,
            Bool.false_eq_true, if_false, Option.map_some]; rfl⟩

/-- A run that has not failed and is not complete can go on, and the schedule's choice goes. -/
theorem exists_step (hf : p.failure = none) (hc : p.isComplete = false) :
    ∃ q, p.step? b plan done (p.choose b) = some q := by
  unfold choose
  cases ha : p.active with
  | some a => exact exists_step_of_active hf ha
  | none =>
    cases hp : p.pending with
    | nil => simp [isComplete, hf, ha, hp] at hc
    | cons d rest =>
      exact ⟨_, by simp only [step?, hf, ha, hp, Option.isSome_none, Bool.false_eq_true,
        if_false]; rfl⟩

theorem follows_trans {r : Progress σ} (h : Follows b plan done p ds q)
    (h' : Follows b plan done q es r) : Follows b plan done p (ds ++ es) r := by
  induction h' with
  | refl => simpa using h
  | step _ hs ih =>
    rw [← List.append_assoc]
    exact .step ih hs

/-- With enough fuel the schedule leads to a failure or to the end. -/
theorem proceed_settled (fuel : Nat) (h : p.stepsLeft b plan < fuel) :
    (∃ ds, Follows b plan done p ds (proceed b plan done fuel p)) ∧
      ((proceed b plan done fuel p).failure = none →
        (proceed b plan done fuel p).isComplete = true) := by
  induction fuel generalizing p with
  | zero => omega
  | succ fuel ih =>
    unfold proceed
    cases hs : p.step? b plan done (p.choose b) with
    | none =>
      refine ⟨⟨[], .refl⟩, fun hf => ?_⟩
      by_contra hc
      obtain ⟨q, hq⟩ : ∃ q, p.step? b plan done (p.choose b) = some q :=
        exists_step hf (Bool.eq_false_iff.mpr hc)
      rw [hs] at hq
      simp at hq
    | some q =>
      -- the step uses up one unit of fuel and at least one of the steps that are left
      have hlt := stepsLeft_of_move (failure_of_step? hs) (move_of_step? hs)
      obtain ⟨⟨ds, hds⟩, hend⟩ := ih (p := q) (by omega)
      exact ⟨⟨_, follows_trans (.step .refl hs) hds⟩, hend⟩

theorem runToEnd_settled (scene : Scene σ) :
    (∃ ds, Follows b plan done (start plan scene) ds (runToEnd b plan done scene)) ∧
      ((runToEnd b plan done scene).failure = none →
        (runToEnd b plan done scene).isComplete = true) := by
  have hfuel := @stepsLeft_start _ b plan scene
  exact proceed_settled _ (by omega)

end Progress

end Signoff
