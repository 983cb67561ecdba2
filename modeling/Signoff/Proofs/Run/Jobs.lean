import Signoff.Proofs.Ledger
import Signoff.Proofs.Run.Deeds

/-!
# Where the jobs of a run are

`Orderly` accounts for every job of the domain in hand: it waits in the queue, runs, has been
executed, or has the result of an earlier run.  `orderly_of_follows` says that this holds wherever
a run gets to, whatever the order of its steps; nothing is assumed about the plan.
-/

namespace Signoff

/-- The jobs of a domain, in the order of the units. -/
def jobsOf (units : List DesignUnit) (d : Domain) : List Job := units.map (Job.mk d)

theorem mem_jobsOf {units : List DesignUnit} {d : Domain} {j : Job} :
    j ∈ jobsOf units d ↔ j.domain = d ∧ j.unit ∈ units := by
  unfold jobsOf
  rw [List.mem_map]
  constructor
  · rintro ⟨u, hu, rfl⟩
    exact ⟨rfl, hu⟩
  · rintro ⟨rfl, hu⟩
    exact ⟨j.unit, hu, rfl⟩

/-- Units with places of their own have jobs of their own. -/
theorem nodup_jobsOf {units : List DesignUnit} (h : (units.map (·.index)).Nodup) (d : Domain) :
    ((jobsOf units d).map (·.key)).Nodup := by
  -- the keys are the indices with the domain put in front
  have hmap : (jobsOf units d).map (·.key) = (units.map (·.index)).map (JobKey.mk d) := by
    simp [jobsOf, Job.key]
  rw [hmap]
  exact h.map fun i k hik => by simpa using hik

/-- A new stage of a task leaves whatever does not depend on it as it is. -/
theorem map_set_eq {α β : Type} {f : α → β} {l : List α} {n : Nat} {x y : α}
    (hr : l[n]? = some x) (h : f y = f x) : (l.set n y).map f = l.map f := by
  obtain ⟨hlt, rfl⟩ := List.getElem?_eq_some_iff.mp hr
  have hself : (l.map f).set n ((l.map f).get ⟨n, by rwa [List.length_map]⟩) = l.map f :=
    List.set_getElem_self _
  rw [List.get_eq_getElem, List.getElem_map] at hself
  rw [List.map_set, h]
  exact hself

namespace Bench

theorem width_eq_max {σ : Type} (b : Bench σ) : b.width = max b.slots 1 := by
  unfold width
  split <;> omega

end Bench

/-! ## The survey of a domain -/

namespace Survey

variable (w : Workspace) (l : Layout) (done : CompletionLog.Completions) (units : List DesignUnit)
  (d : Domain)

theorem take_resumed_map :
    (take w l done units d).resumed.map (·.1) =
      (jobsOf units d).filter fun j => (reusable? w l done j).isSome := by
  simp only [take, jobsOf]
  induction units.map (Job.mk d) with
  | nil => rfl
  | cons j jobs ih =>
    cases hj : reusable? w l done j with
    | none => simpa [hj] using ih
    | some r => simpa [hj] using ih

theorem take_queue :
    (take w l done units d).queue =
      (jobsOf units d).filter fun j => !(reusable? w l done j).isSome := by
  simp [take, jobsOf]

/-- A survey leaves no job of the domain out and counts none twice. -/
theorem take_perm :
    (jobsOf units d).Perm
      ((take w l done units d).queue ++ (take w l done units d).resumed.map (·.1)) := by
  rw [take_resumed_map, take_queue]
  exact (List.perm_append_comm.trans (List.filter_append_perm _ _)).symm

variable {w l done units d}

theorem mem_take_resumed {j : Job} {r : JobResult} :
    (j, r) ∈ (take w l done units d).resumed ↔
      j ∈ jobsOf units d ∧ reusable? w l done j = some r := by
  unfold take jobsOf
  simp only [List.mem_filterMap, Option.map_eq_some_iff, Prod.mk.injEq]
  constructor
  · rintro ⟨j', hj', r', hr', rfl, rfl⟩
    exact ⟨hj', hr'⟩
  · rintro ⟨hj, hr⟩
    exact ⟨j, hj, r, hr, rfl, rfl⟩

theorem enter_eq (s : Survey) (ledger : Ledger) : s.enter ledger =
    s.resumed.foldl (fun l (e : Job × JobResult) => l.enter e.1.key e.2) ledger := rfl

/-- Results of an earlier run are entered beside those that the ledger has. -/
theorem contains_enter (s : Survey) (ledger : Ledger) (k : JobKey) :
    (s.enter ledger).contains k = true ↔
      (∃ e ∈ s.resumed, e.1.key = k) ∨ ledger.contains k = true := by
  rw [enter_eq]
  exact Ledger.contains_foldl _ _ s.resumed ledger k

/-- A result that a survey enters is one of its own, if the ledger did not have it. -/
theorem source_of_enter (s : Survey) {l : Ledger} {k : JobKey} {r : JobResult}
    (h : (s.enter l).get? k = some r) :
    l.get? k = some r ∨ ∃ j, j.key = k ∧ (j, r) ∈ s.resumed := by
  rw [enter_eq] at h
  rcases Ledger.source_of_foldl _ _ h with hold | ⟨⟨j, r'⟩, hmem, hk, rfl⟩
  · exact Or.inl hold
  · exact Or.inr ⟨j, hk, hmem⟩

theorem ordered_enter (s : Survey) {ledger : Ledger} (h : ledger.Ordered) :
    (s.enter ledger).Ordered := by
  rw [enter_eq]
  exact h.foldl _ _ s.resumed

/-- What a survey tells about a domain: its deeds are no beginning of another one. -/
theorem isBegan_of_mem_resumed (s : Survey) :
    ∀ e ∈ s.resumed.map fun (j, r) => Deed.resumed j r, e.isBegan = false := by
  intro e he
  obtain ⟨⟨j, r⟩, -, rfl⟩ := List.mem_map.mp he
  rfl

theorem resumptions_of_resumed (s : Survey) :
    Deed.resumptions (s.resumed.map fun (j, r) => Deed.resumed j r) = s.resumed := by
  unfold Deed.resumptions
  rw [List.filterMap_map]
  have h : (Deed.resumed? ∘ fun (j, r) => Deed.resumed j r) = some := by
    funext ⟨j, r⟩; rfl
  rw [h, List.filterMap_some]

theorem launches_of_resumed (s : Survey) :
    Deed.launches (s.resumed.map fun (j, r) => Deed.resumed j r) = [] := by
  unfold Deed.launches
  rw [List.filterMap_map]
  exact List.filterMap_eq_nil_iff.mpr fun ⟨j, r⟩ _ => rfl

theorem collections_of_resumed (s : Survey) :
    Deed.collections (s.resumed.map fun (j, r) => Deed.resumed j r) = [] := by
  unfold Deed.collections
  rw [List.filterMap_map]
  exact List.filterMap_eq_nil_iff.mpr fun ⟨j, r⟩ _ => rfl

/-- What is done when a domain is begun: it is begun, and results of earlier runs are taken over. -/
theorem mem_deeds {s : Survey} {e : Deed} :
    e ∈ Deed.began d :: s.resumed.map (fun (j, r) => Deed.resumed j r) ↔
      e = .began d ∨ ∃ j r, (j, r) ∈ s.resumed ∧ e = .resumed j r := by
  rw [List.mem_cons, List.mem_map]
  refine or_congr_right ⟨?_, ?_⟩
  · rintro ⟨⟨j, r⟩, hmem, rfl⟩
    exact ⟨j, r, hmem, rfl⟩
  · rintro ⟨j, r, hmem, rfl⟩
    exact ⟨(j, r), hmem, rfl⟩

theorem resumed_mem_deeds {s : Survey} {j : Job} {r : JobResult} :
    Deed.resumed j r ∈ Deed.began d :: s.resumed.map (fun (j, r) => Deed.resumed j r) ↔
      (j, r) ∈ s.resumed := by
  rw [mem_deeds]
  simp

/-- Beginning a domain logs nothing. -/
theorem completions_of_deeds (s : Survey) :
    Deed.completions (Deed.began d :: s.resumed.map fun (j, r) => Deed.resumed j r) = [] := by
  refine List.filterMap_eq_nil_iff.mpr fun e he => ?_
  obtain rfl | ⟨j, r, -, rfl⟩ := mem_deeds.mp he <;> rfl

end Survey

/-! ## The account of a domain's jobs -/

namespace Active

open Deed

/-- Every job of the domain is in one place, and the books say so.  `cur` is what was done since
the domain was begun, `l` the ledger. -/
structure Account (width : Nat) (units : List DesignUnit) (cur : List Deed) (l : Ledger)
    (a : Active) : Prop where
  room : a.running.length ≤ width
  jobs : (jobsOf units a.domain).Perm (a.queue ++ (a.running.map (·.1) ++
    ((collections cur).map (·.1) ++ (resumptions cur).map (·.1))))
  launched : (launches cur).Perm (a.running.map (·.1) ++ (collections cur).map (·.1))
  stats : a.stats = ⟨(collections cur).length, (resumptions cur).length, 0⟩
  stored : ∀ j ∈ (collections cur).map (·.1) ++ (resumptions cur).map (·.1),
    l.contains j.key = true

namespace Account

variable {width : Nat} {units : List DesignUnit} {cur : List Deed} {l : Ledger} {a : Active}

theorem mem_jobsOf_of_running (h : Account width units cur l a) {j : Job} {stage : Stage}
    (hj : (j, stage) ∈ a.running) : j ∈ jobsOf units a.domain := by
  rw [h.jobs.mem_iff]
  simp only [List.mem_append, List.mem_map]
  exact Or.inr (Or.inl ⟨_, hj, rfl⟩)

/-- Executing and resuming accounts for every job once nothing waits or runs. -/
theorem perm_of_idle (h : Account width units cur l a) (hq : a.queue = []) (hr : a.running = []) :
    (jobsOf units a.domain).Perm
      ((collections cur).map (·.1) ++ (resumptions cur).map (·.1)) := by
  simpa [hq, hr] using h.jobs

theorem begin (w : Workspace) (y : Layout) (done : CompletionLog.Completions) (d : Domain) :
    let survey := Survey.take w y done units d
    Account width units (survey.resumed.map fun (j, r) => .resumed j r) (survey.enter l)
      ⟨d, survey.queue, [], ⟨0, survey.resumed.length, 0⟩⟩ := by
  -- every job of the domain waits or was resumed
  intro survey
  have hres := survey.resumptions_of_resumed
  have hcol := survey.collections_of_resumed
  refine ⟨by simp, ?_, ?_, ?_, ?_⟩
  · rw [hres, hcol]
    simpa using Survey.take_perm w y done units d
  · rw [survey.launches_of_resumed, hcol]
    simp
  · rw [hres, hcol]
    rfl
  · rw [hres, hcol]
    intro j hj
    rw [List.map_nil, List.nil_append] at hj
    obtain ⟨e, he, rfl⟩ := List.mem_map.mp hj
    exact (survey.contains_enter l e.1.key).mpr (Or.inl ⟨e, he, rfl⟩)

theorem launch (h : Account width units cur l a) {j : Job} {rest : List Job}
    (hq : a.queue = j :: rest) (hw : a.running.length < width) :
    Account width units (cur ++ [.launched j]) l
      { a with queue := rest, running := a.running ++ [(j, .fresh)] } := by
  have hcol : collections (cur ++ [.launched j]) = collections cur := by
    simp [collections, collected?]
  have hres : resumptions (cur ++ [.launched j]) = resumptions cur := by
    simp [resumptions, resumed?]
  have hlau : launches (cur ++ [.launched j]) = launches cur ++ [j] := by
    simp [launches, launched?]
  refine ⟨by simpa using hw, ?_, ?_, ?_, ?_⟩
  · rw [hcol, hres]
    refine h.jobs.trans ?_
    rw [hq, List.perm_iff_count]
    intro x
    simp only [List.map_append, List.map_cons, List.map_nil, List.count_append, List.count_cons,
      List.count_nil]
    omega
  · rw [hcol, hlau]
    refine (List.Perm.append_right [j] h.launched).trans ?_
    rw [List.perm_iff_count]
    intro x
    simp only [List.map_append, List.map_cons, List.map_nil, List.count_append, List.count_cons,
      List.count_nil]
    omega
  · rw [hcol, hres]
    exact h.stats
  · rw [hcol, hres]
    exact h.stored

theorem advance (h : Account width units cur l a) {σ : Type} {b : Bench σ} {s s' : Scene σ}
    {place : Nat} {j : Job} {stage next : Stage} {es : List Deed}
    (hr : a.running[place]? = some (j, stage)) (hm : b.TaskMove s j stage es next s') :
    Account width units (cur ++ es) l { a with running := a.running.set place (j, next) } := by
  obtain ⟨hlau, hcol, hres⟩ := hm.enters_nothing
  have hfst : (a.running.set place (j, next)).map (·.1) = a.running.map (·.1) :=
    map_set_eq hr rfl
  refine ⟨by simpa using h.room, ?_, ?_, ?_, ?_⟩
  all_goals simp only [launches_append, collections_append, resumptions_append, hlau, hcol, hres,
    hfst, List.append_nil]
  · exact h.jobs
  · exact h.launched
  · exact h.stats
  · exact h.stored

theorem collect (h : Account width units cur l a) {place : Nat} {j : Job} {r : JobResult}
    (hr : a.running[place]? = some (j, .finished r)) :
    Account width units (cur ++ [.collected j r]) (l.enter j.key r)
      { a with
        running := a.running.eraseIdx place
        stats := { a.stats with executed := a.stats.executed + 1 } } := by
  have hcol : collections (cur ++ [.collected j r]) = collections cur ++ [(j, r)] := by
    simp [collections, collected?]
  have hres : resumptions (cur ++ [.collected j r]) = resumptions cur := by
    simp [resumptions, resumed?]
  have hlau : launches (cur ++ [.collected j r]) = launches cur := by
    simp [launches, launched?]
  -- the job leaves those that run and joins those that were executed
  have hrun : (a.running.map (·.1)).Perm (j :: (a.running.eraseIdx place).map (·.1)) :=
    (perm_eraseIdx hr).map (·.1)
  refine ⟨?_, ?_, ?_, ?_, ?_⟩
  · exact (List.length_eraseIdx_le _ _).trans h.room
  · rw [hcol, hres]
    refine h.jobs.trans ?_
    rw [List.perm_iff_count] at hrun ⊢
    intro x
    have hx := hrun x
    simp only [List.map_append, List.map_cons, List.map_nil, List.count_append, List.count_cons,
      List.count_nil] at hx ⊢
    omega
  · rw [hcol, hlau]
    refine h.launched.trans ?_
    rw [List.perm_iff_count] at hrun ⊢
    intro x
    have hx := hrun x
    simp only [List.map_append, List.map_cons, List.map_nil, List.count_append, List.count_cons,
      List.count_nil] at hx ⊢
    omega
  · rw [hcol, hres]
    simp [h.stats]
  · rw [hcol, hres]
    intro i hi
    rw [Ledger.contains_enter]
    simp only [List.map_append, List.map_cons, List.map_nil, List.mem_append, List.mem_singleton]
      at hi
    rcases hi with (hi | rfl) | hi
    · exact Or.inr (h.stored i (by simp [hi]))
    · exact Or.inl rfl
    · exact Or.inr (h.stored i (by simp [hi]))

end Account

end Active

namespace Progress

open Deed

variable {σ : Type}

/-- The account of the domain in hand is right, those of the closed domains are settled, and the
ledger holds nothing else. -/
structure Orderly (b : Bench σ) (plan : Plan) (ds : List Deed) (p : Progress σ) : Prop where
  domains : p.failure = none →
    plan.domains = p.closed.map (·.1) ++ (p.active.toList.map (·.domain) ++ p.pending)
  account : ∀ a, p.active = some a → a.Account b.width plan.units (current ds) p.ledger
  stored : ∀ d ∈ p.closed.map (·.1), ∀ j ∈ jobsOf plan.units d, p.ledger.contains j.key = true
  stats : ∀ e ∈ p.closed, e.2.executed + e.2.resumed + e.2.skipped = plan.units.length
  keys : ∀ k, p.ledger.contains k = true → ∃ d ∈ plan.domains, ∃ j ∈ jobsOf plan.units d, j.key = k
  ordered : p.ledger.Ordered

variable {b : Bench σ} {plan : Plan} {done : CompletionLog.Completions} {ds es : List Deed}
  {p q : Progress σ}

theorem orderly_start (scene : Scene σ) : Orderly b plan [] (start plan scene) where
  domains _ := by simp [start]
  account a ha := by simp [start] at ha
  stored d hd := by simp [start] at hd
  stats e he := by simp [start] at he
  keys k hk := by simp [start, Ledger.contains] at hk
  ordered := Ledger.ordered_empty

namespace Orderly

theorem mem_domains (h : Orderly b plan ds p) (hf : p.failure = none) {a : Active}
    (ha : p.active = some a) : a.domain ∈ plan.domains := by
  rw [h.domains hf, ha]
  simp

theorem mem_domains_of_pending (h : Orderly b plan ds p) (hf : p.failure = none) {d : Domain}
    {rest : List Domain} (hp : p.pending = d :: rest) : d ∈ plan.domains := by
  rw [h.domains hf, hp]
  simp

/-- Among distinct domains, the one in hand does not come again. -/
theorem not_mem_pending (h : Orderly b plan ds p) (hf : p.failure = none)
    (hdom : plan.domains.Nodup) {a : Active} (ha : p.active = some a) :
    a.domain ∉ p.pending := by
  rw [h.domains hf, ha] at hdom
  exact (List.nodup_cons.mp (List.nodup_append.mp hdom).2.1).1

theorem not_mem_rest (h : Orderly b plan ds p) (hf : p.failure = none)
    (hdom : plan.domains.Nodup) {d : Domain} {rest : List Domain} (hp : p.pending = d :: rest) :
    d ∉ rest := by
  rw [h.domains hf, hp] at hdom
  exact (List.nodup_cons.mp (List.nodup_append.mp (List.nodup_append.mp hdom).2.1).2.1).1

/-- Once the survey of a domain is entered, its results are beside those of earlier domains. -/
theorem keys_enter (h : Orderly b plan ds p) (hf : p.failure = none) {d : Domain}
    {rest : List Domain} (hp : p.pending = d :: rest) :
    ∀ k, ((Survey.take p.scene.files b.layout done plan.units d).enter p.ledger).contains k =
      true → ∃ d ∈ plan.domains, ∃ j ∈ jobsOf plan.units d, j.key = k := by
  intro k hk
  -- what is entered belongs to the domain that begins
  rcases (Survey.contains_enter _ _ _).mp hk with ⟨e, he, rfl⟩ | hk
  · exact ⟨d, h.mem_domains_of_pending hf hp, e.1, (Survey.mem_take_resumed.mp he).1, rfl⟩
  · exact h.keys k hk

theorem stored_enter (h : Orderly b plan ds p) (s : Survey) :
    ∀ d ∈ p.closed.map (·.1), ∀ j ∈ jobsOf plan.units d,
      (s.enter p.ledger).contains j.key = true := fun d hd j hj =>
  (s.contains_enter p.ledger j.key).mpr (Or.inr (h.stored d hd j hj))

/-- A step of the run keeps the account. -/
theorem move (h : Orderly b plan ds p) (hf : p.failure = none) (hm : Move b plan done p es q) :
    Orderly b plan (ds ++ es) q := by
  cases hm with
  | @begins trouble d rest survey files ha hp hs hprep =>
    subst hs
    have hcur := current_append_began ds _ d (Survey.isBegan_of_mem_resumed
      (Survey.take p.scene.files b.layout done plan.units d))
    refine ⟨fun _ => ?_, fun a' ha' => ?_, h.stored_enter _, h.stats, h.keys_enter hf hp,
      Survey.ordered_enter _ h.ordered⟩
    · rw [h.domains hf, ha, hp]
      simp
    · rw [Option.some.injEq] at ha'
      subst ha'
      rw [hcur]
      exact Active.Account.begin _ _ _ _
  | @stumbles trouble d rest survey error files ha hp hs hprep =>
    subst hs
    refine ⟨fun hfail => by simp at hfail, fun a' ha' => by simp [ha] at ha', h.stored_enter _,
      h.stats, h.keys_enter hf hp, Survey.ordered_enter _ h.ordered⟩
  | @launches a j rest ha hq hw =>
    refine ⟨fun _ => ?_, fun a' ha' => ?_, h.stored, h.stats, h.keys, h.ordered⟩
    · rw [h.domains hf, ha]
      rfl
    · simp only [launch, Option.some.injEq] at ha'
      subst ha'
      rw [current_append _ _ (by simp [isBegan])]
      exact (h.account a ha).launch hq hw
  | @advances a place j stage next scene es ha hr hstep =>
    refine ⟨fun _ => ?_, fun a' ha' => ?_, h.stored, h.stats, h.keys, h.ordered⟩
    · rw [h.domains hf, ha]
      rfl
    · simp only [Option.some.injEq] at ha'
      subst ha'
      rw [current_append _ _ fun e he => hstep.isBegan_of_mem he]
      exact (h.account a ha).advance hr hstep
  | @collects a place j r ha hr =>
    have hj := (h.account a ha).mem_jobsOf_of_running (List.mem_of_getElem? hr)
    refine ⟨fun _ => ?_, fun a' ha' => ?_, fun d hd i hi => ?_, h.stats, fun k hk => ?_,
      h.ordered.enter _ _⟩
    · rw [h.domains hf, ha]
      rfl
    · simp only [Option.some.injEq] at ha'
      subst ha'
      rw [current_append _ _ (by simp [isBegan])]
      exact (h.account a ha).collect hr
    · exact (Ledger.contains_enter _ _ _ _).mpr (Or.inr (h.stored d hd i hi))
    · rcases (Ledger.contains_enter _ _ _ _).mp hk with rfl | hk
      · exact ⟨a.domain, h.mem_domains hf ha, j, hj, rfl⟩
      · exact h.keys k hk
  | @breaks a place j error ha hr =>
    exact ⟨fun hfail => by simp at hfail, fun a' ha' => by simp at ha', h.stored, h.stats, h.keys,
      h.ordered⟩
  | @closes a ha hq hr =>
    have hperm := (h.account a ha).perm_of_idle hq hr
    have hstats := (h.account a ha).stats
    refine ⟨fun _ => ?_, fun a' ha' => by simp [closeDomain] at ha', fun d hd i hi => ?_,
      fun e he => ?_, h.keys, h.ordered⟩
    · rw [h.domains hf, ha]
      simp [closeDomain]
    · simp only [closeDomain, List.map_append, List.map_cons, List.map_nil, List.mem_append,
        List.mem_singleton] at hd
      rcases hd with hd | rfl
      · exact h.stored d hd i hi
      · exact (h.account a ha).stored i (hperm.mem_iff.mp hi)
    · simp only [closeDomain, List.mem_append, List.mem_singleton] at he
      rcases he with he | rfl
      · exact h.stats e he
      · have hlen := hperm.length_eq
        simp only [jobsOf, List.length_map, List.length_append] at hlen
        simp only [hstats]
        omega

end Orderly

theorem orderly_of_follows {scene : Scene σ} (h : Follows b plan done (start plan scene) ds p) :
    Orderly b plan ds p :=
  h.induct (orderly_start scene) fun _ hf hm ih => ih.move hf hm

end Progress

end Signoff
