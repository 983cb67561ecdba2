import Mathlib.Data.List.Induction
import Signoff.Proofs.Run.Jobs
import Signoff.Proofs.Run.Opening

/-!
# What a run leaves alone

Whatever the plan and wherever the log lies, a run writes no file but the log and those of the jobs
that it launches, and makes no folder but those of the domains that it begins
(`framed_of_follows`).  The log has all its lines unless one of these jobs has a file in its place.
-/

namespace Signoff

open Workspace Deed

/-! ## Writing to a file by its number -/

namespace Workspace

variable {w : Workspace} {number n : Nat} {position : Option Nat} {bytes c : ByteArray} {q : Place}

theorem exists_file_of_writeInto
    (h : (w.writeInto number position bytes).item? q = some (.file n c)) :
    ∃ d, w.item? q = some (.file n d) := by
  rw [item?_writeInto, Option.map_eq_some_iff] at h
  obtain ⟨item, hitem, hwritten⟩ := h
  cases item with
  | folder => simp [writtenItem] at hwritten
  | file m d =>
    have hm : m = n := by
      simp only [writtenItem] at hwritten
      split at hwritten <;> exact (Item.file.inj hwritten).1
    exact ⟨d, hm ▸ hitem⟩

theorem folder_iff_writeInto :
    (w.writeInto number position bytes).item? q = some .folder ↔ w.item? q = some .folder := by
  rw [item?_writeInto]
  cases w.item? q with
  | none => simp
  | some item =>
    cases item with
    | folder => simp [writtenItem]
    | file m d =>
      unfold writtenItem
      simp only [Option.map_some, Option.some.injEq]
      split <;> simp

theorem Sound.writeInto (h : w.Sound) : (w.writeInto number position bytes).Sound where
  numbered q n c hq := by
    obtain ⟨d, hd⟩ := exists_file_of_writeInto hq
    exact h.numbered q n d hd
  unshared p q n c d hp hq := by
    obtain ⟨c', hc⟩ := exists_file_of_writeInto hp
    obtain ⟨d', hd⟩ := exists_file_of_writeInto hq
    exact h.unshared p q n c' d' hc hd

end Workspace

namespace LogFile

variable {log log' : LogFile} {w w' : Workspace} {p : Place} {content : ByteArray}

/-- The log writes to the place and to no other, and not even there once another file has taken the
place. -/
structure ConfinedTo (log : LogFile) (w : Workspace) (p : Place) : Prop where
  number : log.number < w.nextNumber
  place : ∀ q c, w.item? q = some (.file log.number c) → q = p

theorem Keeps.confinedTo (h : log.Keeps w p content) (hw : w.Sound) : log.ConfinedTo w p where
  number := hw.numbered p _ content h.file
  place q c hq := hw.unshared q p _ c content hq h.file

namespace ConfinedTo

theorem alike (h : log.ConfinedTo w p) (ha : Alike w w') : log.ConfinedTo w' p where
  number := lt_of_lt_of_le h.number ha.number
  place q c hq := h.place q c (ha.items q ▸ hq)

theorem widens {places : List Place} (h : log.ConfinedTo w p) (hw : Widens places w w') :
    log.ConfinedTo w' p where
  number := hw.number ▸ h.number
  place q c hq := h.place q c (hw.file_iff.mp hq)

theorem stores {q : Place} (h : log.ConfinedTo w p) (hs : Stores q content w w') :
    log.ConfinedTo w' p where
  number := lt_of_lt_of_le h.number hs.number
  place r c hr := by
    by_cases hrq : r = q
    · subst hrq
      -- a new file has a number that the log cannot have
      obtain ⟨n, hn, hnew⟩ := hs.stored
      rw [hr, Option.some.injEq, Item.file.injEq] at hn
      rcases hnew with ⟨hle, -⟩ | ⟨d, hd⟩
      · have := h.number
        omega
      · exact h.place r d (hn.1 ▸ hd)
    · rw [hs.elsewhere r hrq] at hr
      exact h.place r c hr

/-- A line changes no place but that of the log. -/
theorem record {key : JobKey} {name : String} {time : Time.Instant} (h : log.ConfinedTo w p)
    (hr : log.record w key name time = (log', w')) :
    log'.ConfinedTo w' p ∧ ∀ q, q ≠ p → w'.item? q = w.item? q := by
  unfold LogFile.record at hr
  rw [Prod.mk.injEq] at hr
  rw [← hr.1, ← hr.2]
  refine ⟨⟨h.number, fun q c hq => ?_⟩, fun q hq => ?_⟩
  · obtain ⟨d, hd⟩ := exists_file_of_writeInto hq
    exact h.place q d hd
  · exact item?_writeInto_of_ne fun c hc => hq (h.place q c hc)

end ConfinedTo

end LogFile

/-! ## One step of a task -/

namespace Bench

variable {σ : Type} {b : Bench σ} {s s' : Scene σ} {j : Job} {stage next : Stage}
  {es : List Deed} {place : Place}

theorem append_logText (content : ByteArray) (h : Deed.completions es = []) :
    content ++ (logText es).toUTF8 = content := by
  rw [logText_eq_empty h]
  exact ByteArray.append_empty

/-- Only the log and the files of the job changed.  The log grew by what was logged if the job has
no file in its place. -/
structure Reach (b : Bench σ) (place : Place) (j : Job) (es : List Deed) (s s' : Scene σ) :
    Prop where
  sound : s'.files.Sound
  confined : s'.log.ConfinedTo s'.files place
  keeps : ∀ content, ¬ b.layout.JobFile j place → s.log.Keeps s.files place content →
    s'.log.Keeps s'.files place (content ++ (logText es).toUTF8)
  folders : ∀ q, s'.files.item? q = some .folder ↔ s.files.item? q = some .folder
  elsewhere : ∀ q, q ≠ place → ¬ b.layout.JobFile j q → s'.files.item? q = s.files.item? q

theorem reach_of_alike (hw : s.files.Sound) (hc : s.log.ConfinedTo s.files place)
    (hlog : s'.log = s.log) (hes : Deed.completions es = []) (h : Alike s.files s'.files) :
    Reach b place j es s s' where
  sound := hw.alike h
  confined := by
    rw [hlog]
    exact hc.alike h
  keeps content _ hk := by
    rw [append_logText _ hes, hlog]
    exact hk.congr (h.items place)
  folders q := by rw [h.items q]
  elsewhere q _ _ := h.items q

theorem reach_of_stores {p : Place} {c : ByteArray} (hw : s.files.Sound)
    (hc : s.log.ConfinedTo s.files place) (hp : b.layout.JobFile j p) (hlog : s'.log = s.log)
    (hes : Deed.completions es = []) (h : Stores p c s.files s'.files) :
    Reach b place j es s s' where
  sound := hw.stores h
  confined := by
    rw [hlog]
    exact hc.stores h
  keeps content hplace hk := by
    rw [append_logText _ hes, hlog]
    exact hk.congr (h.elsewhere place fun heq => hplace (heq ▸ hp))
  folders q := h.folder_iff
  elsewhere q _ hq := h.elsewhere q fun hqp => hq (hqp ▸ hp)

/-- What a step of a task can touch, in a domain with its folders. -/
theorem TaskMove.reach (h : b.TaskMove s j stage es next s') (hw : s.files.Sound)
    (hc : s.log.ConfinedTo s.files place)
    (hprep : ∀ q ∈ b.layout.folders j.domain, s.files.item? q = some .folder) :
    Reach b place j es s s' := by
  have hraw : b.layout.JobFile j (b.layout.rawPath j).place := Or.inl rfl
  have hrec : b.layout.JobFile j (b.layout.recordPath j).place := Or.inr rfl
  -- three steps write the job's output, one its record and one the log
  cases h with
  | accepts hwrite => exact reach_of_stores hw hc hraw rfl rfl (write_eq_ok hwrite).2
  | givesUp hwrite => exact reach_of_stores hw hc hraw rfl rfl (write_eq_ok hwrite).2
  | retries hwrite => exact reach_of_stores hw hc hraw rfl rfl (write_eq_ok hwrite).2
  | records hsave =>
    exact reach_of_stores hw hc hrec rfl rfl (Record.save_eq_ok hw hprep hsave).2
  | failsToRecord hsave =>
    exact reach_of_alike hw hc rfl rfl (Record.save_eq_error hw hprep hsave)
  | @logs r log files hlog =>
    obtain ⟨hconfined, helse⟩ := hc.record hlog
    have hfiles : files = s.files.writeInto s.log.number s.log.position
        (CompletionLog.writeLine j.key j.unit.name (b.clock s.readings) ++ "\n").toUTF8 :=
      (Prod.mk.inj hlog).2.symm
    refine ⟨?_, hconfined, fun content _ hk => ?_, fun q => ?_, fun q hq _ => helse q hq⟩
    · show files.Sound
      rw [hfiles]
      exact hw.writeInto
    · rw [logText_logged]
      exact (hk.record hw hlog).1
    · show files.item? q = some .folder ↔ _
      rw [hfiles]
      exact folder_iff_writeInto
  | _ => exact reach_of_alike hw hc rfl rfl (.refl _)

end Bench

/-! ## The steps of a run -/

namespace Deed

theorem mem_of_mem_current {ds : List Deed} {e : Deed} (h : e ∈ current ds) : e ∈ ds := by
  induction ds using List.reverseRecOn with
  | nil => simp [current] at h
  | append_singleton ds d ih =>
    unfold current at h
    rw [List.foldl_append, List.foldl_cons, List.foldl_nil, addCurrent] at h
    split at h
    · simp at h
    · rw [List.mem_append] at h ⊢
      exact h.imp_left ih

end Deed

namespace Progress

variable {σ : Type} {b : Bench σ} {plan : Plan} {done : CompletionLog.Completions}
  {ds es : List Deed} {p q : Progress σ} {place : Place} {base : ByteArray}

/-! ### Domains that were begun -/

theorem began_iff {scene : Scene σ} (h : Follows b plan done (start plan scene) ds p)
    (hf : p.failure = none) (d : Domain) :
    .began d ∈ ds ↔ d ∈ p.closed.map (·.1) ∨ d ∈ p.active.toList.map (·.domain) := by
  refine h.induct (motive := fun ds p => p.failure = none →
    (.began d ∈ ds ↔ d ∈ p.closed.map (·.1) ∨ d ∈ p.active.toList.map (·.domain)))
    (fun _ => by simp [start]) ?_ hf
  intro ds es p q _ hf hm ih hfq
  have ih := ih hf
  cases hm with
  | @begins trouble d' rest survey files ha hp hs hprep =>
    rw [ha] at ih
    simp only [Option.toList_none, List.map_nil, List.not_mem_nil, or_false] at ih
    simp only [List.mem_append, List.mem_cons, ih, Option.toList_some, List.map_cons, List.map_nil,
      List.not_mem_nil, or_false, Deed.began.injEq, List.mem_map, reduceCtorEq, and_false,
      exists_false]
  | stumbles => simp at hfq
  | @launches a j rest ha hq hw =>
    rw [ha] at ih
    simpa [launch] using ih
  | @advances a place j stage next scene es ha hr hstep =>
    rw [ha] at ih
    rw [List.mem_append, or_iff_left (hstep.began_not_mem d)]
    exact ih
  | @collects a place j r ha hr =>
    rw [ha] at ih
    simpa using ih
  | breaks => simp at hfq
  | @closes a ha hq hr =>
    rw [ha] at ih
    simpa [closeDomain, or_comm, eq_comm] using ih

theorem began_of_active {scene : Scene σ} (h : Follows b plan done (start plan scene) ds p)
    (hf : p.failure = none) {a : Active} (ha : p.active = some a) : .began a.domain ∈ ds := by
  rw [began_iff h hf, ha]
  simp

theorem mem_domains_of_began {scene : Scene σ} (h : Follows b plan done (start plan scene) ds p)
    {d : Domain} (hd : .began d ∈ ds) : d ∈ plan.domains := by
  refine h.induct (motive := fun ds _ => .began d ∈ ds → d ∈ plan.domains) (by simp) ?_ hd
  intro ds es p q hfol hf hm ih hd
  rcases List.mem_append.mp hd with hd | hd
  · exact ih hd
  -- the domain that is begun was the next one of the plan
  have ho := orderly_of_follows hfol
  cases hm with
  | begins ha hp =>
    rw [show d = _ by simpa using hd]
    exact ho.mem_domains_of_pending hf hp
  | stumbles ha hp =>
    rw [show d = _ by simpa using hd]
    exact ho.mem_domains_of_pending hf hp
  | advances ha hr hstep =>
    exact absurd hd (hstep.began_not_mem d)
  | _ => simp at hd

theorem launched_of_running (ho : Orderly b plan ds p) {a : Active} {n : Nat} {j : Job}
    {stage : Stage} (ha : p.active = some a) (hr : a.running[n]? = some (j, stage)) :
    .launched j ∈ ds := by
  have hj : j ∈ a.running.map (·.1) := List.mem_map_of_mem (List.mem_of_getElem? hr)
  refine mem_of_mem_current (mem_launches.mp ?_)
  rw [(ho.account a ha).launched.mem_iff]
  exact List.mem_append_left _ hj

theorem prepare_eq {trouble : Trouble} {w w' : Workspace} {d : Domain}
    {result : Except Error Unit} (h : prepare b trouble w d = (result, w')) :
    Widens (b.layout.folders d) w w' ∧
      (result = .ok () → ∀ q ∈ b.layout.folders d, w'.item? q = some .folder) := by
  unfold prepare at h
  split at h
  · rw [Prod.mk.injEq] at h
    rw [← h.1, ← h.2]
    exact ⟨.refl w, fun hok => by simp at hok⟩
  · refine ⟨Layout.prepare_widens h, fun hok => ?_⟩
    rw [hok] at h
    exact Layout.prepare_folders h

/-! ### The files of the whole run -/

/-- What a run can have made of the workspace `w` in which its log was opened. -/
structure Framed (b : Bench σ) (w : Workspace) (place : Place) (base : ByteArray)
    (ds : List Deed) (p : Progress σ) : Prop where
  sound : p.scene.files.Sound
  confined : p.scene.log.ConfinedTo p.scene.files place
  keeps : (∀ j, .launched j ∈ ds → ¬ b.layout.JobFile j place) →
    p.scene.log.Keeps p.scene.files place (base ++ (logText ds).toUTF8)
  kept : ∀ q, w.item? q = some .folder → p.scene.files.item? q = some .folder
  made : ∀ q, p.scene.files.item? q = some .folder →
    w.item? q = some .folder ∨ ∃ d, .began d ∈ ds ∧ q ∈ b.layout.folders d
  prepared : p.failure = none → ∀ d, .began d ∈ ds →
    ∀ q ∈ b.layout.folders d, p.scene.files.item? q = some .folder
  elsewhere : ∀ q, q ≠ place → (∀ j, .launched j ∈ ds → ¬ b.layout.JobFile j q) →
    p.scene.files.item? q = w.item? q ∨
      w.item? q = none ∧ p.scene.files.item? q = some .folder

namespace Framed

variable {w : Workspace}

theorem start {scene : Scene σ} (hw : scene.files.Sound)
    (hk : scene.log.Keeps scene.files place base) :
    Framed b scene.files place base [] (Progress.start plan scene) where
  sound := hw
  confined := hk.confinedTo hw
  keeps _ := by
    rw [@Bench.append_logText [] base rfl]
    exact hk
  kept q hq := hq
  made q hq := Or.inl hq
  prepared _ d hd := by simp at hd
  elsewhere q _ _ := Or.inl rfl

/-- A new domain adds its folders, whether all of them can be made or not. -/
theorem begins (h : Framed b w place base ds p) {d : Domain} {s : Survey} {trouble : Trouble}
    {result : Except Error Unit} (hf : p.failure = none)
    (hprep : prepare b trouble p.scene.files d = (result, q.scene.files))
    (hlog : q.scene.log = p.scene.log) (hok : q.failure = none → result = .ok ()) :
    Framed b w place base (ds ++ .began d :: s.resumed.map fun (j, r) => .resumed j r) q := by
  obtain ⟨hwide, hthere⟩ := prepare_eq hprep
  have hnone := @Survey.completions_of_deeds d s
  have hbegan : ∀ {e}, Deed.began e ∈
      ds ++ .began d :: s.resumed.map (fun (j, r) => Deed.resumed j r) ↔
        .began e ∈ ds ∨ e = d := by
    intro e
    simp
  refine ⟨h.sound.widens hwide, ?_, fun hj => ?_, fun q' hq' => hwide.keeps q' _ (h.kept q' hq'),
    fun q' hq' => ?_, fun hfq e he q' hq' => ?_, fun q' hq' hj => ?_⟩
  · rw [hlog]
    exact h.confined.widens hwide
  · have hk := h.keeps fun j hjd => hj j (List.mem_append_left _ hjd)
    rw [logText_append, logText_eq_empty hnone, String.append_empty, hlog]
    exact ⟨hwide.keeps _ _ hk.file, hk.position⟩
  -- a folder was there before, or the new domain has made it
  · cases hi : p.scene.files.item? q' with
    | some item =>
      rw [hwide.keeps q' item hi, Option.some.injEq] at hq'
      rw [hq'] at hi
      exact (h.made q' hi).imp_right fun ⟨e, he, hmem⟩ => ⟨e, hbegan.mpr (Or.inl he), hmem⟩
    | none =>
      rcases hwide.adds q' hi with hno | ⟨-, hmem⟩
      · simp [hno] at hq'
      · exact Or.inr ⟨d, hbegan.mpr (Or.inr rfl), hmem⟩
  · rcases hbegan.mp he with he | rfl
    · exact hwide.keeps q' _ (h.prepared hf e he q' hq')
    · exact hthere (hok hfq) q' hq'
  · rcases h.elsewhere q' hq' fun j hjd => hj j (List.mem_append_left _ hjd) with
      heq | ⟨hwq, hfolder⟩
    · cases hi : p.scene.files.item? q' with
      | some item =>
        rw [hwide.keeps q' item hi, ← heq, hi]
        exact Or.inl rfl
      | none =>
        rw [← heq, hi]
        exact (hwide.adds q' hi).imp_right fun hadd => ⟨rfl, hadd.1⟩
    · exact Or.inr ⟨hwq, hwide.keeps q' _ hfolder⟩

/-- A step that leaves the scene's files and log alone. -/
theorem idle (h : Framed b w place base ds p) (hfiles : q.scene.files = p.scene.files)
    (hlog : q.scene.log = p.scene.log) (hnone : completions es = [])
    (hbegan : ∀ d, .began d ∉ es) (hf : q.failure = none → p.failure = none) :
    Framed b w place base (ds ++ es) q := by
  have hmem : ∀ {d}, Deed.began d ∈ ds ++ es ↔ .began d ∈ ds := by
    intro d
    rw [List.mem_append, or_iff_left (hbegan d)]
  refine ⟨hfiles ▸ h.sound, hlog ▸ hfiles ▸ h.confined, fun hj => ?_,
    fun q' hq' => hfiles ▸ h.kept q' hq', fun q' hq' => ?_, fun hfq d hd q' hq' => ?_,
    fun q' hq' hj => ?_⟩
  · rw [logText_append, logText_eq_empty hnone, String.append_empty, hlog, hfiles]
    exact h.keeps fun j hjd => hj j (List.mem_append_left _ hjd)
  · rw [hfiles] at hq'
    simpa only [hmem] using h.made q' hq'
  · rw [hfiles]
    exact h.prepared (hf hfq) d (hmem.mp hd) q' hq'
  · rw [hfiles]
    exact h.elsewhere q' hq' fun j hjd => hj j (List.mem_append_left _ hjd)

theorem advances (h : Framed b w place base ds p) (hf : p.failure = none) {a : Active}
    {j : Job} {n : Nat} {stage next : Stage} {scene : Scene σ} (hj : .launched j ∈ ds)
    (hstep : b.TaskMove p.scene j stage es next scene)
    (hreach : b.Reach place j es p.scene scene) :
    Framed b w place base (ds ++ es)
      { p with scene, active := some { a with running := a.running.set n (j, next) } } := by
  have hmem : ∀ {d}, Deed.began d ∈ ds ++ es ↔ .began d ∈ ds := by
    intro d
    rw [List.mem_append, or_iff_left (hstep.began_not_mem d)]
  refine ⟨hreach.sound, hreach.confined, fun hjobs => ?_,
    fun q' hq' => (hreach.folders q').mpr (h.kept q' hq'), fun q' hq' => ?_,
    fun _ d hd q' hq' => ?_, fun q' hq' hjobs => ?_⟩
  · rw [logText_append, toUTF8_append, ← ByteArray.append_assoc]
    refine hreach.keeps _ (hjobs j (List.mem_append_left _ hj)) ?_
    exact h.keeps fun i hi => hjobs i (List.mem_append_left _ hi)
  · simpa only [hmem] using h.made q' ((hreach.folders q').mp hq')
  · exact (hreach.folders q').mpr (h.prepared hf d (hmem.mp hd) q' hq')
  · rw [hreach.elsewhere q' hq' (hjobs j (List.mem_append_left _ hj))]
    exact h.elsewhere q' hq' fun i hi => hjobs i (List.mem_append_left _ hi)

/-- Away from the log and the files of launched jobs every file keeps its content. -/
theorem contentAt_eq (h : Framed b w place base ds p) {r : Place} (hr : r ≠ place)
    (hj : ∀ j, .launched j ∈ ds → ¬ b.layout.JobFile j r) :
    p.scene.files.contentAt r = w.contentAt r := by
  rcases h.elsewhere r hr hj with heq | ⟨hnone, hfolder⟩
  · exact contentAt_congr heq
  · unfold contentAt
    rw [hnone, hfolder]

/-- Nothing changes at a place that is neither the log's nor of a launched job's files, nor that of
a folder for a domain. -/
theorem item?_eq (h : Framed b w place base ds p) {r : Place} (hr : r ≠ place)
    (hj : ∀ j, .launched j ∈ ds → ¬ b.layout.JobFile j r)
    (hd : ∀ d, .began d ∈ ds → r ∉ b.layout.folders d) :
    p.scene.files.item? r = w.item? r := by
  rcases h.elsewhere r hr hj with heq | ⟨hnone, hfolder⟩
  · exact heq
  · rcases h.made r hfolder with hold | ⟨d, hbegan, hmem⟩
    · rw [hnone] at hold
      cases hold
    · exact absurd hmem (hd d hbegan)

end Framed

/-- The folders for a job are there when its task takes a step. -/
theorem Framed.prepared_of_running {w : Workspace} {a : Active} {n : Nat} {j : Job} {stage : Stage}
    (h : Framed b w place base ds p) (ho : Orderly b plan ds p) (hf : p.failure = none)
    (hbegan : .began a.domain ∈ ds) (ha : p.active = some a)
    (hr : a.running[n]? = some (j, stage)) :
    ∀ q ∈ b.layout.folders j.domain, p.scene.files.item? q = some .folder := by
  have hmem := (ho.account a ha).mem_jobsOf_of_running (List.mem_of_getElem? hr)
  rw [(mem_jobsOf.mp hmem).1]
  exact h.prepared hf _ hbegan

/-- What a step of a task of the run can touch. -/
theorem reach_of_task {w : Workspace} {scene : Scene σ} {a : Active} {n : Nat} {j : Job}
    {stage next : Stage} (ho : Orderly b plan ds p) (h : Framed b w place base ds p)
    (hf : p.failure = none) (hbegan : .began a.domain ∈ ds) (ha : p.active = some a)
    (hr : a.running[n]? = some (j, stage))
    (hstep : b.TaskMove p.scene j stage es next scene) :
    b.Reach place j es p.scene scene :=
  hstep.reach h.sound h.confined (h.prepared_of_running ho hf hbegan ha hr)

theorem framed_of_follows {s : Scene σ} (hw : s.files.Sound)
    (hk : s.log.Keeps s.files place base)
    (h : Follows b plan done (start plan s) ds p) :
    Framed b s.files place base ds p := by
  refine h.induct (motive := fun ds p => Framed b s.files place base ds p)
    (Framed.start hw hk) ?_
  intro ds es p q hfol hf hm ih
  have ho := orderly_of_follows hfol
  -- domains add folders, tasks write files, and all other steps touch nothing
  cases hm with
  | begins ha hp hs hprep => exact ih.begins hf hprep rfl fun _ => rfl
  | stumbles ha hp hs hprep => exact ih.begins hf hprep rfl fun hfq => by simp at hfq
  | launches ha hq hr =>
    exact ih.idle rfl rfl (by simp [completions, logged?]) (by simp) fun _ => hf
  | @advances a n j stage next scene' es ha hr hstep =>
    exact ih.advances hf (launched_of_running ho ha hr) hstep
      (reach_of_task ho ih hf (began_of_active hfol hf ha) ha hr hstep)
  | collects ha hr =>
    exact ih.idle rfl rfl (by simp [completions, logged?]) (by simp) fun _ => hf
  | breaks ha hr =>
    exact ih.idle rfl rfl rfl (by simp) fun _ => hf
  | closes ha hq hr =>
    exact ih.idle rfl rfl rfl (by simp) fun _ => hf

end Progress

end Signoff
