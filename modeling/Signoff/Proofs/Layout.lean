import Signoff.Artifacts
import Signoff.Proofs.Text.Digits
import Signoff.Proofs.Workspace.Saving

/-!
# Where the files of a run lie

The saved output and the record of a job have places of their own: jobs with different keys share
none (`recordPath_injective`, `rawPath_injective`), neither kind meets the other, the log or the
reports, and all lie right in the folders of their domain (`files_apart`).  Once a domain is
prepared, saving a record touches the record's place alone (`Record.save_eq_ok`).
-/

namespace Signoff

open Place Workspace Text

/-! ## Names of files -/

namespace Job

theorem toList_stem (j : Job) : j.stem.toList =
    Time.padded 5 j.unit.index.toNat ++ '_' :: safeName j.unit.name := by
  unfold stem
  rw [String.toList_ofList]

theorem slash_not_mem_stem (j : Job) : '/' ∉ j.stem.toList := by
  rw [toList_stem, List.mem_append, List.mem_cons]
  rintro (h | h | h)
  · exact absurd (Time.isDigit_of_mem_padded h) (by decide)
  · revert h; decide
  · unfold safeName at h
    obtain ⟨c, -, hc⟩ := List.mem_map.mp h
    split at hc
    -- a slash is no safe character, so the name has an underscore in its place
    next hsafe =>
      subst hc
      exact absurd hsafe (by decide)
    next => revert hc; decide

/-- The place in the catalog can be read off the stem, up to the first underscore. -/
theorem index_of_stem {j k : Job} (h : j.stem = k.stem) : j.unit.index = k.unit.index := by
  have hlist : j.stem.toList = k.stem.toList := by rw [h]
  rw [toList_stem, toList_stem] at hlist
  -- the index is written in digits, so the first underscore is the one behind it
  have hfront : ∀ (n : Nat) (rest : List Char),
      (Time.padded 5 n ++ '_' :: rest).takeWhile (· != '_') = Time.padded 5 n := by
    intro n rest
    rw [List.takeWhile_append_of_pos]
    · simp
    · intro c hc
      rw [bne_iff_ne]
      rintro rfl
      exact absurd (Time.isDigit_of_mem_padded hc) (by decide)
  have htake := congrArg (List.takeWhile (· != '_')) hlist
  rw [hfront, hfront] at htake
  exact UInt64.toNat_inj.mp (Time.padded_injective htake)

theorem isProper_stem (j : Job) {ending : String} (hslash : '/' ∉ ending.toList)
    (hlen : 2 < ending.toList.length) : IsProper (j.stem ++ ending) := by
  apply isProper_of_length
  · rw [String.toList_append, List.mem_append, not_or]
    exact ⟨j.slash_not_mem_stem, hslash⟩
  · rw [String.toList_append, List.length_append]
    omega

end Job

theorem Domain.isProper_slug (d : Domain) : IsProper d.slug := by
  cases d <;> exact ⟨by decide, by decide, by decide⟩

/-! ## Places of files -/

/-- A path leads to something right in a folder, by a name that does not lead out of it. -/
structure Path.IsRightIn (p folder : Path) : Prop where
  named : ∃ name, IsProper name ∧ p = folder.child name ∧ p.place = folder.place ++ [name]
  parent : ∃ q, p.parent? = some q ∧ q.place = folder.place

theorem Path.isRightIn_child {name : String} (h : IsProper name) (folder : Path) :
    (folder.child name).IsRightIn folder := by
  obtain ⟨q, hq, hsteps, hstart⟩ := Path.parent?_child h folder
  refine ⟨⟨name, h, rfl, Path.place_child h folder⟩, q, hq, ?_⟩
  unfold Path.place
  rw [hsteps, hstart]

namespace Layout

variable (l : Layout) (d : Domain) (j k : Job)

theorem isProper_raw : IsProper "raw" := ⟨by decide, by decide, by decide⟩

theorem isProper_results : IsProper "results" := ⟨by decide, by decide, by decide⟩

theorem place_rawFolder : (l.rawFolder d).place = l.root.place ++ ["raw", d.slug] := by
  unfold rawFolder
  rw [Path.place_child d.isProper_slug, Path.place_child isProper_raw]
  simp

theorem place_resultFolder : (l.resultFolder d).place = l.root.place ++ ["results", d.slug] := by
  unfold resultFolder
  rw [Path.place_child d.isProper_slug, Path.place_child isProper_results]
  simp

theorem place_rawPath : (l.rawPath j).place =
    l.root.place ++ ["raw", j.domain.slug, j.stem ++ ".log"] := by
  unfold rawPath
  rw [Path.place_child (j.isProper_stem (by decide) (by decide)), place_rawFolder]
  simp

theorem place_recordPath : (l.recordPath j).place =
    l.root.place ++ ["results", j.domain.slug, j.stem ++ ".result"] := by
  unfold recordPath
  rw [Path.place_child (j.isProper_stem (by decide) (by decide)), place_resultFolder]
  simp

theorem place_logPath : l.logPath.place = l.root.place ++ ["state.log"] :=
  Path.place_child ⟨by decide, by decide, by decide⟩ _

theorem place_reportPath : l.reportPath.place = l.root.place ++ ["report.json"] :=
  Path.place_child ⟨by decide, by decide, by decide⟩ _

theorem place_summaryPath : l.summaryPath.place = l.root.place ++ ["report.md"] :=
  Path.place_child ⟨by decide, by decide, by decide⟩ _

variable {l d j k}

theorem key_of_stem (hd : j.domain.slug = k.domain.slug) (hs : j.stem = k.stem) :
    j.key = k.key := by
  unfold Job.key
  rw [Domain.slug_injective hd, Job.index_of_stem hs]

theorem append_string_cancel {s t u : String} (h : s ++ u = t ++ u) : s = t := by
  have hlist := congrArg String.toList h
  rw [String.toList_append, String.toList_append, List.append_cancel_right_eq] at hlist
  exact String.toList_inj.mp hlist

/-- Two jobs with one place for their saved output have one key. -/
theorem rawPath_injective (h : (l.rawPath j).place = (l.rawPath k).place) : j.key = k.key := by
  rw [place_rawPath, place_rawPath, List.append_cancel_left_eq] at h
  simp only [List.cons.injEq, and_true, true_and] at h
  exact key_of_stem h.1 (append_string_cancel h.2)

/-- Two jobs with one place for their records have one key. -/
theorem recordPath_injective (h : (l.recordPath j).place = (l.recordPath k).place) :
    j.key = k.key := by
  rw [place_recordPath, place_recordPath, List.append_cancel_left_eq] at h
  simp only [List.cons.injEq, and_true, true_and] at h
  exact key_of_stem h.1 (append_string_cancel h.2)

theorem rawPath_ne_recordPath : (l.rawPath j).place ≠ (l.recordPath k).place := by
  rw [place_rawPath, place_recordPath]
  intro h
  rw [List.append_cancel_left_eq] at h
  simp at h

/-- The places of the files that a job writes. -/
def JobFile (l : Layout) (j : Job) (q : Place) : Prop :=
  q = (l.rawPath j).place ∨ q = (l.recordPath j).place

theorem key_of_jobFile {q : Place} (hj : l.JobFile j q) (hk : l.JobFile k q) : j.key = k.key := by
  rcases hj with hj | hj <;> rcases hk with hk | hk
  · exact rawPath_injective (hj.symm.trans hk)
  · exact absurd (hj.symm.trans hk) rawPath_ne_recordPath
  · exact absurd (hk.symm.trans hj) rawPath_ne_recordPath
  · exact recordPath_injective (hj.symm.trans hk)

/-- No job writes a file right below the root. -/
theorem not_jobFile_below_root (name : String) : ¬ l.JobFile j (l.root.place ++ [name]) := by
  rintro (h | h)
  · rw [place_rawPath, List.append_cancel_left_eq] at h
    simp at h
  · rw [place_recordPath, List.append_cancel_left_eq] at h
    simp at h

/-! ## Files that do not meet -/

/-- The paths of the files that a job writes. -/
def jobPaths (l : Layout) (j : Job) : List Path := [l.rawPath j, l.recordPath j]

/-- The paths of the files that a run writes apart from its jobs. -/
def runPaths (l : Layout) : List Path := [l.logPath, l.reportPath, l.summaryPath]

/-- Files of jobs with different keys, the log and the reports all have places of their own, and so
different paths, whatever the names of the units and the root are. The files of a job lie right in
the folders of its domain, and these two levels below the root. -/
theorem files_apart (l : Layout) {j k : Job} (h : j.key ≠ k.key) :
    (l.jobPaths j ++ l.jobPaths k ++ l.runPaths).Nodup ∧
      ((l.jobPaths j ++ l.jobPaths k ++ l.runPaths).map Path.place).Nodup ∧
      ∀ i : Job, (l.rawPath i).IsRightIn (l.rawFolder i.domain) ∧
        (l.rawFolder i.domain).place = l.root.place ++ ["raw", i.domain.slug] ∧
        (l.recordPath i).IsRightIn (l.resultFolder i.domain) ∧
        (l.resultFolder i.domain).place = l.root.place ++ ["results", i.domain.slug] := by
  have hraw : (l.rawPath j).place ≠ (l.rawPath k).place := fun heq => h (rawPath_injective heq)
  have hplaces : ((l.jobPaths j ++ l.jobPaths k ++ l.runPaths).map Path.place).Nodup := by
    rw [place_rawPath, place_rawPath, ne_eq, List.append_cancel_left_eq] at hraw
    -- the tree and the depth tell all of them apart but two files of one kind
    simpa [jobPaths, runPaths, place_rawPath, place_recordPath, place_logPath, place_reportPath,
      place_summaryPath] using hraw
  refine ⟨hplaces.of_map _, hplaces, fun i => ?_⟩
  exact ⟨Path.isRightIn_child (i.isProper_stem (by decide) (by decide)) _, l.place_rawFolder _,
    Path.isRightIn_child (i.isProper_stem (by decide) (by decide)) _, l.place_resultFolder _⟩

/-- The digits of one place in the catalog go on with the name of the other unit. -/
theorem files_apart_long_index :
    let l : Layout := ⟨⟨"a/../out/"⟩⟩
    let j : Job := ⟨.timing, ⟨12345, "6/../|x", "c", ⟨"w"⟩, none, [], "", ""⟩⟩
    let k : Job := ⟨.timing, ⟨123456, "", "c", ⟨"w"⟩, none, [], "", ""⟩⟩
    j.key ≠ k.key ∧ (l.jobPaths j ++ l.jobPaths k ++ l.runPaths).Nodup ∧
      (l.rawPath j).IsRightIn (l.rawFolder .timing) ∧
      (l.rawPath j).place = ["out", "raw", "timing", "12345_6_..__x.log"] ∧
      (l.recordPath k).place = ["out", "results", "timing", "123456_.result"] := by
  intro l j k
  have hkey : j.key ≠ k.key := by decide
  obtain ⟨hpaths, -, hright⟩ := files_apart l hkey
  exact ⟨hkey, hpaths, (hright j).1, by decide +kernel, by decide +kernel⟩

/-! ## The folders of a domain -/

/-- The places of the folders that a domain needs. -/
def folders (l : Layout) (d : Domain) : List Place :=
  (l.rawFolder d).trail ++ (l.resultFolder d).trail

/-- The folders lie on the way to the root, or are two levels of two trees below it. -/
theorem mem_folders {q : Place} : q ∈ l.folders d ↔ q ∈ l.root.trail ∨
    ∃ tree, (tree = "raw" ∨ tree = "results") ∧
      (q = l.root.place ++ [tree] ∨ q = l.root.place ++ [tree, d.slug]) := by
  unfold folders rawFolder resultFolder
  rw [List.mem_append, Path.mem_trail_child d.isProper_slug, Path.mem_trail_child isProper_raw,
    Path.mem_trail_child d.isProper_slug, Path.mem_trail_child isProper_results,
    Path.place_child isProper_raw, Path.place_child isProper_results]
  constructor
  · rintro (((h | h) | h) | ((h | h) | h))
    · exact Or.inl h
    · exact Or.inr ⟨"raw", Or.inl rfl, Or.inl h⟩
    · exact Or.inr ⟨"raw", Or.inl rfl, Or.inr (by simpa using h)⟩
    · exact Or.inl h
    · exact Or.inr ⟨"results", Or.inr rfl, Or.inl h⟩
    · exact Or.inr ⟨"results", Or.inr rfl, Or.inr (by simpa using h)⟩
  · rintro (h | ⟨tree, rfl | rfl, h | h⟩)
    · exact Or.inl (Or.inl (Or.inl h))
    · exact Or.inl (Or.inl (Or.inr h))
    · exact Or.inl (Or.inr (by simpa using h))
    · exact Or.inr (Or.inl (Or.inr h))
    · exact Or.inr (Or.inr (by simpa using h))

/-- A name right below the root is that of a tree, if it is that of a folder for a domain. -/
theorem mem_folders_below_root {name : String} (hroot : l.root.place ++ [name] ∉ l.root.trail)
    (h : l.root.place ++ [name] ∈ l.folders d) : name = "raw" ∨ name = "results" := by
  rcases mem_folders.mp h with h | ⟨tree, htree, h | h⟩
  · exact absurd h hroot
  · rw [List.append_cancel_left_eq, List.singleton_inj] at h
    rw [h]
    exact htree
  · rw [List.append_cancel_left_eq] at h
    simp at h

variable {w w' : Workspace}

theorem prepare_widens {result : Except Error Unit} (h : l.prepare w d = (result, w')) :
    Widens (l.folders d) w w' := by
  have hraw : ∀ q ∈ (l.rawFolder d).trail, q ∈ l.folders d := fun q hq =>
    List.mem_append_left _ hq
  have hres : ∀ q ∈ (l.resultFolder d).trail, q ∈ l.folders d := fun q hq =>
    List.mem_append_right _ hq
  unfold prepare at h
  split at h
  next fault left hleft =>
    rw [Prod.mk.injEq] at h
    rw [← h.2]
    exact (makeFolders_widens hleft).mono hraw
  next left hleft =>
    -- the raw folders stay even if the result folders cannot be made
    have hwide := (makeFolders_widens hleft).mono hraw
    split at h
    all_goals
      next hmore =>
        rw [Prod.mk.injEq] at h
        rw [← h.2]
        exact hwide.trans ((makeFolders_widens hmore).mono hres)

theorem prepare_folders (h : l.prepare w d = (.ok (), w')) :
    ∀ q ∈ l.folders d, w'.item? q = some .folder := by
  unfold prepare at h
  split at h
  · simp at h
  next left hleft =>
    split at h
    · simp at h
    next more hmore =>
      rw [Prod.mk.injEq] at h
      rw [← h.2]
      intro q hq
      rcases List.mem_append.mp hq with hq | hq
      · exact (makeFolders_widens hmore).keeps q _ (makeFolders_trail hleft q hq)
      · exact makeFolders_trail hmore q hq

/-! ## Reading a record -/

/-- The folders that the path of the root leaves again are there. -/
def RootStands (l : Layout) (w : Workspace) : Prop :=
  ∀ q ∈ l.root.trail, q <+: l.root.place ∨ w.item? q = some .folder

/-- The folders below the root are in front of the record. -/
theorem standsIn_recordPath (hroot : l.RootStands w) (j : Job) : w.StandsIn (l.recordPath j) := by
  intro q hq
  have hplace := l.place_recordPath j
  unfold recordPath resultFolder at hq
  rw [Path.mem_trail_child (j.isProper_stem (by decide) (by decide)),
    Path.mem_trail_child j.domain.isProper_slug, Path.mem_trail_child isProper_results] at hq
  rcases hq with ((hq | hq) | hq) | hq
  · refine (hroot q hq).imp_left fun hpre => ?_
    rw [hplace]
    exact hpre.trans (List.prefix_append _ _)
  · left
    rw [hplace, hq]
    exact ⟨[j.domain.slug, j.stem ++ ".result"], by simp⟩
  · left
    rw [hplace, hq, Path.place_child isProper_results]
    exact ⟨[j.stem ++ ".result"], by simp⟩
  · left
    rw [hplace, hq, Path.place_child j.domain.isProper_slug, Path.place_child isProper_results]
    simp

/-- A record that can be reached in one workspace can be reached in another one that has a file in
its place. -/
theorem leads_recordPath {v : Workspace} (hroot : l.RootStands w) (htree : w.IsTree)
    (hw : w.contentAt (l.recordPath j).place ≠ none)
    (hv : v.contentAt (l.recordPath j).place ≠ none) (h : v.Leads (l.recordPath j)) :
    w.Leads (l.recordPath j) :=
  h.of_file htree (standsIn_recordPath hroot j) hw hv

end Layout

/-! ## Saving a record -/

namespace Record

variable {l : Layout} {j : Job} {w w' : Workspace} {refusals : Refusals} {r : JobResult}

/-- The folder of a record is the result folder of its domain. -/
theorem parent?_recordPath (l : Layout) (j : Job) :
    ∃ folder, (l.recordPath j).parent? = some folder ∧
      folder.trail = (l.resultFolder j.domain).trail := by
  obtain ⟨folder, hparent, hsteps, hstart⟩ := Path.parent?_child
    (@Job.isProper_stem j ".result" (by decide) (by decide)) (l.resultFolder j.domain)
  refine ⟨folder, hparent, ?_⟩
  unfold Path.trail
  rw [hsteps, hstart]

theorem save_eq_ok (hw : w.Sound) (hp : ∀ q ∈ l.folders j.domain, w.item? q = some .folder)
    (h : save w refusals (l.recordPath j) r = (.ok (), w')) :
    w'.Leads (l.recordPath j) ∧
      Stores (l.recordPath j).place (lineOf r).toUTF8 w w' := by
  obtain ⟨folder, hparent, htrail⟩ := parent?_recordPath l j
  unfold save at h
  rw [hparent] at h
  -- the record's folder is one of the domain's, so saving makes none
  refine Workspace.save_eq_ok hw (fun q hq => hp q ?_) h
  exact List.mem_append_right _ (htrail ▸ hq)

theorem save_eq_error {error : Error} (hw : w.Sound)
    (hp : ∀ q ∈ l.folders j.domain, w.item? q = some .folder)
    (h : save w refusals (l.recordPath j) r = (.error error, w')) : Alike w w' := by
  obtain ⟨folder, hparent, htrail⟩ := parent?_recordPath l j
  unfold save at h
  rw [hparent] at h
  refine Workspace.save_eq_error hw (fun q hq => hp q ?_) h
  exact List.mem_append_right _ (htrail ▸ hq)

end Record

end Signoff
