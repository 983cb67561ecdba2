import Signoff.Proofs.Workspace.Parents

/-!
# Making folders

Making a chain of folders adds folders where nothing was, on the trail of the path, and changes
nothing else, even when it fails half-way (`makeFolders_widens`).  Once it succeeds the whole trail
is there (`makeFolders_trail`).
-/

namespace Signoff.Workspace

/-- The second workspace has folders at some of the places where the first one has nothing, and is
like the first one for the rest. -/
structure Widens (places : List Place) (w w' : Workspace) : Prop where
  keeps : ∀ q item, w.item? q = some item → w'.item? q = some item
  adds : ∀ q, w.item? q = none → w'.item? q = none ∨ w'.item? q = some .folder ∧ q ∈ places
  number : w'.nextNumber = w.nextNumber

namespace Widens

variable {places more : List Place} {w w' w'' : Workspace}

theorem refl (w : Workspace) : Widens places w w :=
  ⟨fun _ _ h => h, fun _ h => Or.inl h, rfl⟩

theorem mono (h : Widens places w w') (hsub : ∀ q ∈ places, q ∈ more) : Widens more w w' :=
  ⟨h.keeps, fun q hq => (h.adds q hq).imp_right fun ⟨hf, hp⟩ => ⟨hf, hsub q hp⟩, h.number⟩

theorem trans (h : Widens places w w') (h' : Widens places w' w'') : Widens places w w'' where
  keeps q item hq := h'.keeps q item (h.keeps q item hq)
  adds q hq := by
    rcases h.adds q hq with hnone | ⟨hf, hp⟩
    · exact h'.adds q hnone
    · exact Or.inr ⟨h'.keeps q _ hf, hp⟩
  number := h'.number.trans h.number

/-- Where the folders are there already, nothing is added. -/
theorem item?_eq (h : Widens places w w') (hp : ∀ q ∈ places, w.item? q = some .folder)
    (q : Place) : w'.item? q = w.item? q := by
  cases hq : w.item? q with
  | some item => exact h.keeps q item hq
  | none =>
    rcases h.adds q hq with hnone | ⟨-, hmem⟩
    · exact hnone
    · simp [hp q hmem] at hq

/-- Away from the folders nothing is added. -/
theorem item?_eq_of_not_mem (h : Widens places w w') {q : Place} (hq : q ∉ places) :
    w'.item? q = w.item? q := by
  cases hw : w.item? q with
  | some item => exact h.keeps q item hw
  | none => exact (h.adds q hw).resolve_right fun hadd => hq hadd.2

/-- Files stay what they are. -/
theorem file_iff (h : Widens places w w') {q : Place} {n : Nat} {c : ByteArray} :
    w'.item? q = some (.file n c) ↔ w.item? q = some (.file n c) := by
  refine ⟨fun hq => ?_, h.keeps q _⟩
  cases hw : w.item? q with
  | some item => rw [← hq, h.keeps q item hw]
  | none =>
    rcases h.adds q hw with hnone | ⟨hf, -⟩
    · simp [hnone] at hq
    · simp [hf] at hq

theorem folder_iff (h : Widens places w w') (hp : ∀ q ∈ places, w'.item? q = some .folder)
    {q : Place} :
    w'.item? q = some .folder ↔ w.item? q = some .folder ∨ q ∈ places := by
  constructor
  · intro hq
    cases hw : w.item? q with
    | some item => exact Or.inl (by rw [← hq, h.keeps q item hw])
    | none =>
      rcases h.adds q hw with hnone | ⟨-, hmem⟩
      · simp [hnone] at hq
      · exact Or.inr hmem
  · rintro (hq | hq)
    · exact h.keeps q _ hq
    · exact hp q hq

end Widens

variable {w w' : Workspace}

theorem item?_of_isStart {p : Place} (h : p.isStart = true) (w : Workspace) :
    w.item? p = some .folder := by
  rw [item?, if_pos h]

theorem trail_withoutSlashes (p : Path) : (withoutSlashes p).trail = p.trail := by
  unfold Path.trail
  rw [steps_withoutSlashes, startOf_withoutSlashes]

/-- A folder is made in a folder, where nothing was. -/
theorem makeFolder_eq_ok {p : Path} (h : w.makeFolder p = .ok w') :
    Widens [p.place] w w' ∧ ∀ q ∈ p.trail, w'.item? q = some .folder := by
  unfold makeFolder at h
  cases hr : w.resolve (withoutSlashes p) with
  | error fault => simp [hr] at h
  | ok q =>
    obtain ⟨rfl, hleads⟩ := resolve_eq_ok_iff.mp hr
    rw [hr] at h
    dsimp only at h
    rw [place_withoutSlashes] at h
    cases hi : w.item? p.place with
    | some item => simp [hi] at h
    | none =>
      simp only [hi, Option.isSome_none, Bool.false_eq_true, if_false, Except.ok.injEq] at h
      subst h
      have hstart : p.place.isStart = false := by
        cases hs : p.place.isStart with
        | false => rfl
        | true => simp [item?_of_isStart hs] at hi
      -- only the new place differs, and nothing was there
      have hwide : Widens [p.place] w (w.put p.place .folder) := by
        refine ⟨fun q item hq => ?_, fun q hq => ?_, rfl⟩
        · rw [item?_put hstart, if_neg (by rintro rfl; simp [hi] at hq)]
          exact hq
        · rw [item?_put hstart]
          by_cases hpq : p.place = q
          · exact Or.inr ⟨by rw [if_pos hpq], by simp [hpq]⟩
          · exact Or.inl (by rw [if_neg hpq]; exact hq)
      refine ⟨hwide, ?_⟩
      rw [← trail_withoutSlashes]
      -- what is in front of it led there before and still does
      refine (hleads.mono fun q hq => hwide.keeps q _ hq).trail ?_
      rw [place_withoutSlashes, item?_put hstart, if_pos rfl]

theorem makeFrom_widens {paths : List Path} {result : Except Fault Unit}
    (h : w.makeFrom paths = (result, w')) : Widens (paths.map Path.place) w w' := by
  induction paths generalizing w w' result with
  | nil =>
    rw [makeFrom, Prod.mk.injEq] at h
    rw [← h.2]
    exact .refl w
  | cons path around ih =>
    -- either the folder itself is made, or those around it first and then the folder
    have hhead : ∀ {v v' : Workspace}, v.makeFolder path = .ok v' →
        Widens ((path :: around).map Path.place) v v' := fun hv =>
      (makeFolder_eq_ok hv).1.mono fun q hq => by simp_all
    unfold makeFrom at h
    split at h
    next made hmade =>
      rw [Prod.mk.injEq] at h
      rw [← h.2]
      exact hhead hmade
    next hmissing =>
      have htail : ∀ {left : Workspace} {r : Except Fault Unit},
          w.makeFrom around = (r, left) → Widens ((path :: around).map Path.place) w left :=
        fun hl => (ih hl).mono fun q hq => List.mem_cons_of_mem _ hq
      split at h
      next fault left hleft =>
        rw [Prod.mk.injEq] at h
        rw [← h.2]
        exact htail hleft
      next left hleft =>
        -- a second attempt that fails is forgiven or not, but it adds nothing
        split at h
        next made hmade =>
          rw [Prod.mk.injEq] at h
          rw [← h.2]
          exact (htail hleft).trans (hhead hmade)
        next fault hfault =>
          have hleft' := htail hleft
          split at h
          all_goals
            rw [Prod.mk.injEq] at h
            rw [← h.2]
            exact hleft'
    next fault hne hfault =>
      split at h
      all_goals
        rw [Prod.mk.injEq] at h
        rw [← h.2]
        exact .refl w

theorem makeFrom_trail {path : Path} {around : List Path}
    (h : w.makeFrom (path :: around) = (.ok (), w')) :
    ∀ q ∈ path.trail, w'.item? q = some .folder := by
  -- success means that the folder was made or that somebody else had made it
  have hfolder : ∀ {v : Workspace}, v.isFolder path = true →
      ∀ q ∈ path.trail, v.item? q = some .folder := fun hv =>
    (isFolder_iff.mp hv).1.trail (isFolder_iff.mp hv).2
  unfold makeFrom at h
  split at h
  next made hmade =>
    rw [Prod.mk.injEq] at h
    rw [← h.2]
    exact (makeFolder_eq_ok hmade).2
  next hmissing =>
    split at h
    · simp at h
    next left hleft =>
      split at h
      next made hmade =>
        rw [Prod.mk.injEq] at h
        rw [← h.2]
        exact (makeFolder_eq_ok hmade).2
      next fault hfault =>
        split at h
        next hv =>
          rw [Prod.mk.injEq] at h
          rw [← h.2]
          exact hfolder hv
        · simp at h
  next fault hne hfault =>
    split at h
    next hv =>
      rw [Prod.mk.injEq] at h
      rw [← h.2]
      exact hfolder hv
    · simp at h

theorem makeFolders_widens {path : Path} {result : Except Fault Unit}
    (h : w.makeFolders path = (result, w')) : Widens path.trail w w' := by
  unfold makeFolders at h
  split at h
  · rw [Prod.mk.injEq] at h
    rw [← h.2]
    exact .refl w
  · refine (makeFrom_widens h).mono fun q hq => ?_
    obtain ⟨p, hp, rfl⟩ := List.mem_map.mp hq
    exact Path.mem_trail_of_mem_withParents hp

theorem makeFolders_trail {path : Path} (h : w.makeFolders path = (.ok (), w')) :
    ∀ q ∈ path.trail, w'.item? q = some .folder := by
  unfold makeFolders at h
  split at h
  next hempty =>
    intro q hq
    have htext : path.text = "" := String.isEmpty_iff.mp hempty
    -- the empty path stands for the folder that the run is in
    have htrail : path.trail = [[]] := by
      obtain ⟨text⟩ := path
      dsimp only at htext
      subst htext
      decide
    rw [htrail, List.mem_singleton] at hq
    rw [hq]
    exact item?_of_isStart rfl _
  next => exact makeFrom_trail h

end Signoff.Workspace
