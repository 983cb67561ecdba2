import Mathlib.Data.List.Perm.Subperm
import Signoff.Proofs.Text.Digits
import Signoff.Proofs.Workspace.Files

/-!
# Saving in one piece

A draft has a place of its own (`item?_draftPlace`), so saving a file puts the whole content at its
place (`exists_stores_of_save`) or changes no file at all (`exists_alike_of_save`), whichever step is
refused and however much of the draft was written. The folders around the file are all that it may
leave behind; where they are there before, it leaves nothing (`save_eq_ok`, `save_eq_error`).
-/

namespace Signoff.Workspace

variable {w w' : Workspace} {refusals : Refusals}

/-! ## The place of a draft -/

theorem toList_draftName (n : Nat) : (draftName n).toList = ".tmp".toList ++ Nat.toDigits 10 n := by
  unfold draftName
  simp only [toString, String.toList_append, Nat.toList_repr]

theorem draftName_injective {m n : Nat} (h : draftName m = draftName n) : m = n := by
  have hlist := congrArg String.toList h
  rw [toList_draftName, toList_draftName, List.append_cancel_left_eq] at hlist
  -- the digits behind the fixed start determine the number
  have hdigits : Text.digitsOf m = Text.digitsOf n := hlist
  rw [← Text.ofDigits_digitsOf m, hdigits, Text.ofDigits_digitsOf]

theorem isProper_draftName (n : Nat) : Place.IsProper (draftName n) := by
  apply Place.isProper_of_length
  · rw [toList_draftName, List.mem_append]
    rintro (h | h)
    · revert h; decide
    · exact absurd (Nat.isDigit_of_mem_toDigits (by omega) (by omega) h) (by decide)
  · rw [toList_draftName, List.length_append]
    exact Nat.lt_add_right _ (by decide)

theorem item?_eq_none_of_not_mem {p : Place} (hp : p.isStart = false)
    (h : p ∉ w.items.map (·.1)) : w.item? p = none := by
  unfold item?
  rw [if_neg (by simp [hp]), List.find?_eq_none.mpr]
  · rfl
  · intro e he
    simp only [beq_iff_eq]
    rintro rfl
    exact h (List.mem_map_of_mem he)

/-- Of more names than there are items, one is free. -/
theorem exists_free (w : Workspace) (folder : Place) :
    ∃ n ∈ List.range (w.items.length + 1), w.item? (folder ++ [draftName n]) = none := by
  by_contra hall
  push Not at hall
  -- otherwise all these names are taken, and there are more of them than items
  have hsub : (List.range (w.items.length + 1)).map (fun n => folder ++ [draftName n]) ⊆
      w.items.map (·.1) := by
    intro p hp
    obtain ⟨n, hn, rfl⟩ := List.mem_map.mp hp
    by_contra hmem
    exact hall n hn (item?_eq_none_of_not_mem (Place.isStart_append (isProper_draftName n) _) hmem)
  have hnodup : ((List.range (w.items.length + 1)).map
      fun n => folder ++ [draftName n]).Nodup := by
    refine List.nodup_range.map fun m n hmn => draftName_injective ?_
    simpa using hmn
  have hlen := (hnodup.subperm hsub).length_le
  simp at hlen

theorem item?_draftPlace (w : Workspace) (folder : Place) :
    w.item? (w.draftPlace folder) = none ∧ (w.draftPlace folder).isStart = false := by
  unfold draftPlace
  dsimp only
  refine ⟨?_, Place.isStart_append (isProper_draftName _) _⟩
  -- the search goes through one more name than there are items
  cases hfind : (List.range (w.items.length + 1)).find? fun n =>
      (w.item? (folder ++ [draftName n])).isNone with
  | some n => simpa using List.find?_some hfind
  | none =>
    obtain ⟨n, hn, hfree⟩ := w.exists_free folder
    have := List.find?_eq_none.mp hfind n hn
    simp [hfree] at this

/-! ## The steps of saving -/

/-- A file that is moved leaves its place and takes the other one. -/
theorem move_eq_ok {p : Place} {path : Path} {n : Nat} {content : ByteArray}
    (hp : p.isStart = false) (hi : w.item? p = some (.file n content))
    (h : w.move p path = .ok w') :
    w.Leads path ∧ w.item? path.place ≠ some .folder ∧ w'.nextNumber = w.nextNumber ∧
      ∀ q, w'.item? q = if path.place = q then some (.file n content)
        else if p = q then none else w.item? q := by
  unfold move at h
  cases hm : w.movable path with
  | error fault => simp [hm] at h
  | ok q =>
    obtain ⟨rfl, hleads⟩ := leads_of_movable hm
    rw [hm] at h
    dsimp only at h
    rw [hi] at h
    have hopen : w.item? path.place ≠ some .folder := by
      intro hf
      simp [hf] at h
    refine ⟨hleads, hopen, ?_⟩
    have hstart := isStart_of_item? hopen
    -- a file that was in the way is replaced as if nothing had been there
    have hw : w' = (w.erase p).put path.place (.file n content) := by
      cases hq : w.item? path.place with
      | none => simpa [hq] using h.symm
      | some item =>
        cases item with
        | folder => exact absurd hq hopen
        | file m d => simpa [hq] using h.symm
    subst hw
    refine ⟨rfl, fun q => ?_⟩
    rw [item?_put hstart, item?_erase p q hp]

/-- The items of a draft that was begun, filled and taken away are those from before. -/
theorem item?_draft_erased {p : Place} (hfree : w.item? p = none) (hp : p.isStart = false)
    (v : Workspace) (hv : ∀ q, q ≠ p → v.item? q = w.item? q) (q : Place) :
    (v.erase p).item? q = w.item? q := by
  rw [item?_erase p q hp]
  split
  next hpq => rw [← hpq, hfree]
  next hpq => exact hv q (Ne.symm hpq)

/-- A draft that was begun and filled. -/
theorem item?_filled (hw : w.Sound) {p : Place} (hp : p.isStart = false) (content : ByteArray)
    (q : Place) :
    ((w.create p ByteArray.empty).writeInto w.nextNumber none content).item? q =
      if p = q then some (.file w.nextNumber content) else w.item? q := by
  by_cases hpq : p = q
  · subst hpq
    have hfull : overwrite ByteArray.empty 0 content = content := by
      have hend := overwrite_end ByteArray.empty content
      rw [ByteArray.size_empty, ByteArray.empty_append] at hend
      exact hend
    rw [item?_writeInto, item?_create hp, if_pos rfl, if_pos rfl]
    simp [writtenItem, hfull]
  -- in a sound workspace the number of the draft is not in use anywhere else
  · rw [item?_writeInto_of_ne, item?_create hp, if_neg hpq, if_neg hpq]
    intro c hc
    rw [item?_create hp, if_neg hpq] at hc
    exact absurd (hw.numbered q _ c hc) (Nat.lt_irrefl _)

/-- However far a draft is filled, it is the only place that is not as before. -/
theorem exists_filled (hw : w.Sound) {p : Place} (hp : p.isStart = false) {content : ByteArray}
    {result : Except Fault Unit}
    (h : (w.create p ByteArray.empty).fill refusals w.nextNumber content = (result, w')) :
    ∃ bytes, (result = .ok () → bytes = content) ∧ w'.nextNumber = w.nextNumber + 1 ∧
      ∀ q, w'.item? q = if p = q then some (.file w.nextNumber bytes) else w.item? q := by
  unfold fill at h
  split at h
  next fault written _ =>
    obtain ⟨rfl, rfl⟩ := Prod.mk.inj h
    exact ⟨content.extract 0 written, nofun, rfl, item?_filled hw hp _⟩
  next =>
    obtain ⟨-, rfl⟩ := Prod.mk.inj h
    exact ⟨content, fun _ => rfl, rfl, item?_filled hw hp _⟩

theorem saveIn_eq_ok {folder : Place} {path : Path} {content : ByteArray} (hw : w.Sound)
    (h : w.saveIn refusals folder path content = (.ok (), w')) :
    (∀ q, w.item? q = some .folder → w'.item? q = some .folder) ∧ w'.Leads path ∧
      Stores path.place content w w' := by
  obtain ⟨hfree, hstart⟩ := w.item?_draftPlace folder
  unfold saveIn at h
  split at h
  · simp at h
  dsimp only at h
  split at h
  · simp at h
  next full hfill =>
    obtain ⟨bytes, hbytes, hnumber, hfull⟩ := exists_filled hw hstart hfill
    obtain rfl := hbytes rfl
    unfold settle at h
    split at h
    · simp at h
    split at h
    · simp at h
    next done hmove =>
      rw [Prod.mk.injEq] at h
      obtain ⟨-, rfl⟩ := h
      obtain ⟨hleads, hopen, hkept, hitem⟩ := move_eq_ok hstart (by rw [hfull, if_pos rfl]) hmove
      -- the draft is a file, so a folder that is there after it was there before
      have hbefore : w.item? path.place ≠ some .folder := by
        rw [hfull] at hopen
        split at hopen
        next hpq =>
          rw [← hpq, hfree]
          simp
        · exact hopen
      -- away from the path the draft has come and gone, and its place is free as before
      have helse : ∀ q, q ≠ path.place → done.item? q = w.item? q := by
        intro q hq
        rw [hitem, if_neg (Ne.symm hq), hfull]
        split
        next hpq => rw [← hpq, hfree]
        · rfl
      have hnext : done.nextNumber = w.nextNumber + 1 := hkept.trans hnumber
      have hfolders : ∀ q, w.item? q = some .folder → done.item? q = some .folder := by
        intro q hq
        rw [helse q (by rintro rfl; exact hbefore hq)]
        exact hq
      refine ⟨hfolders, hleads.mono fun q hq => ?_, ⟨helse, hbefore,
        ⟨w.nextNumber, by rw [hitem, if_pos rfl], Or.inl ⟨Nat.le_refl _, by omega⟩⟩, by omega⟩⟩
      -- the path led over folders when the draft was moved, and those were folders all along
      rw [hfull] at hq
      split at hq
      · simp at hq
      · exact hfolders q hq

theorem saveIn_eq_error {folder : Place} {path : Path} {content : ByteArray} {fault : Fault}
    (hw : w.Sound) (h : w.saveIn refusals folder path content = (.error fault, w')) :
    Alike w w' := by
  obtain ⟨hfree, hstart⟩ := w.item?_draftPlace folder
  unfold saveIn at h
  split at h
  · obtain ⟨-, rfl⟩ := Prod.mk.inj h
    exact .refl w
  -- wherever saving stops, the only place that may differ is that of the draft, which is erased
  have herased : ∀ {result : Except Fault Unit} {v : Workspace},
      (w.create (w.draftPlace folder) ByteArray.empty).fill refusals w.nextNumber content =
        (result, v) → Alike w (v.erase (w.draftPlace folder)) := by
    intro result v hfill
    obtain ⟨bytes, -, hnumber, hitems⟩ := exists_filled hw hstart hfill
    refine ⟨item?_draft_erased hfree hstart v fun q hq => ?_, ?_⟩
    · rw [hitems, if_neg (Ne.symm hq)]
    · exact (Nat.le_succ _).trans hnumber.ge
  dsimp only at h
  split at h
  next fault' begun hfill =>
    obtain ⟨-, rfl⟩ := Prod.mk.inj h
    exact herased hfill
  next full hfill =>
    unfold settle at h
    split at h
    · obtain ⟨-, rfl⟩ := Prod.mk.inj h
      exact herased hfill
    · split at h
      · obtain ⟨-, rfl⟩ := Prod.mk.inj h
        exact herased hfill
      · simp at h

/-! ## Saving with the folders around the file -/

section Save

variable {folder path : Path} {content : ByteArray}

theorem makeRoom_widens {result : Except Fault Unit}
    (h : w.makeRoom refusals folder = (result, w')) : Widens folder.trail w w' := by
  unfold makeRoom at h
  split at h
  next fault missing hfolders =>
    obtain ⟨-, rfl⟩ := Prod.mk.inj h
    refine (makeFrom_widens rfl).mono fun q hq => ?_
    obtain ⟨p, hp, rfl⟩ := List.mem_map.mp hq
    exact Path.mem_trail_of_mem_withParents (List.mem_of_mem_drop hp)
  next => exact makeFolders_widens h

/-- Saving adds folders around the file and puts the whole content at its place. -/
theorem exists_stores_of_save (hw : w.Sound)
    (h : w.save refusals folder path content = (.ok (), w')) :
    ∃ left, Widens folder.trail w left ∧ w'.Leads path ∧ Stores path.place content left w' := by
  unfold save at h
  split at h
  · simp at h
  next left hroom =>
    have hwide := makeRoom_widens hroom
    split at h
    · simp at h
    split at h
    · simp at h
    next place hplace =>
      split at h
      · simp at h
      next more hsaved =>
        obtain ⟨-, rfl⟩ := Prod.mk.inj h
        obtain ⟨-, hleads, hstores⟩ := saveIn_eq_ok (hw.widens hwide) hsaved
        exact ⟨left, hwide, hleads, hstores⟩

/-- A save that fails adds folders around the file and changes nothing else. -/
theorem exists_alike_of_save {error : Error} (hw : w.Sound)
    (h : w.save refusals folder path content = (.error error, w')) :
    ∃ left, Widens folder.trail w left ∧ Alike left w' := by
  unfold save at h
  split at h
  next fault left hroom =>
    obtain ⟨-, rfl⟩ := Prod.mk.inj h
    exact ⟨left, makeRoom_widens hroom, .refl left⟩
  next left hroom =>
    have hwide := makeRoom_widens hroom
    split at h
    · obtain ⟨-, rfl⟩ := Prod.mk.inj h
      exact ⟨left, hwide, .refl left⟩
    split at h
    · obtain ⟨-, rfl⟩ := Prod.mk.inj h
      exact ⟨left, hwide, .refl left⟩
    next place hplace =>
      split at h
      next fault more hsaved =>
        obtain ⟨-, rfl⟩ := Prod.mk.inj h
        exact ⟨left, hwide, saveIn_eq_error (hw.widens hwide) hsaved⟩
      · simp at h

theorem Widens.alike {places : List Place} (h : Widens places w w')
    (hp : ∀ q ∈ places, w.item? q = some .folder) : Alike w w' :=
  ⟨h.item?_eq hp, h.number.ge⟩

theorem Stores.of_alike {v : Workspace} {p : Place} (ha : Alike w v)
    (hs : Stores p content v w') : Stores p content w w' where
  elsewhere q hq := (hs.elsewhere q hq).trans (ha.items q)
  here := by
    rw [← ha.items]
    exact hs.here
  stored := by
    obtain ⟨n, hn, ⟨hle, hlt⟩ | ⟨d, hd⟩⟩ := hs.stored
    · exact ⟨n, hn, Or.inl ⟨ha.number.trans hle, hlt⟩⟩
    · exact ⟨n, hn, Or.inr ⟨d, by rw [← ha.items]; exact hd⟩⟩
  number := ha.number.trans hs.number

/-! Where the folders are there already, saving makes none. -/

theorem save_eq_ok (hw : w.Sound) (hp : ∀ q ∈ folder.trail, w.item? q = some .folder)
    (h : w.save refusals folder path content = (.ok (), w')) :
    w'.Leads path ∧ Stores path.place content w w' := by
  obtain ⟨left, hwide, hleads, hstores⟩ := exists_stores_of_save hw h
  exact ⟨hleads, .of_alike (hwide.alike hp) hstores⟩

theorem save_eq_error {error : Error} (hw : w.Sound)
    (hp : ∀ q ∈ folder.trail, w.item? q = some .folder)
    (h : w.save refusals folder path content = (.error error, w')) : Alike w w' := by
  obtain ⟨left, hwide, halike⟩ := exists_alike_of_save hw h
  exact (hwide.alike hp).trans halike

end Save

end Signoff.Workspace
