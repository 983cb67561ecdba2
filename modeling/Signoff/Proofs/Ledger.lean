import Mathlib.Data.List.Dedup
import Mathlib.Data.List.Nodup
import Signoff.Ledger

/-!
# The ledger as an ordered map

The entries of a ledger stand in the order of their keys, each key once.  So a ledger is known by
what it answers (`Ordered.ext`), and entering a result is a write-once update (`get?_enter`).
Whatever results are inserted, the first one of each job is kept, and the answers of the insertions
and everything that is read from the ledger say the same of it (`insertAll_writes_once`).
-/

namespace Signoff

namespace Domain

theorem mem_all (d : Domain) : d ∈ all := by cases d <;> decide

/-- The domains are listed in the order of processing. -/
theorem pairwise_all : all.Pairwise fun d e => d.rank < e.rank := by decide

theorem rank_injective {d e : Domain} (h : d.rank = e.rank) : d = e := by
  revert h; cases d <;> cases e <;> decide

end Domain

namespace JobKey

/-- The order of keys as an order of numbers. -/
def code (k : JobKey) : Nat := k.domain.rank * UInt64.size + k.index.toNat

theorem before_iff (a b : JobKey) : a.before b = true ↔ a.code < b.code := by
  have ha := a.index.toNat_lt
  have hb := b.index.toNat_lt
  unfold before code
  simp only [Bool.or_eq_true, Bool.and_eq_true, decide_eq_true_eq, beq_iff_eq,
    UInt64.lt_iff_toNat_lt, UInt64.size]
  constructor
  · rintro (h | ⟨h, hi⟩)
    · omega
    · rw [h]; omega
  · intro h
    -- the index counts only where the domains are the same
    by_cases hr : a.domain.rank < b.domain.rank
    · exact Or.inl hr
    · have he : a.domain.rank = b.domain.rank := by omega
      exact Or.inr ⟨Domain.rank_injective he, by omega⟩

theorem code_injective {a b : JobKey} (h : a.code = b.code) : a = b := by
  have ha := a.index.toNat_lt
  have hb := b.index.toNat_lt
  unfold code UInt64.size at h
  have hr : a.domain.rank = b.domain.rank := by omega
  have hi : a.index.toNat = b.index.toNat := by omega
  cases a; cases b
  simp only [mk.injEq]
  exact ⟨Domain.rank_injective hr, UInt64.toNat_inj.mp hi⟩

end JobKey

namespace Status

theorem isBlocking_iff (s : Status) : s.isBlocking = true ↔ s ∈ [failed, crashed, error] := by
  cases s <;> decide

end Status

namespace Ledger

/-! ## What a ledger answers -/

theorem find?_place {e : JobKey × JobResult} {es : List (JobKey × JobResult)} (k : JobKey)
    (h : es.find? (·.1 == e.1) = none) :
    (place e es).find? (·.1 == k) = if e.1 = k then some e else es.find? (·.1 == k) := by
  induction es with
  | nil => by_cases hk : e.1 = k <;> simp [place, hk]
  | cons f es ih =>
    have hf : ¬ f.1 = e.1 := by
      intro hfe
      simp [hfe] at h
    have hrest : es.find? (·.1 == e.1) = none := by simpa [hf] using h
    simp only [place]
    split
    · by_cases hk : e.1 = k <;> simp [hk]
    · by_cases hfk : f.1 = k
      · have hek : ¬ e.1 = k := fun hek => hf (hfk.trans hek.symm)
        simp [hfk, hek]
      · simp [hfk, ih hrest]

/-- The first result of a key stays; a result for another key does not matter. -/
theorem get?_enter (l : Ledger) (k k' : JobKey) (r : JobResult) :
    (l.enter k r).get? k' = if k = k' then some ((l.get? k).getD r) else l.get? k' := by
  unfold enter insert contains
  -- a key that has a result keeps it
  cases hk : l.get? k with
  | some r' =>
    by_cases h : k = k'
    · subst h; simp [hk]
    · simp [h]
  | none =>
    have hnone : l.entries.find? (·.1 == k) = none := by simpa [get?] using hk
    by_cases h : k = k'
    · subst h; simp [get?, find?_place (e := (k, r)) k hnone]
    · simp [get?, find?_place (e := (k, r)) k' hnone, h]

@[simp] theorem get?_empty (k : JobKey) : Ledger.empty.get? k = none := rfl

theorem contains_enter (l : Ledger) (k k' : JobKey) (r : JobResult) :
    (l.enter k r).contains k' = true ↔ k = k' ∨ l.contains k' = true := by
  unfold contains
  rw [get?_enter]
  by_cases h : k = k' <;> simp [h]

/-- Entering many results enters their keys. -/
theorem contains_foldl {α : Type} (key : α → JobKey) (result : α → JobResult) (es : List α)
    (l : Ledger) (k : JobKey) :
    (es.foldl (fun l e => l.enter (key e) (result e)) l).contains k = true ↔
      (∃ e ∈ es, key e = k) ∨ l.contains k = true := by
  induction es generalizing l with
  | nil => simp
  | cons e es ih =>
    rw [List.foldl_cons, ih, contains_enter]
    simp only [List.mem_cons, exists_eq_or_imp]
    rw [← or_assoc]
    exact or_congr_left or_comm

/-- A result that the ledger did not have is one of those that were entered. -/
theorem source_of_foldl {α : Type} (key : α → JobKey) (result : α → JobResult) {es : List α}
    {l : Ledger} {k : JobKey} {r : JobResult}
    (h : (es.foldl (fun l e => l.enter (key e) (result e)) l).get? k = some r) :
    l.get? k = some r ∨ ∃ e ∈ es, key e = k ∧ result e = r := by
  induction es generalizing l with
  | nil => exact Or.inl h
  | cons e es ih =>
    rw [List.foldl_cons] at h
    rcases ih h with hold | ⟨f, hf, hk⟩
    · rw [get?_enter] at hold
      split at hold
      next hk =>
        cases hl : l.get? (key e) with
        | some r' =>
          rw [hl, Option.getD_some] at hold
          exact Or.inl (by rw [← hk, hl, hold])
        | none =>
          rw [hl, Option.getD_none, Option.some.injEq] at hold
          exact Or.inr ⟨e, List.mem_cons_self, hk, hold⟩
      next => exact Or.inl hold
    · exact Or.inr ⟨f, List.mem_cons_of_mem _ hf, hk⟩

theorem mem_keys_iff {l : Ledger} {k : JobKey} :
    k ∈ l.entries.map (·.1) ↔ l.contains k = true := by
  simp [contains, get?]

/-! ## Its entries in order -/

/-- The entries stand in the order of their keys, each key once. -/
def Ordered (l : Ledger) : Prop := l.entries.Pairwise fun a b => a.1.before b.1 = true

theorem mem_place {e f : JobKey × JobResult} {es : List (JobKey × JobResult)} :
    f ∈ place e es ↔ f = e ∨ f ∈ es := by
  induction es with
  | nil => simp [place]
  | cons g es ih =>
    simp only [place]
    split
    · simp
    · simp only [List.mem_cons, ih]; tauto

theorem pairwise_place {e : JobKey × JobResult} {es : List (JobKey × JobResult)}
    (h : es.Pairwise fun a b => a.1.before b.1 = true) (hne : ∀ f ∈ es, f.1 ≠ e.1) :
    (place e es).Pairwise fun a b => a.1.before b.1 = true := by
  induction es with
  | nil => simp [place]
  | cons f es ih =>
    obtain ⟨hf, hes⟩ := List.pairwise_cons.mp h
    simp only [place]
    split
    next hb =>
      refine List.pairwise_cons.mpr ⟨?_, h⟩
      intro g hg
      rw [JobKey.before_iff] at hb ⊢
      rcases List.mem_cons.mp hg with rfl | hg
      · exact hb
      · have := (JobKey.before_iff _ _).mp (hf g hg)
        omega
    next hb =>
      have hfe : f.1.code ≠ e.1.code := fun hc => hne f (by simp) (JobKey.code_injective hc)
      rw [JobKey.before_iff] at hb
      refine List.pairwise_cons.mpr ⟨?_, ih hes fun g hg => hne g (by simp [hg])⟩
      intro g hg
      rcases mem_place.mp hg with rfl | hg
      · rw [JobKey.before_iff]; omega
      · exact hf g hg

theorem ordered_empty : Ledger.empty.Ordered := List.Pairwise.nil

theorem Ordered.enter {l : Ledger} (h : l.Ordered) (k : JobKey) (r : JobResult) :
    (l.enter k r).Ordered := by
  unfold Ledger.enter insert contains
  cases hk : l.get? k with
  | some r' => simpa using h
  | none =>
    have hnone : l.entries.find? (·.1 == k) = none := by simpa [get?] using hk
    simp only [Option.isSome_none, Bool.false_eq_true, if_false]
    refine pairwise_place h ?_
    intro f hf hkey
    have := List.find?_eq_none.mp hnone f hf
    simp [hkey] at this

theorem Ordered.foldl {α : Type} {l : Ledger} (h : l.Ordered) (key : α → JobKey)
    (result : α → JobResult) (es : List α) :
    (es.foldl (fun l e => l.enter (key e) (result e)) l).Ordered := by
  induction es generalizing l with
  | nil => exact h
  | cons e es ih => exact ih (h.enter (key e) (result e))

theorem Ordered.nodup_keys {l : Ledger} (h : l.Ordered) : (l.entries.map (·.1)).Nodup := by
  rw [List.Nodup, List.pairwise_map]
  refine List.Pairwise.imp ?_ h
  intro a b hab heq
  rw [JobKey.before_iff, heq] at hab
  omega

/-- In a list with each key once, a key finds the entry that has it. -/
theorem find?_key_eq_some_iff {es : List (JobKey × JobResult)} (h : (es.map (·.1)).Nodup)
    {k : JobKey} {r : JobResult} :
    (es.find? (·.1 == k)).map (·.2) = some r ↔ (k, r) ∈ es := by
  constructor
  · intro hget
    obtain ⟨e, hfind, hr⟩ := Option.map_eq_some_iff.mp hget
    have hek : e.1 = k := by simpa using List.find?_some hfind
    have heq : e = (k, r) := Prod.ext hek hr
    exact heq ▸ List.mem_of_find?_eq_some hfind
  · intro hmem
    cases hfind : es.find? (·.1 == k) with
    | none =>
      have hnone := List.find?_eq_none.mp hfind _ hmem
      simp at hnone
    | some e =>
      have hek : e.1 = k := by simpa using List.find?_some hfind
      have heq : e = (k, r) :=
        List.inj_on_of_nodup_map h (List.mem_of_find?_eq_some hfind) hmem hek
      rw [heq]
      rfl

theorem Ordered.mem_iff {l : Ledger} (h : l.Ordered) {k : JobKey} {r : JobResult} :
    (k, r) ∈ l.entries ↔ l.get? k = some r :=
  (find?_key_eq_some_iff h.nodup_keys).symm

/-- Two ordered ledgers that answer alike are the same. -/
theorem Ordered.ext {l m : Ledger} (hl : l.Ordered) (hm : m.Ordered)
    (h : ∀ k, l.get? k = m.get? k) : l = m := by
  have hperm : l.entries.Perm m.entries := by
    rw [List.perm_ext_iff_of_nodup hl.nodup_keys.of_map hm.nodup_keys.of_map]
    rintro ⟨k, r⟩
    rw [hl.mem_iff, hm.mem_iff, h k]
  -- the same entries in the one order that there is
  have heq : l.entries = m.entries := by
    refine List.Perm.eq_of_pairwise ?_ hl hm hperm
    intro a b _ _ hab hba
    rw [JobKey.before_iff] at hab hba
    omega
  cases l; cases m
  simpa using heq

/-- The keys with a result, of one domain. -/
theorem Ordered.ofDomain_perm {l : Ledger} (h : l.Ordered) {d : Domain} {keys : List JobKey}
    (hnodup : keys.Nodup) (hkeys : ∀ k, k ∈ keys ↔ k.domain = d ∧ l.contains k = true) :
    ((l.ofDomain d).map (·.1)).Perm keys := by
  have hsub : ((l.ofDomain d).map (·.1)).Nodup :=
    h.nodup_keys.sublist (List.Sublist.map _ List.filter_sublist)
  rw [List.perm_ext_iff_of_nodup hsub hnodup]
  intro k
  rw [hkeys k]
  simp only [ofDomain, List.mem_map, List.mem_filter, beq_iff_eq]
  constructor
  · rintro ⟨⟨k', r⟩, ⟨hmem, hd⟩, rfl⟩
    exact ⟨hd, by simp [contains, h.mem_iff.mp hmem]⟩
  · rintro ⟨hd, hc⟩
    obtain ⟨r, hr⟩ := Option.isSome_iff_exists.mp hc
    exact ⟨(k, r), ⟨h.mem_iff.mpr hr, hd⟩, rfl⟩

/-! ## Results entered one after the other -/

def ofResults (results : List (JobKey × JobResult)) : Ledger :=
  results.foldl (fun l e => l.enter e.1 e.2) empty

/-- What the ledger had stays, and of the results that come the first one of a key counts. -/
theorem get?_foldl_enter (es : List (JobKey × JobResult)) (l : Ledger) (k : JobKey) :
    (es.foldl (fun l e => l.enter e.1 e.2) l).get? k =
      (l.get? k).or ((es.find? (·.1 == k)).map (·.2)) := by
  induction es generalizing l with
  | nil => exact (Option.or_none).symm
  | cons e es ih =>
    rw [List.foldl_cons, ih, get?_enter]
    by_cases hk : e.1 = k
    · have hfirst : (e.1 == k) = true := beq_iff_eq.mpr hk
      rw [if_pos hk, List.find?_cons, hfirst, hk]
      cases l.get? k <;> rfl
    · have hother : (e.1 == k) = false := beq_eq_false_iff_ne.mpr hk
      rw [if_neg hk, List.find?_cons, hother]

section OfResults

variable {results : List (JobKey × JobResult)} (h : (results.map (·.1)).Nodup)

include h

theorem get?_ofResults_eq_some_iff {k : JobKey} {r : JobResult} :
    (ofResults results).get? k = some r ↔ (k, r) ∈ results := by
  unfold ofResults
  rw [get?_foldl_enter, get?_empty, Option.none_or]
  exact find?_key_eq_some_iff h

/-- Results of different jobs may be entered in any order. -/
theorem ofResults_perm {others : List (JobKey × JobResult)} (hperm : others.Perm results) :
    ofResults others = ofResults results := by
  have hothers : (others.map (·.1)).Nodup := (hperm.map _).nodup_iff.mpr h
  refine (ordered_empty.foldl _ _ others).ext (ordered_empty.foldl _ _ results) fun k => ?_
  apply Option.ext
  intro r
  change (ofResults others).get? k = some r ↔ (ofResults results).get? k = some r
  rw [get?_ofResults_eq_some_iff hothers, get?_ofResults_eq_some_iff h, hperm.mem_iff]

end OfResults

/-- Inserts one result after the other: the ledger with them, and what each insertion answered. -/
def insertAll (l : Ledger) : List (JobKey × JobResult) → Ledger × List Bool
  | [] => (l, [])
  | e :: es =>
    let (l, answer) := l.insert e.1 e.2
    let (l, answers) := insertAll l es
    (l, answer :: answers)

/-- The results whose insertion was answered with yes. -/
def accepted (es : List (JobKey × JobResult)) (answers : List Bool) : List (JobKey × JobResult) :=
  ((es.zip answers).filter (·.2)).map (·.1)

/-! ## The answers -/

theorem insert_snd (l : Ledger) (k : JobKey) (r : JobResult) :
    (l.insert k r).2 = !l.contains k := by
  unfold insert
  cases l.contains k <;> rfl

theorem insertAll_fst (l : Ledger) (es : List (JobKey × JobResult)) :
    (l.insertAll es).1 = es.foldl (fun l e => l.enter e.1 e.2) l := by
  induction es generalizing l with
  | nil => rfl
  | cons e es ih => exact ih (l.enter e.1 e.2)

theorem insertAll_snd_cons (l : Ledger) (e : JobKey × JobResult) (es : List (JobKey × JobResult)) :
    (l.insertAll (e :: es)).2 = (!l.contains e.1) :: ((l.enter e.1 e.2).insertAll es).2 := by
  rw [← insert_snd l e.1 e.2]
  rfl

/-- An insertion is answered with yes if the ledger had no result of the job and none was inserted
before. -/
theorem insertAll_snd (l : Ledger) (es : List (JobKey × JobResult)) :
    (l.insertAll es).2 =
      es.zipIdx.map fun (e, i) => !l.contains e.1 && decide (e.1 ∉ (es.take i).map (·.1)) := by
  induction es generalizing l with
  | nil => rfl
  | cons e es ih =>
    rw [insertAll_snd_cons, ih, List.zipIdx_cons', List.map_cons, List.map_map]
    congr 1
    · simp
    · refine List.map_congr_left fun f _ => ?_
      -- the first insertion adds its key to the ledger, and to the keys that came before
      have hcontains := contains_enter l e.1 f.1.1 e.2
      rw [Bool.eq_iff_iff]
      simp only [Function.comp_apply, Prod.map, id_eq, List.take_succ_cons, List.map_cons,
        List.mem_cons, Bool.and_eq_true, Bool.not_eq_true', ← Bool.not_eq_true, hcontains,
        decide_eq_true_iff, not_or]
      tauto

/-! ## The entries -/

theorem place_perm (e : JobKey × JobResult) (es : List (JobKey × JobResult)) :
    (place e es).Perm (e :: es) := by
  induction es with
  | nil => exact .refl _
  | cons f es ih =>
    unfold place
    split
    · exact .refl _
    · exact (ih.cons f).trans (.swap e f es)

theorem accepted_cons_true (e : JobKey × JobResult) (es : List (JobKey × JobResult))
    (answers : List Bool) : accepted (e :: es) (true :: answers) = e :: accepted es answers := rfl

theorem accepted_cons_false (e : JobKey × JobResult) (es : List (JobKey × JobResult))
    (answers : List Bool) : accepted (e :: es) (false :: answers) = accepted es answers := rfl

theorem entries_insertAll_perm (l : Ledger) (es : List (JobKey × JobResult)) :
    (l.insertAll es).1.entries.Perm (accepted es (l.insertAll es).2 ++ l.entries) := by
  induction es generalizing l with
  | nil => exact .refl _
  | cons e es ih =>
    have hrest := ih (l.enter e.1 e.2)
    rw [insertAll_snd_cons, insertAll_fst, List.foldl_cons, ← insertAll_fst]
    unfold enter insert at hrest ⊢
    -- a refused result changes nothing, and an accepted one is placed among the entries
    cases hc : l.contains e.1 with
    | true =>
      rw [hc, if_pos rfl] at hrest
      rw [if_pos rfl, Bool.not_true, accepted_cons_false]
      exact hrest
    | false =>
      rw [hc, if_neg Bool.false_ne_true] at hrest
      rw [if_neg Bool.false_ne_true, Bool.not_false, accepted_cons_true]
      exact hrest.trans (((place_perm e l.entries).append_left _).trans List.perm_middle)

/-- The domains in their order, each with its results, are the whole ledger. -/
theorem Ordered.flatMap_ofDomain {l : Ledger} (h : l.Ordered) :
    Domain.all.flatMap l.ofDomain = l.entries := by
  have hdomains : (Domain.all.flatMap l.ofDomain).Pairwise fun a b => a.1.before b.1 = true := by
    refine List.pairwise_flatMap.mpr ⟨fun d _ => h.sublist List.filter_sublist, ?_⟩
    refine Domain.pairwise_all.imp fun {d e} hde a ha b hb => ?_
    simp only [ofDomain, List.mem_filter, beq_iff_eq] at ha hb
    simp [JobKey.before, ha.2, hb.2, hde]
  have hnodup : ∀ {es : List (JobKey × JobResult)},
      es.Pairwise (fun a b => a.1.before b.1 = true) → es.Nodup := fun hes =>
    (Ordered.nodup_keys (l := ⟨_⟩) hes).of_map
  -- the same entries in the one order that there is
  refine List.Perm.eq_of_pairwise (fun a b _ _ hab hba => ?_) hdomains h ?_
  · rw [JobKey.before_iff] at hab hba
    omega
  · refine (List.perm_ext_iff_of_nodup (hnodup hdomains) (hnodup h)).mpr fun e => ?_
    simp [ofDomain, Domain.mem_all]

/-! ## What is read from the ledger -/

/-- A ledger into which results were inserted one after the other, whatever they are. -/
theorem insertAll_writes_once (es : List (JobKey × JobResult)) :
    let l := (empty.insertAll es).1
    let answers := (empty.insertAll es).2
    let keys := l.entries.map (·.1)
    answers = (es.zipIdx.map fun (e, i) => decide (e.1 ∉ (es.take i).map (·.1))) ∧
    (∀ k, l.get? k = (es.find? (·.1 == k)).map (·.2)) ∧
    (keys.Pairwise fun a b =>
      a.domain.rank < b.domain.rank ∨ a.domain = b.domain ∧ a.index < b.index) ∧
    (∀ k, k ∈ keys ↔ k ∈ es.map (·.1)) ∧
    l.entries.Perm (accepted es answers) ∧
    l.size = (es.map (·.1)).dedup.length ∧
    Domain.all.flatMap l.ofDomain = l.entries ∧
    l.blockingCount =
      (accepted es answers).countP fun e => e.2.status ∈ [.failed, .crashed, .error] := by
  have hordered : (empty.insertAll es).1.Ordered := by
    rw [insertAll_fst]
    exact ordered_empty.foldl _ _ es
  have hget : ∀ k, (empty.insertAll es).1.get? k = (es.find? (·.1 == k)).map (·.2) := by
    intro k
    rw [insertAll_fst, get?_foldl_enter, get?_empty, Option.none_or]
  have hkeys : ∀ k, k ∈ (empty.insertAll es).1.entries.map (·.1) ↔ k ∈ es.map (·.1) := by
    intro k
    rw [mem_keys_iff, insertAll_fst, contains_foldl]
    simp [contains]
  have hperm := entries_insertAll_perm empty es
  rw [show empty.entries = [] from rfl, List.append_nil] at hperm
  refine ⟨?_, hget, ?_, hkeys, hperm, ?_, hordered.flatMap_ofDomain, ?_⟩
  · rw [insertAll_snd]
    rfl
  · refine List.pairwise_map.mpr (hordered.imp fun {a b} hab => ?_)
    simpa [JobKey.before] using hab
  · unfold size
    rw [← List.length_map (·.1)]
    refine ((List.perm_ext_iff_of_nodup hordered.nodup_keys (List.nodup_dedup _)).mpr ?_).length_eq
    intro k
    rw [hkeys, List.mem_dedup]
  · unfold blockingCount
    rw [← List.countP_eq_length_filter, hperm.countP_eq]
    refine List.countP_congr fun e _ => ?_
    rw [Status.isBlocking_iff, decide_eq_true_iff]

end Ledger

end Signoff
