import Mathlib.Data.List.Induction
import Mathlib.Data.List.Nodup

/-!
# Groups in the order of first appearance

A list is grouped by putting each element into the group of its key, or into a new group at the end
(`Grouping.place`). What comes of it are the keys in the order in which they first appear, each with
its elements in the order of the list (`Grouping.foldl_place`).
-/

namespace Signoff

section FirstAppearances

variable {α κ : Type} [BEq κ] [LawfulBEq κ]

theorem eraseDups_concat (ks : List κ) (k : κ) [Decidable (k ∈ ks)] :
    (ks ++ [k]).eraseDups = if k ∈ ks then ks.eraseDups else ks.eraseDups ++ [k] := by
  rw [List.eraseDups_append]
  by_cases hk : k ∈ ks
  · have hnone : [k].removeAll ks = [] := by simp [List.removeAll, hk]
    rw [if_pos hk, hnone, List.eraseDups_nil, List.append_nil]
  · have hone : [k].removeAll ks = [k] := by simp [List.removeAll, hk]
    rw [if_neg hk, hone]
    rfl

theorem nodup_eraseDups (ks : List κ) : ks.eraseDups.Nodup := by
  classical
  induction ks using List.reverseRecOn with
  | nil => exact List.nodup_nil
  | append_singleton ks k ih =>
    rw [eraseDups_concat]
    by_cases hk : k ∈ ks
    · rwa [if_pos hk]
    · have hnew : k ∉ ks.eraseDups := fun hmem => hk (List.mem_eraseDups.mp hmem)
      rw [if_neg hk, ← List.concat_eq_append]
      exact ih.concat hnew

theorem eraseDups_of_nodup {ks : List κ} (h : ks.Nodup) : ks.eraseDups = ks := by
  classical
  induction ks using List.reverseRecOn with
  | nil => exact List.eraseDups_nil
  | append_singleton ks k ih =>
    obtain ⟨hks, -, hapart⟩ := List.nodup_append.mp h
    have hk : k ∉ ks := fun hmem => hapart k hmem k (List.mem_singleton_self k) rfl
    rw [eraseDups_concat, if_neg hk, ih hks]

/-- In a list in order, a key that appears before another one has an element in front of all
elements of the other. -/
theorem pairwise_eraseDups {R : α → α → Prop} (key : α → κ) {as : List α} (h : as.Pairwise R) :
    (as.map key).eraseDups.Pairwise fun k l =>
      ∃ a ∈ as, key a = k ∧ ∀ b ∈ as, key b = l → R a b := by
  classical
  induction as using List.reverseRecOn with
  | nil => exact List.Pairwise.nil
  | append_singleton as last ih =>
    obtain ⟨has, -, hlast⟩ := List.pairwise_append.mp h
    -- the last element comes behind every other one, whatever its key
    have hbehind : ∀ a ∈ as, ∀ l, (∀ b ∈ as, key b = l → R a b) →
        ∀ b ∈ as ++ [last], key b = l → R a b := by
      intro a ha l hl b hb hkey
      rcases List.mem_append.mp hb with hb | hb
      · exact hl b hb hkey
      · exact hlast a ha b hb
    have hold : (as.map key).eraseDups.Pairwise fun k l =>
        ∃ a ∈ as ++ [last], key a = k ∧ ∀ b ∈ as ++ [last], key b = l → R a b := by
      refine (ih has).imp ?_
      rintro k l ⟨a, ha, hk, hl⟩
      exact ⟨a, List.mem_append_left _ ha, hk, hbehind a ha l hl⟩
    rw [List.map_append, List.map_singleton, eraseDups_concat]
    by_cases hmem : key last ∈ as.map key
    · rwa [if_pos hmem]
    · rw [if_neg hmem, List.pairwise_append]
      refine ⟨hold, List.pairwise_singleton _ _, fun k hk l hl => ?_⟩
      rw [List.mem_singleton] at hl
      subst hl
      obtain ⟨a, ha, hkey⟩ := List.mem_map.mp (List.mem_eraseDups.mp hk)
      refine ⟨a, List.mem_append_left _ ha, hkey, hbehind a ha _ fun b hb hb' => ?_⟩
      exact absurd (hb' ▸ List.mem_map_of_mem hb) hmem

end FirstAppearances

namespace Grouping

variable {α β κ : Type} [BEq κ]

/-- Puts an element into the group of its key, or into a new one at the end. -/
def place (k : κ) (b : β) : List (κ × List β) → List (κ × List β)
  | [] => [(k, [b])]
  | g :: gs => if g.1 == k then (g.1, g.2 ++ [b]) :: gs else g :: place k b gs

/-- The keys in the order of their first appearance, with what their elements give. -/
def classes (key : α → κ) (f : α → β) (as : List α) : List (κ × List β) :=
  (as.map key).eraseDups.map fun k => (k, (as.filter (key · == k)).map f)

variable [LawfulBEq κ] (key : α → κ) (f : α → β)

theorem place_of_not_mem {k : κ} {ks : List κ} (h : k ∉ ks) (b : β) (elems : κ → List β) :
    place k b (ks.map fun j => (j, elems j)) = (ks.map fun j => (j, elems j)) ++ [(k, [b])] := by
  induction ks with
  | nil => rfl
  | cons j ks ih =>
    rw [List.mem_cons, not_or] at h
    have hj : ¬ (j == k) = true := fun heq => h.1 (eq_of_beq heq).symm
    rw [List.map_cons, place, if_neg hj, ih h.2]
    rfl

theorem place_of_mem {k : κ} {ks : List κ} (hnodup : ks.Nodup) (h : k ∈ ks) (b : β)
    (elems : κ → List β) :
    place k b (ks.map fun j => (j, elems j)) =
      ks.map fun j => (j, if j == k then elems j ++ [b] else elems j) := by
  induction ks with
  | nil => exact absurd h List.not_mem_nil
  | cons j ks ih =>
    obtain ⟨hj, hks⟩ := List.nodup_cons.mp hnodup
    rw [List.map_cons, List.map_cons, place]
    by_cases hjk : (j == k) = true
    · rw [if_pos hjk, if_pos hjk]
      -- the key stands in the list once, so the other groups stay
      refine congrArg _ (List.map_congr_left fun i hi => ?_)
      have hik : ¬ (i == k) = true := fun heq =>
        hj ((eq_of_beq hjk).trans (eq_of_beq heq).symm ▸ hi)
      rw [if_neg hik]
    · have hmem : k ∈ ks :=
        (List.mem_cons.mp h).resolve_left fun heq => hjk (by rw [heq]; exact beq_self_eq_true j)
      rw [if_neg hjk, if_neg hjk, ih hks hmem]

/-- One more element at the end of the list goes into the group of its key. -/
theorem place_classes (as : List α) (a : α) :
    place (key a) (f a) (classes key f as) = classes key f (as ++ [a]) := by
  classical
  have helems : ∀ k, ((as ++ [a]).filter (key · == k)).map f =
      if k == key a then (as.filter (key · == k)).map f ++ [f a]
      else (as.filter (key · == k)).map f := by
    intro k
    by_cases hk : k = key a
    · simp [hk]
    · simp [hk, Ne.symm hk]
  unfold classes
  rw [List.map_append, List.map_singleton, eraseDups_concat]
  by_cases hmem : key a ∈ as.map key
  · rw [if_pos hmem, place_of_mem (nodup_eraseDups _) (List.mem_eraseDups.mpr hmem)]
    exact List.map_congr_left fun k _ => by rw [helems]
  · have hnew : key a ∉ (as.map key).eraseDups := fun h => hmem (List.mem_eraseDups.mp h)
    have hnone : as.filter (key · == key a) = [] := by
      rw [List.filter_eq_nil_iff]
      intro b hb heq
      exact hmem (eq_of_beq heq ▸ List.mem_map_of_mem hb)
    rw [if_neg hmem, place_of_not_mem hnew, List.map_append, List.map_singleton, helems, hnone,
      if_pos (beq_self_eq_true _)]
    congr 1
    apply List.map_congr_left
    intro k hk
    have hne : ¬ (k == key a) = true := fun heq => hnew (eq_of_beq heq ▸ hk)
    rw [helems, if_neg hne]

theorem foldl_place (as : List α) :
    as.foldl (fun gs a => place (key a) (f a) gs) [] = classes key f as := by
  induction as using List.reverseRecOn with
  | nil => rfl
  | append_singleton as a ih => rw [List.foldl_concat, ih, place_classes]

end Grouping

end Signoff
