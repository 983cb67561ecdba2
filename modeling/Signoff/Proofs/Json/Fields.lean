import Signoff.Json.Fields
import Signoff.Proofs.Json.Reader

/-!
# Taking fields out of what was written

Each reader of a field undoes its writer. An object gives back its members under their names, and
a value made of texts, counts and real numbers is spelled as the reader of documents expects.
-/

namespace Signoff.Json

open Text Number

/-! ## Single fields -/

theorem countBelow?_ofNat {n bound : Nat} (h : n < bound) :
    (Numeral.ofNat n).countBelow? bound = some n := by
  have hinteger : ((Numeral.ofNat n).isInteger && !(Numeral.ofNat n).negative) = true := rfl
  have hwhole : ofDigits (Numeral.ofNat n).whole = n := ofDigits_digitsOf n
  unfold Numeral.countBelow?
  rw [if_pos hinteger, hwhole, Option.filter_some, if_pos (decide_eq_true h)]

theorem uint64?_ofNat (n : UInt64) : uint64? (ofNat n.toNat) = some n := by
  have hcount := countBelow?_ofNat n.toNat_lt
  show ((Numeral.ofNat n.toNat).countBelow? UInt64.size).map UInt64.ofNat = some n
  rw [hcount, Option.map_some, UInt64.ofNat_toNat]

theorem uint32?_ofNat (n : UInt32) : uint32? (ofNat n.toNat) = some n := by
  have hcount := countBelow?_ofNat n.toNat_lt
  show ((Numeral.ofNat n.toNat).countBelow? UInt32.size).map UInt32.ofNat = some n
  rw [hcount, Option.map_some, UInt32.ofNat_toNat]

theorem real?_ofReal {x : Binary64} (h : x.isFinite = true) : real? (ofReal x) = some x := by
  unfold real? ofReal
  rw [if_pos h]
  simp only [value_numeral realStyle h, h, if_true]

theorem listOf?_map {α : Type} {write : α → Json} {read : Json → Option α} {items : List α}
    (h : ∀ a ∈ items, read (write a) = some a) :
    listOf? read (.array (items.map write)) = some items := by
  show (items.map write).mapM read = some items
  induction items with
  | nil => rfl
  | cons a items ih =>
    rw [List.map_cons, List.mapM_cons, h a List.mem_cons_self,
      ih fun b hb => h b (List.mem_cons_of_mem a hb)]
    rfl

/-- An absent value is `null`, which no present value is written as. -/
theorem may?_ofOption {α : Type} {write : α → Json} {read : Json → Option α} {value : Option α}
    (h : ∀ a, value = some a → read (write a) = some a) (hnull : read .null = none) :
    may? read (some (ofOption write value)) = some value := by
  cases value with
  | none => rfl
  | some a =>
    have hread := h a rfl
    unfold may? ofOption optional?
    dsimp only
    split
    -- the reader takes no null, so what was written is not null
    next heq => rw [heq, hnull] at hread; cases hread
    next => rw [hread]; rfl

theorem need?_some {α : Type} (read : Json → Option α) (j : Json) :
    need? read (some j) = read j := rfl

/-! ## Objects -/

theorem valuesOf_ofMembers {members : List (String × Json)}
    (hnodup : (members.map (·.1)).Nodup) {name : String} {j : Json} (h : (name, j) ∈ members) :
    valuesOf name (members.map fun (key, value) => (some key, value)) = [j] := by
  induction members with
  | nil => simp at h
  | cons member members ih =>
    obtain ⟨key, value⟩ := member
    rw [List.map_cons, List.nodup_cons] at hnodup
    -- the value of the first member comes first if it has the name
    have hcons : valuesOf name (((key, value) :: members).map fun (key, value) =>
        (some key, value)) = (if key = name then [value] else []) ++
          valuesOf name (members.map fun (key, value) => (some key, value)) := by
      unfold valuesOf
      rw [List.map_cons, List.filter_cons]
      by_cases heq : key = name <;> simp [heq]
    rw [hcons]
    rcases List.mem_cons.mp h with h | h
    · rw [Prod.mk.injEq] at h
      rw [if_pos h.1.symm, ← h.2, List.singleton_append, List.cons.injEq, eq_self, true_and]
      unfold valuesOf
      rw [List.map_eq_nil_iff, List.filter_eq_nil_iff]
      -- no later member has the name again
      intro other hother heq
      rw [List.mem_map] at hother
      obtain ⟨⟨k, v⟩, hmem, rfl⟩ := hother
      have hk : k = name := by simpa using heq
      exact hnodup.1 (List.mem_map.mpr ⟨(k, v), hmem, hk.trans h.1⟩)
    · have hne : key ≠ name := fun heq =>
        hnodup.1 (List.mem_map.mpr ⟨(name, j), h, heq.symm⟩)
      rw [if_neg hne, List.nil_append]
      exact ih hnodup.2 h

/-- Some of the members of an object, read by their names. -/
theorem mapM_valuesOf_ofMembers {members : List (String × Json)}
    (hnodup : (members.map (·.1)).Nodup) {part : List (String × Json)}
    (hpart : ∀ m ∈ part, m ∈ members) :
    (part.mapM fun (m : String × Json) =>
      match valuesOf m.1 (members.map fun (key, value) => (some key, value)) with
      | [] => some none
      | [j] => some (some j)
      | _ => none) = some (part.map fun (_, j) => some j) := by
  induction part with
  | nil => rfl
  | cons m part ih =>
    rw [List.mapM_cons, valuesOf_ofMembers hnodup (hpart m List.mem_cons_self),
      ih fun m hm => hpart m (List.mem_cons_of_mem _ hm)]
    rfl

/-- An object gives back its members under their names. -/
theorem fields?_ofMembers {names : List String} {members : List (String × Json)}
    (hnames : members.map (·.1) = names) (hnodup : names.Nodup) :
    fields? names (ofMembers members) = some (members.map fun (_, j) => some j) := by
  rw [← hnames] at hnodup ⊢
  unfold fields? ofMembers
  dsimp only
  rw [if_pos (by simp), List.mapM_map]
  -- all members stay in sight while an induction goes through the names
  exact mapM_valuesOf_ofMembers hnodup fun _ h => h

/-! ## Spelling -/

@[simp] theorem isSpelled_ofText (s : String) : (ofText s).IsSpelled := rfl

@[simp] theorem isSpelled_ofNat (n : Nat) : (ofNat n).IsSpelled := Number.isSpelled_ofNat n

@[simp] theorem isSpelled_ofReal (x : Binary64) : (ofReal x).IsSpelled := by
  unfold ofReal
  split
  next h => exact isSpelled_numeral realStyle h
  next => trivial

theorem isSpelled_ofOption {α : Type} {write : α → Json} (value : Option α)
    (h : ∀ a, (write a).IsSpelled) : (ofOption write value).IsSpelled := by
  cases value with
  | none => trivial
  | some a => exact h a

theorem isSpelled_array {α : Type} {write : α → Json} (items : List α)
    (h : ∀ a, (write a).IsSpelled) : (array (items.map write)).IsSpelled := by
  show ItemsSpelled (items.map write)
  induction items with
  | nil => trivial
  | cons a items ih => exact ⟨h a, ih⟩

theorem isSpelled_ofMembers {members : List (String × Json)}
    (h : ∀ m ∈ members, m.2.IsSpelled) : (ofMembers members).IsSpelled := by
  show MembersSpelled (members.map _)
  induction members with
  | nil => trivial
  | cons m members ih =>
    exact ⟨rfl, h m List.mem_cons_self, ih fun m hm => h m (List.mem_cons_of_mem _ hm)⟩

end Signoff.Json
