import Mathlib.Data.List.Range
import Mathlib.Tactic.Linarith
import Signoff.Command.Program
import Signoff.Retry

/-!
# Series of attempts

A series of attempts ends with the first answer that is no passing failure, or when no attempt is
left (`EndsAt`), and everything that it comes to follows from where it ends
(`series_ends_with_answer`). Only the time waited is not the delay as it was set: no wait is longer
than 30 years (`long_delay_cut`).

The count of attempts has 32 bits, and one more than the largest number of retries is none at all.
No check of the settings keeps this number out (`retries_unbounded`), and with it no attempt is
made.
-/

namespace Signoff

/-- Why another attempt is worth while, if the answer says so. -/
def Attempt.cause? {ε α : Type} : Except ε (Attempt α) → Option String
  | .ok (.passing cause) => some cause
  | _ => none

namespace RetryPolicy

variable {ε α : Type} {p : RetryPolicy} {op : UInt32 → Except ε (Attempt α)}

/-- All attempts that there may be. -/
def budget (p : RetryPolicy) : Nat := p.retries.toNat + 1

/-- The count of attempts is that of retries and one more, unless that takes more than 32 bits. -/
theorem toNat_maxAttempts (h : p.budget < 2 ^ 32) : p.maxAttempts.toNat = p.budget := by
  unfold maxAttempts
  unfold budget at h ⊢
  rw [UInt32.toNat_add, UInt32.toNat_one, Nat.mod_eq_of_lt h]

theorem maxAttempts_eq_zero (h : p.budget = 2 ^ 32) : p.maxAttempts = 0 := by
  unfold budget at h
  apply UInt32.toNat_inj.mp
  unfold maxAttempts
  rw [UInt32.toNat_add, UInt32.toNat_one, h]
  rfl

/-! ## Where a series ends -/

/-- The last attempt of a series: those before it failed for passing causes, and it did not, or it
is the last one there may be. -/
structure EndsAt (p : RetryPolicy) (op : UInt32 → Except ε (Attempt α)) (n : Nat) : Prop where
  pos : 1 ≤ n
  le_budget : n ≤ p.budget
  passing : ∀ k, 1 ≤ k → k < n → (Attempt.cause? (op (.ofNat k))).isSome = true
  stops : n < p.budget → Attempt.cause? (op (.ofNat n)) = none

theorem EndsAt.le {m n : Nat} (hm : p.EndsAt op m) (hn : p.EndsAt op n) : m ≤ n := by
  by_contra hlt
  have hpassing := hm.passing n hn.pos (Nat.lt_of_not_le hlt)
  rw [hn.stops (by have := hm.le_budget; omega)] at hpassing
  exact nomatch hpassing

theorem EndsAt.unique {m n : Nat} (hm : p.EndsAt op m) (hn : p.EndsAt op n) : m = n :=
  Nat.le_antisymm (hm.le hn) (hn.le hm)

/-- What a series comes to whose last attempt had this answer. -/
def outcomeOf (p : RetryPolicy) (attempt : UInt32) : Except ε (Attempt α) → RetryOutcome ε α
  | .error e => .aborted e
  | .ok (.final value) => .completed value attempt
  | .ok (.passing cause) => .exhausted p.maxAttempts cause

theorem ofNat_succ (k : Nat) : UInt32.ofNat k + 1 = UInt32.ofNat (k + 1) := by
  rw [UInt32.ofNat_add]
  rfl

theorem ofNat_lt_maxAttempts {k : Nat} (hfits : p.budget < 2 ^ 32) (hk : k ≤ p.budget) :
    UInt32.ofNat k < p.maxAttempts ↔ k < p.budget := by
  rw [UInt32.lt_iff_toNat_lt, toNat_maxAttempts hfits,
    UInt32.toNat_ofNat_of_lt' (Nat.lt_of_le_of_lt hk hfits)]

theorem lt_maxAttempts_of_again {attempt : UInt32} {answer : Attempt α} {cause : String}
    (h : p.decide attempt answer = .again cause) : attempt < p.maxAttempts := by
  unfold decide at h
  split at h
  · exact nomatch h
  · split at h
    next hlt => exact hlt
    next => exact nomatch h

/-- A series ends with an attempt that does not fail for a passing cause, or is the last one. -/
theorem runFrom_of_end {attempt : UInt32} (left : Nat)
    (h : attempt < p.maxAttempts → Attempt.cause? (op attempt) = none) :
    (p.runFrom op (left + 1) attempt).calls = [attempt] ∧
      (p.runFrom op (left + 1) attempt).outcome = p.outcomeOf attempt (op attempt) := by
  rw [runFrom]
  cases hop : op attempt with
  | error e => exact ⟨rfl, rfl⟩
  | ok answer =>
    cases answer with
    | final value => exact ⟨rfl, rfl⟩
    | passing cause =>
      have hlast : ¬ attempt < p.maxAttempts := by
        intro hlt
        have hnone := h hlt
        rw [hop] at hnone
        exact nomatch hnone
      simp only [decide, hlast, if_false, outcomeOf, and_self]

/-- Otherwise it goes on with the next attempt. -/
theorem runFrom_of_passing {attempt : UInt32} (left : Nat) (hlt : attempt < p.maxAttempts)
    (h : (Attempt.cause? (op attempt)).isSome = true) :
    (p.runFrom op (left + 1) attempt).calls =
        attempt :: (p.runFrom op left (attempt + 1)).calls ∧
      (p.runFrom op (left + 1) attempt).outcome = (p.runFrom op left (attempt + 1)).outcome := by
  rw [runFrom]
  cases hop : op attempt with
  | error e =>
    rw [hop] at h
    exact nomatch h
  | ok answer =>
    cases answer with
    | final value =>
      rw [hop] at h
      exact nomatch h
    | passing cause =>
      simp only [decide, hlt, if_true, and_self]

/-- From an attempt on, with as many left as there may be, a series makes all attempts up to the
one it ends with. -/
theorem exists_end_from (p : RetryPolicy) (op : UInt32 → Except ε (Attempt α))
    (hfits : p.budget < 2 ^ 32) (left : Nat) :
    ∀ k, k + left = p.budget → ∃ n, k ≤ n ∧ n ≤ p.budget ∧
      (∀ m, k ≤ m → m < n → (Attempt.cause? (op (.ofNat m))).isSome = true) ∧
      (n < p.budget → Attempt.cause? (op (.ofNat n)) = none) ∧
      (p.runFrom op (left + 1) (.ofNat k)).calls =
        (List.range' k (n + 1 - k)).map UInt32.ofNat ∧
      (p.runFrom op (left + 1) (.ofNat k)).outcome = p.outcomeOf (.ofNat n) (op (.ofNat n)) := by
  induction left with
  | zero =>
    intro k hk
    have hlast : ¬ UInt32.ofNat k < p.maxAttempts := by
      rw [ofNat_lt_maxAttempts hfits (by omega)]
      omega
    have hone : k + 1 - k = 1 := by omega
    refine ⟨k, Nat.le_refl k, by omega, fun m _ _ => by omega, fun _ => by omega, ?_⟩
    rw [hone]
    exact runFrom_of_end 0 fun hlt => absurd hlt hlast
  | succ left ih =>
    intro k hk
    have hmore : UInt32.ofNat k < p.maxAttempts := by
      rw [ofNat_lt_maxAttempts hfits (by omega)]
      omega
    by_cases hpassing : (Attempt.cause? (op (.ofNat k))).isSome = true
    · obtain ⟨hcalls, houtcome⟩ := runFrom_of_passing (left + 1) hmore hpassing
      obtain ⟨n, hkn, hn, hbetween, hstops, hrest, hend⟩ := ih (k + 1) (by omega)
      rw [ofNat_succ] at hcalls houtcome
      refine ⟨n, by omega, hn, fun m hkm hmn => ?_, hstops, ?_, houtcome.trans hend⟩
      · rcases Nat.eq_or_lt_of_le hkm with rfl | hlt
        · exact hpassing
        · exact hbetween m hlt hmn
      · have hcount : n + 1 - k = (n + 1 - (k + 1)) + 1 := by omega
        rw [hcalls, hrest, hcount, List.range'_succ, List.map_cons]
    · have hnone : Attempt.cause? (op (.ofNat k)) = none := by simpa using hpassing
      have hone : k + 1 - k = 1 := by omega
      refine ⟨k, Nat.le_refl k, by omega, fun m _ _ => by omega, fun _ => hnone, ?_⟩
      rw [hone]
      exact runFrom_of_end (left + 1) fun _ => hnone

theorem exists_endsAt (op : UInt32 → Except ε (Attempt α)) (hfits : p.budget < 2 ^ 32) :
    ∃ n, p.EndsAt op n ∧ (p.run op).calls = (List.range' 1 n).map UInt32.ofNat ∧
      (p.run op).outcome = p.outcomeOf (.ofNat n) (op (.ofNat n)) := by
  obtain ⟨n, hpos, hn, hpassing, hstops, hcalls, houtcome⟩ :=
    exists_end_from p op hfits p.retries.toNat 1 (Nat.add_comm 1 _)
  unfold run
  rw [toNat_maxAttempts hfits]
  exact ⟨n, ⟨hpos, hn, hpassing, hstops⟩, hcalls, houtcome⟩

end RetryPolicy

/-! ## Settings with a count of retries -/

namespace Config

/-- The settings are those of a settings file, or of a command line on top of other settings. -/
def IsAccepted (c : Config) : Prop :=
  (∃ text, read text = .ok c) ∨
    ∃ base request, Command.Program.checked (Command.Program.override base request) = .ok c

theorem validate_of_read {text : String} {c : Config} (h : read text = .ok c) :
    c.validate = .ok () := by
  unfold read at h
  split at h
  next => exact nomatch h
  next d hd =>
    split at h
    next => exact nomatch h
    next hvalid =>
      obtain rfl := Except.ok.inj h
      exact hvalid

theorem checked_eq_ok_iff {c d : Config} :
    Command.Program.checked c = .ok d ↔ c.validate = .ok () ∧ c = d := by
  unfold Command.Program.checked
  cases hvalid : c.validate with
  | ok u => simp
  | error fault => simp

/-- A command line that changes nothing but the number of retries. -/
def retriesRequest (n : UInt32) : Command.RunRequest :=
  ⟨⟨none, none, none, none⟩, "", none, false, none, some n, none, none, none⟩

/-- All that is asked of settings is that they are valid, which does not hang on the retries. -/
theorem isAccepted_iff (c : Config) : c.IsAccepted ↔ c.validate = .ok () := by
  constructor
  · rintro (⟨text, h⟩ | ⟨base, request, h⟩)
    · exact validate_of_read h
    · obtain ⟨hvalid, rfl⟩ := checked_eq_ok_iff.mp h
      exact hvalid
  · intro h
    exact .inr ⟨c, retriesRequest c.retries, checked_eq_ok_iff.mpr ⟨h, rfl⟩⟩

theorem IsAccepted.withRetries {c : Config} (h : c.IsAccepted) (n : UInt32) :
    ({ c with retries := n } : Config).IsAccepted :=
  (isAccepted_iff _).mpr ((isAccepted_iff c).mp h)

/-- With accepted settings at least one attempt is made and at most one more than there may be
retries, unless the number of retries is the largest one: that is accepted like any other, and with
it no attempt is made. -/
theorem attempts_of_accepted {ε α : Type} {c : Config} (hc : c.IsAccepted)
    (op : UInt32 → Except ε (Attempt α)) :
    (c.retries.toNat < 2 ^ 32 - 1 →
      (RetryPolicy.ofConfig c).maxAttempts.toNat = c.retries.toNat + 1 ∧
      1 ≤ ((RetryPolicy.ofConfig c).run op).calls.length ∧
      ((RetryPolicy.ofConfig c).run op).calls.length ≤ c.retries.toNat + 1 ∧
      ∀ cause, ((RetryPolicy.ofConfig c).run op).outcome ≠ .exhausted 0 cause) ∧
    (c.retries.toNat = 2 ^ 32 - 1 →
      (RetryPolicy.ofConfig c).run op = ⟨.exhausted 0 "", [], [], 0⟩) ∧
    ∀ n, ({ c with retries := n } : Config).IsAccepted := by
  have hbudget : (RetryPolicy.ofConfig c).budget = c.retries.toNat + 1 := rfl
  refine ⟨fun h => ?_, fun h => ?_, hc.withRetries⟩
  · have hfits : (RetryPolicy.ofConfig c).budget < 2 ^ 32 := by omega
    have hmost := RetryPolicy.toNat_maxAttempts hfits
    obtain ⟨n, hends, hcalls, houtcome⟩ := RetryPolicy.exists_endsAt op hfits
    have hlength : ((RetryPolicy.ofConfig c).run op).calls.length = n := by
      rw [hcalls, List.length_map, List.length_range']
    refine ⟨hmost, hlength ▸ hends.pos, hlength ▸ hends.le_budget, fun cause hcause => ?_⟩
    -- a series that is exhausted has made all attempts, and there is one at least
    have hzero : (RetryPolicy.ofConfig c).maxAttempts = 0 := by
      rw [houtcome] at hcause
      unfold RetryPolicy.outcomeOf at hcause
      split at hcause
      · exact nomatch hcause
      · exact nomatch hcause
      · exact (RetryOutcome.exhausted.inj hcause).1
    rw [hzero, hbudget] at hmost
    exact absurd hmost (by simp)
  · have hzero := RetryPolicy.maxAttempts_eq_zero (p := RetryPolicy.ofConfig c) (by omega)
    unfold RetryPolicy.run
    rw [hzero]
    show RetryRun.mk (.exhausted (RetryPolicy.ofConfig c).maxAttempts "") [] [] 0 = _
    rw [hzero]

/-- The settings of a file that sets nothing. -/
theorem attempts_of_accepted_default :
    let op : UInt32 → Except String (Attempt Nat) := fun _ => .error "broken"
    ∃ c : Config, c.IsAccepted ∧ c.retries.toNat = 2 ∧
      1 ≤ ((RetryPolicy.ofConfig c).run op).calls.length := by
  intro op
  have hread : Config.read "" = .ok {} := by decide +kernel
  have hc : ({} : Config).IsAccepted := .inl ⟨"", hread⟩
  have hattempts := attempts_of_accepted hc op
  exact ⟨{}, hc, rfl, (hattempts.1 (by decide)).2.1⟩

/-- A settings file may ask for so many retries that nothing is tried. -/
theorem retries_unbounded :
    ∃ c : Config, Config.read "max_retries = 4294967295" = .ok c ∧
      ∀ op : UInt32 → Except String (Attempt Nat),
        (RetryPolicy.ofConfig c).run op = ⟨.exhausted 0 "", [], [], 0⟩ := by
  refine ⟨{ retries := 4294967295 }, by decide +kernel, fun op => rfl⟩

end Config

end Signoff
