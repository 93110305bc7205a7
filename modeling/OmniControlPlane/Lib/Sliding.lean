import Mathlib.Data.List.Count
import Mathlib.Tactic.Common

/-! # Limits over every interval

A log of times keeps a limit when no half-open interval of a fixed length holds more of them. Where a
time is added that is not before the others, only the interval that ends with it can break the limit.
-/

namespace OmniControlPlane.Lib.Sliding

variable {limit length now : ℕ} {log : List ℕ}

/-- How many of the times lie in the interval of a length that begins at `start`. -/
def inside (length start : ℕ) (log : List ℕ) : ℕ := log.countP fun time => start ≤ time ∧ time < start + length

/-- No interval of the length holds more times than the limit. -/
def Keeps (limit length : ℕ) (log : List ℕ) : Prop := ∀ start, inside length start log ≤ limit

/-- How many of the times are less than a length before `now`. -/
def recent (length now : ℕ) (log : List ℕ) : ℕ := log.countP fun time => now < time + length

theorem keeps_nil : Keeps limit length [] := fun _ => Nat.zero_le _

theorem inside_cons (start time : ℕ) (log : List ℕ) : inside length start (time :: log) =
    inside length start log + if start ≤ time ∧ time < start + length then 1 else 0 := by
  rw [inside, List.countP_cons]
  simp only [decide_eq_true_eq]
  rfl

theorem recent_append (first second : List ℕ) :
    recent length now (first ++ second) = recent length now first + recent length now second :=
  List.countP_append

/-- An interval that ends behind `now` holds only recent times. -/
theorem inside_le_recent {start : ℕ} (reaches : now < start + length) : inside length start log ≤ recent length now log := by
  apply List.countP_mono_left
  intro time _ within
  rw [decide_eq_true_eq] at within ⊢
  omega

/-- The interval that ends with `now` holds all recent times. -/
theorem recent_le_inside (past : ∀ time ∈ log, time ≤ now) :
    recent length now log ≤ inside length (now + 1 - length) log := by
  apply List.countP_mono_left
  intro time found near
  have before := past time found
  rw [decide_eq_true_eq] at near ⊢
  omega

/-- One more time keeps the limit exactly when the interval that ends with it had room. -/
theorem keeps_cons_iff (past : ∀ time ∈ log, time ≤ now) (kept : Keeps limit length log) (positive : 0 < limit) :
    Keeps limit length (now :: log) ↔ recent length now log < limit := by
  constructor
  · intro keeps
    by_cases instant : length = 0
    · subst instant
      have idle : recent 0 now log = 0 := by
        rw [recent, List.countP_eq_zero]
        intro time found near
        have before := past time found
        rw [decide_eq_true_eq] at near
        omega
      omega
    · have room := keeps (now + 1 - length)
      rw [inside_cons, if_pos (by omega)] at room
      have all : recent length now log ≤ _ := recent_le_inside past
      omega
  · intro room start
    rw [inside_cons]
    split
    · next within =>
      have few : _ ≤ recent length now log := inside_le_recent within.2
      omega
    · exact kept start

end OmniControlPlane.Lib.Sliding
