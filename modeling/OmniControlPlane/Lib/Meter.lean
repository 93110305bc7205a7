import Mathlib.Tactic.Common

/-! # A meter that is read once

A relay writes bytes in one direction and passes what it receives in the other one on to a peer, as
long as that peer is open. It counts the bytes it has written and the bytes it has received, and
reports both counts when it finishes, if it reports at all.

`gap` is what the report misses so far. No step lowers it, and only a write or a receipt raises it.
-/

namespace OmniControlPlane.Lib

structure Meter where
  isOpen : Bool := true
  finished : Bool := false
  up : ℕ := 0
  down : ℕ := 0
  written : ℕ := 0
  sent : ℕ := 0
  reportedUp : ℕ := 0
  reportedDown : ℕ := 0
deriving DecidableEq, Repr

namespace Meter

def close (meter : Meter) : Meter := { meter with isOpen := false }

/-- The first call closes the peer and reports. -/
def finish (reports : Bool) (meter : Meter) : Meter :=
  if meter.finished then meter
  else { meter with
    isOpen := false
    finished := true
    reportedUp := if reports then meter.up else 0
    reportedDown := if reports then meter.down else 0 }

def write (bytes : ℕ) (meter : Meter) : Meter :=
  { meter with up := meter.up + bytes, written := meter.written + bytes }

def receive (bytes : ℕ) (meter : Meter) : Meter :=
  { meter with down := meter.down + bytes, sent := if meter.isOpen then meter.sent + bytes else meter.sent }

/-- The report says what went through. -/
def Exact (meter : Meter) : Prop := meter.reportedUp = meter.written ∧ meter.reportedDown = meter.sent

structure Sound (reports : Bool) (meter : Meter) : Prop where
  counting : meter.finished = false → meter.up = meter.written ∧ meter.sent ≤ meter.down ∧
    meter.reportedUp = 0 ∧ meter.reportedDown = 0
  closed : meter.finished = true → meter.isOpen = false
  up : meter.reportedUp ≤ meter.written
  down : reports = true → meter.finished = true → meter.sent ≤ meter.reportedDown
  silent : reports = false → meter.reportedUp = 0 ∧ meter.reportedDown = 0

/-- The bytes by which the report is, or is going to be, wrong. -/
def gap (reports : Bool) (meter : Meter) : ℕ :=
  if reports = false then meter.written + meter.sent
  else if meter.finished then (meter.written - meter.reportedUp) + (meter.reportedDown - meter.sent)
  else meter.down - meter.sent

variable {reports : Bool} {meter : Meter}

theorem sound_new : Sound reports {} where
  counting _ := ⟨rfl, Nat.le_refl _, rfl, rfl⟩
  closed := nofun
  up := Nat.le_refl _
  down _ := nofun
  silent _ := ⟨rfl, rfl⟩

theorem Sound.close (sound : Sound reports meter) : Sound reports meter.close where
  counting := sound.counting
  closed _ := rfl
  up := sound.up
  down := sound.down
  silent := sound.silent

@[simp] theorem gap_close : meter.close.gap reports = meter.gap reports := rfl

theorem Sound.finish (sound : Sound reports meter) : Sound reports (meter.finish reports) := by
  unfold Meter.finish
  cases ended : meter.finished with
  | true => exact sound
  | false =>
    obtain ⟨counted, passed, _, _⟩ := sound.counting ended
    constructor
    · nofun
    · intro _
      rfl
    · cases reports <;> simp [counted]
    · intro reporting _
      simpa [reporting] using passed
    · intro quiet
      simp [quiet]

theorem gap_finish (sound : Sound reports meter) : (meter.finish reports).gap reports = meter.gap reports := by
  unfold Meter.finish
  cases ended : meter.finished with
  | true => rfl
  | false =>
    obtain ⟨counted, _⟩ := sound.counting ended
    cases reports with
    | true => simp [gap, ended, counted]
    | false => simp [gap]

theorem Sound.write (sound : Sound reports meter) (bytes : ℕ) : Sound reports (meter.write bytes) where
  counting ended := by
    obtain ⟨counted, rest⟩ := sound.counting ended
    exact ⟨congrArg (· + bytes) counted, rest⟩
  closed := sound.closed
  up := Nat.le_add_right_of_le sound.up
  down := sound.down
  silent := sound.silent

/-- A write is missed when it completes after the report, or without one. -/
theorem gap_write (sound : Sound reports meter) (bytes : ℕ) :
    meter.gap reports ≤ (meter.write bytes).gap reports ∧
      ((meter.write bytes).gap reports = meter.gap reports ↔
        bytes = 0 ∨ reports = true ∧ meter.finished = false) := by
  have covered := sound.up
  cases reports with
  | false =>
    simp only [gap, Meter.write]
    simp
  | true =>
    cases ended : meter.finished with
    | true =>
      simp only [gap, Meter.write, ended]
      simp
      omega
    | false => simp [gap, Meter.write, ended]

theorem Sound.receive (sound : Sound reports meter) (bytes : ℕ) : Sound reports (meter.receive bytes) where
  counting ended := by
    obtain ⟨counted, passed, rest⟩ := sound.counting ended
    refine ⟨counted, ?_, rest⟩
    simp only [Meter.receive]
    split <;> omega
  closed := sound.closed
  up := sound.up
  down reporting ended := by
    have shut : meter.isOpen = false := sound.closed ended
    simpa [Meter.receive, shut] using sound.down reporting ended
  silent := sound.silent

/-- A receipt is counted though the peer is closed, or passed on without a report. -/
theorem gap_receive (sound : Sound reports meter) (bytes : ℕ) :
    meter.gap reports ≤ (meter.receive bytes).gap reports ∧
      ((meter.receive bytes).gap reports = meter.gap reports ↔
        bytes = 0 ∨ if reports then meter.finished = true ∨ meter.isOpen = true else meter.isOpen = false) := by
  cases reports with
  | false =>
    cases isOpen : meter.isOpen with
    | true => simp [gap, Meter.receive, isOpen]
    | false => simp [gap, Meter.receive, isOpen]
  | true =>
    cases ended : meter.finished with
    | true =>
      have shut := sound.closed ended
      simp [gap, Meter.receive, ended, shut]
    | false =>
      obtain ⟨_, passed, _⟩ := sound.counting ended
      cases isOpen : meter.isOpen with
      | true => simp [gap, Meter.receive, ended, isOpen]; omega
      | false => simp [gap, Meter.receive, ended, isOpen]; omega

/-- The meter closes its peer, or finishes, and moves no byte. -/
inductive Settles (reports : Bool) (meter : Meter) : Meter → Prop
  | same : Settles reports meter meter
  | close {after : Meter} : Settles reports meter after → Settles reports meter after.close
  | finish {after : Meter} : Settles reports meter after → Settles reports meter (after.finish reports)

theorem Settles.trans {mid after : Meter} (first : Settles reports meter mid) (second : Settles reports mid after) :
    Settles reports meter after := by
  induction second with
  | same => exact first
  | close _ ih => exact ih.close
  | finish _ ih => exact ih.finish

theorem Sound.settles {after : Meter} (sound : Sound reports meter) (settles : Settles reports meter after) :
    Sound reports after ∧ after.gap reports = meter.gap reports := by
  induction settles with
  | same => exact ⟨sound, rfl⟩
  | close _ ih => exact ⟨ih.1.close, ih.2⟩
  | finish _ ih => exact ⟨ih.1.finish, (gap_finish ih.1).trans ih.2⟩

/-- A finished meter is exact when nothing is missed. -/
theorem exact_iff (sound : Sound reports meter) (ended : meter.finished = true) :
    meter.Exact ↔ meter.gap reports = 0 := by
  have covered := sound.up
  unfold Exact gap
  cases reports with
  | false =>
    obtain ⟨noUp, noDown⟩ := sound.silent rfl
    simp only [noUp, noDown, if_true]
    omega
  | true =>
    have passed := sound.down rfl ended
    simp only [ended, if_true, Bool.true_eq_false, if_false]
    omega

end Meter

end OmniControlPlane.Lib
