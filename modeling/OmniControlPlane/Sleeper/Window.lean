import Mathlib.Data.Int.ModEq
import OmniControlPlane.Lib.Text

/-! # The daily window of a sleeper node

The control plane (`sleeper.ts`) and the agent script embedded in `agent.ts` compute the window of
a day from the same FNV-1a hash. The namespace `Agent` is the script's side, in Python. Its
window test misses the minutes before midnight of a window that reaches midnight.
-/

namespace OmniControlPlane.Sleeper

open Lib

def SLEEPER_WINDOW_MINUTES : ℤ := 60
def SLEEPER_JITTER_MINUTES : ℤ := 9

/-- `hash ^= charCodeAt(index)` and `Math.imul(hash, 0x01000193) >>> 0`. -/
def fnv1a (value : String) : UInt32 :=
  (utf16 value).foldl (fun hash unit => (hash ^^^ unit.toUInt32) * 0x01000193) 0x811c9dc5

structure SleeperWindow where
  startMinute : ℤ
  endMinute : ℤ
  jitter : ℤ
deriving DecidableEq, Repr

/-- JavaScript's `%` keeps the sign of its left operand. -/
def sleeperWindowFor (deploymentId : String) (anchorHour : ℤ) (day : String) : SleeperWindow :=
  let span := SLEEPER_JITTER_MINUTES * 2 + 1
  let jitter := ((fnv1a (deploymentId ++ "|" ++ day)).toNat : ℤ).tmod span - SLEEPER_JITTER_MINUTES
  let raw := anchorHour * 60 + jitter
  let startMinute := (raw.tmod 1440 + 1440).tmod 1440
  ⟨startMinute, (startMinute + SLEEPER_WINDOW_MINUTES).tmod 1440, jitter⟩

namespace Agent

def fnv1a (text : String) : ℕ :=
  (utf8 text).foldl (fun h ch => (h ^^^ ch.toNat) * 0x01000193 &&& 0xFFFFFFFF) 0x811C9DC5

/-- `start`; Python's `%` is never negative here. -/
def start (deployment : String) (anchor : ℤ) (day : String) : ℤ :=
  let jitter := (fnv1a (deployment ++ "|" ++ day) : ℤ).fmod 19 - 9
  (anchor * 60 + jitter).fmod 1440

/-- `in_window` -/
def inWindow (start now : ℤ) : Prop :=
  start ≤ now ∧ now < (start + 60).fmod 1440 ∨ start + 60 > 1440 ∧ now < (start + 60).fmod 1440

instance (start now : ℤ) : Decidable (inWindow start now) :=
  inferInstanceAs (Decidable (_ ∧ _ ∨ _ ∧ _))

end Agent

/-! ## The two hashes -/

private theorem fnv1a_fold (units : List UInt16) (bytes : List UInt8) (hash : UInt32)
    (same : units.map UInt16.toNat = bytes.map UInt8.toNat) :
    (units.foldl (fun hash unit => (hash ^^^ unit.toUInt32) * 0x01000193) hash).toNat =
      bytes.foldl (fun h ch => (h ^^^ ch.toNat) * 0x01000193 &&& 0xFFFFFFFF) hash.toNat := by
  induction units generalizing bytes hash with
  | nil =>
    obtain rfl : bytes = [] := by simpa using same.symm
    rfl
  | cons unit units ih =>
    cases bytes with
    | nil => contradiction
    | cons byte bytes =>
      obtain ⟨head, tail⟩ := List.cons.inj same
      rw [List.foldl_cons, List.foldl_cons, ih _ _ tail]
      congr 1
      rw [UInt32.toNat_mul, UInt32.toNat_xor, UInt16.toNat_toUInt32, head,
        show (0xFFFFFFFF : ℕ) = 2 ^ 32 - 1 from rfl, Nat.and_two_pow_sub_one_eq_mod]
      rfl

/-- On ASCII text the agent computes the hash of the control plane. -/
theorem fnv1a_agrees {text : String} (ascii : Ascii text) : Agent.fnv1a text = (fnv1a text).toNat :=
  (fnv1a_fold (utf16 text) (utf8 text) 0x811c9dc5 (utf16_eq_utf8 ascii)).symm

/-! ## The two windows -/

/-- The minutes `start`, …, `start + 59` of the day, around midnight where they reach it. -/
def WindowMinute (start minute : ℤ) : Prop := ∃ offset, 0 ≤ offset ∧ offset < 60 ∧ minute = (start + offset) % 1440

/-- The minute is one of the minutes before midnight of a window that reaches midnight. The anchor
and the residue of the day's hash decide whether there are any. -/
def BeforeMidnight (anchorHour : ℤ) (hash : ℕ) (minute : ℤ) : Prop :=
  anchorHour = 23 ∧ 9 ≤ hash % 19 ∧ 1371 + (hash % 19 : ℕ) ≤ minute ∨
    anchorHour = 0 ∧ hash % 19 < 9 ∧ 1431 + (hash % 19 : ℕ) ≤ minute

/-- The start of a window, in the arithmetic of whole numbers. -/
theorem startMinute_eq (anchorHour : ℤ) (id day : String) :
    (sleeperWindowFor id anchorHour day).startMinute =
      (anchorHour * 60 + ((fnv1a (id ++ "|" ++ day)).toNat % 19 : ℕ) - 9) % 1440 := by
  have residue : ((fnv1a (id ++ "|" ++ day)).toNat : ℤ).tmod 19 = ((fnv1a (id ++ "|" ++ day)).toNat % 19 : ℕ) :=
    Int.tmod_eq_emod_of_nonneg (by omega)
  simp only [sleeperWindowFor, SLEEPER_JITTER_MINUTES, Int.reduceMul, Int.reduceAdd, residue]
  generalize fixed : (fnv1a (id ++ "|" ++ day)).toNat % 19 = jitter
  have bounded : jitter < 19 := by omega
  have wrapped : 0 ≤ (anchorHour * 60 + (jitter - 9 : ℤ)).tmod 1440 + 1440 := by
    have := Int.lt_tmod_of_pos (anchorHour * 60 + (jitter - 9 : ℤ)) (show (0 : ℤ) < 1440 by decide)
    omega
  rw [Int.tmod_eq_emod_of_nonneg wrapped, Int.tmod_eq_emod]
  split <;> omega

theorem start_eq {id day : String} (anchorHour : ℤ) (asciiId : Ascii id) (asciiDay : Ascii day) :
    Agent.start id anchorHour day =
      (anchorHour * 60 + ((fnv1a (id ++ "|" ++ day)).toNat % 19 : ℕ) - 9) % 1440 := by
  have ascii : Ascii (id ++ "|" ++ day) := (asciiId.append (by decide)).append asciiDay
  simp only [Agent.start, fnv1a_agrees ascii, Int.fmod_eq_emod_of_nonneg _ (show (0 : ℤ) ≤ 19 by decide),
    Int.fmod_eq_emod_of_nonneg _ (show (0 : ℤ) ≤ 1440 by decide), Int.natCast_mod]
  omega

theorem windowMinute_iff {start minute : ℤ} (starts : 0 ≤ start ∧ start < 1440)
    (minutes : 0 ≤ minute ∧ minute < 1440) : WindowMinute start minute ↔
      start ≤ minute ∧ minute < start + 60 ∨ minute + 1440 < start + 60 := by
  constructor
  · rintro ⟨offset, nonneg, bound, rfl⟩
    omega
  · rintro (⟨after, before⟩ | wrapped)
    · exact ⟨minute - start, by omega, by omega, by omega⟩
    · exact ⟨minute + 1440 - start, by omega, by omega, by omega⟩

/-- In a window that starts at `start` the test misses the minutes before midnight, if the window
reaches it, and agrees everywhere else. -/
theorem inWindow_iff {start minute : ℤ} (starts : 0 ≤ start ∧ start < 1440)
    (minutes : 0 ≤ minute ∧ minute < 1440) :
    (Agent.inWindow start minute ↔ WindowMinute start minute) ↔ ¬ (1380 ≤ start ∧ start ≤ minute) := by
  rw [windowMinute_iff starts minutes, Agent.inWindow,
    Int.fmod_eq_emod_of_nonneg _ (show (0 : ℤ) ≤ 1440 by decide)]
  omega

/-- The agent computes the start of the control plane, and it is awake in exactly the minutes of the
window, if and only if the minute is not one before midnight of a window that reaches midnight. -/
theorem window_agreement_iff (deploymentId day : String) (anchorHour minute : ℤ)
    (asciiId : Ascii deploymentId) (asciiDay : Ascii day) (anchors : 0 ≤ anchorHour ∧ anchorHour ≤ 23)
    (minutes : 0 ≤ minute ∧ minute < 1440) :
    (Agent.start deploymentId anchorHour day = (sleeperWindowFor deploymentId anchorHour day).startMinute ∧
      (Agent.inWindow (Agent.start deploymentId anchorHour day) minute ↔
        WindowMinute (sleeperWindowFor deploymentId anchorHour day).startMinute minute)) ↔
    ¬ BeforeMidnight anchorHour (fnv1a (deploymentId ++ "|" ++ day)).toNat minute := by
  rw [startMinute_eq anchorHour deploymentId day, start_eq anchorHour asciiId asciiDay]
  generalize fixed : (fnv1a (deploymentId ++ "|" ++ day)).toNat = hash
  have jitter : hash % 19 < 19 := Nat.mod_lt _ (by decide)
  rw [inWindow_iff (by omega) minutes, BeforeMidnight]
  omega

namespace Sample

def deploymentId : String := "11111111-1111-4111-8111-111111111111"

end Sample

/-- A window at three in the morning. -/
theorem window_agreement_iff_sample :
    Agent.start Sample.deploymentId 3 "2026-09-12" =
      (sleeperWindowFor Sample.deploymentId 3 "2026-09-12").startMinute ∧
    (Agent.inWindow (Agent.start Sample.deploymentId 3 "2026-09-12") 200 ↔
      WindowMinute (sleeperWindowFor Sample.deploymentId 3 "2026-09-12").startMinute 200) := by
  refine (window_agreement_iff Sample.deploymentId "2026-09-12" 3 200 (by decide) (by decide)
    (by decide) (by decide)).mpr ?_
  rintro (⟨anchor, -, -⟩ | ⟨anchor, -, -⟩) <;> contradiction

/-- The window of this day starts at 23:05, and at 23:10 the agent sleeps. -/
theorem asleep_before_midnight :
    (sleeperWindowFor Sample.deploymentId 23 "2026-09-12").startMinute = 1385 ∧ WindowMinute 1385 1390 ∧
    Agent.start Sample.deploymentId 23 "2026-09-12" = 1385 ∧ ¬ Agent.inWindow 1385 1390 := by
  exact ⟨by decide +kernel, ⟨5, by decide, by decide, by decide⟩, by decide +kernel, by decide⟩

end OmniControlPlane.Sleeper
