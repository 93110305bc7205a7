import OmniControlPlane.Panel.Guard

/-! # The guard's ban

A ban is meant for the third window in a row with calls over the limit, but a strike is a call over the
limit, and every admitted call clears them. With a limit of one or more each window begins with an
admitted call, so strikes never reach from one window into the next: three calls over the limit in one
window are a ban, and three windows with two each are none.
-/

namespace OmniControlPlane.Panel

open Lib

namespace Guard

/-- A call finds the window over. -/
def Record.Restarts (record : Record) (windowSec now : ℕ) : Prop :=
  ∃ window, record.window = some window ∧ window.start + windowSec * 1000 < now

instance (record : Record) (windowSec now : ℕ) : Decidable (record.Restarts windowSec now) :=
  match same : record.window with
  | none => isFalse (by rintro ⟨window, found, -⟩; rw [same] at found; contradiction)
  | some window =>
    if late : window.start + windowSec * 1000 < now then isTrue ⟨window, same, late⟩
    else isFalse (by rintro ⟨other, found, after⟩; rw [same] at found; cases found; exact late after)

/-- A record with the windows so far: whether the current one and, the latest first, the earlier ones had
a call over the limit. -/
structure Abuse where
  record : Record := {}
  exceeded : Bool := false
  before : List Bool := []
  /-- The calls over the limit since the last admitted call, or the last ban. -/
  since : ℕ := 0
  now : ℕ

variable {record : Record} {abuse next : Abuse} {limit windowSec now : ℕ}

/-- The windows as a call finds them. -/
def Abuse.turn (abuse : Abuse) (windowSec now : ℕ) : Bool × List Bool :=
  if abuse.record.Restarts windowSec now then (false, abuse.exceeded :: abuse.before) else (abuse.exceeded, abuse.before)

instance (record : Record) (now : ℕ) : Decidable (record.Banned now) := decidable_of_iff _ isBanned_iff

def Abuse.step? (limit windowSec : ℕ) (abuse : Abuse) (now : ℕ) : Option Abuse :=
  if abuse.now ≤ now then
    let (record, answer) := hit abuse.record limit windowSec now
    let (exceeded, before) := abuse.turn windowSec now
    if abuse.record.Banned now then some { abuse with record := record, now := now }
    else if answer.allowed then some ⟨record, exceeded, before, 0, now⟩
    else some ⟨record, true, before, if answer.banned then 0 else abuse.since + 1, now⟩
  else none

def abuses (limit windowSec : ℕ) : Machine Abuse ℕ := ⟨Abuse.step? limit windowSec⟩

/-- The call is over the limit. -/
def Record.Over (record : Record) (limit windowSec now : ℕ) : Prop :=
  limit ≤ (currentWindow record.window windowSec now).count

/-- The two windows before the call's own both had calls over the limit. -/
def Abuse.Twice (abuse : Abuse) (windowSec now : ℕ) : Prop := (abuse.turn windowSec now).2.take 2 = [true, true]

/-- The call is over the limit in the third such window in a row. -/
def Abuse.Third (abuse : Abuse) (limit windowSec now : ℕ) : Prop :=
  abuse.record.Over limit windowSec now ∧ abuse.Twice windowSec now

/-- A key that is not banned is banned by this call for fifteen minutes exactly in the third window in a
row with calls over the limit. -/
def Lawful (limit windowSec : ℕ) (abuse : Abuse) (now : ℕ) : Prop :=
  ¬ abuse.record.Banned now →
    ((hit abuse.record limit windowSec now).2.banned = true → abuse.Third limit windowSec now) ∧
    (abuse.Third limit windowSec now → (hit abuse.record limit windowSec now).2.banned = true ∧
      ∀ time, now ≤ time → time ≤ now + BAN_MS → (hit abuse.record limit windowSec now).1.Banned time)

/-- With a limit, no window sees a third call over it, and no third window in a row sees one. Without one,
every call is over it, and two calls came since the last ban exactly when there are two earlier windows. -/
def Spared (limit windowSec : ℕ) (abuse : Abuse) (now : ℕ) : Prop :=
  ¬ abuse.record.Banned now → abuse.record.Over limit windowSec now →
    if limit = 0 then 2 ≤ abuse.since ↔ abuse.Twice windowSec now
    else (currentWindow abuse.record.window windowSec now).count < limit + 2 ∧ ¬ abuse.Twice windowSec now

instance (record : Record) (limit windowSec now : ℕ) : Decidable (record.Over limit windowSec now) :=
  inferInstanceAs (Decidable (_ ≤ _))

instance (abuse : Abuse) (windowSec now : ℕ) : Decidable (abuse.Twice windowSec now) := inferInstanceAs (Decidable (_ = _))

instance (limit windowSec : ℕ) (abuse : Abuse) (now : ℕ) : Decidable (Spared limit windowSec abuse now) :=
  inferInstanceAs (Decidable (_ → _ → if limit = 0 then _ ↔ _ else _ ∧ _))

/-! ## One call -/

theorem strike_banned (answer : Answer) (unbanned : answer.banned = false) :
    (strike record now answer).2.banned = true ↔ 2 ≤ record.strikes.getD 0 := by
  rw [strike]
  split
  · next third => exact iff_of_true rfl (by omega)
  · next fewer => exact iff_of_false (by rw [unbanned]; exact Bool.false_ne_true) (by omega)

/-- A ban lasts for fifteen minutes, the last millisecond included. -/
theorem strike_lasts (answer : Answer) (third : 2 ≤ record.strikes.getD 0) {time : ℕ} (soon : time ≤ now + BAN_MS) :
    (strike record now answer).1.Banned time := by
  rw [strike, if_pos (by omega)]
  refine ⟨now + BAN_MS, rfl, ?_, soon⟩
  rw [BAN_MS]
  omega

/-- A call over the limit is treated as meant exactly when two strikes stand for two windows. -/
theorem lawful_over (free : ¬ abuse.record.Banned now) (beyond : abuse.record.Over limit windowSec now) :
    Lawful limit windowSec abuse now ↔ (2 ≤ abuse.record.strikes.getD 0 ↔ abuse.Twice windowSec now) := by
  obtain ⟨ban, -, result⟩ := hit_over free beyond
  rw [Lawful, result, strike_banned _ rfl]
  constructor
  · intro lawful
    obtain ⟨only, whenever⟩ := lawful free
    exact ⟨fun strikes => (only strikes).2, fun twice => (whenever ⟨beyond, twice⟩).1⟩
  · intro same _
    refine ⟨fun strikes => ⟨beyond, same.mp strikes⟩, fun third => ?_⟩
    have strikes := same.mpr third.2
    refine ⟨strikes, fun time _ soon => ?_⟩
    apply strike_lasts
    · exact strikes
    · exact soon

theorem lawful_admitted (admits : abuse.record.Admits limit windowSec now) : Lawful limit windowSec abuse now := by
  obtain ⟨ban, -, result⟩ := hit_admitted admits
  intro _
  rw [result]
  refine ⟨fun banned => ?_, fun third => ?_⟩
  · contradiction
  · have room := admits.2
    have beyond := third.1
    rw [Record.Over] at beyond
    omega

/-! ## Runs -/

/-- What ties the strikes to the windows as long as every call is spared. -/
def Consistent (limit : ℕ) (abuse : Abuse) : Prop :=
  if limit = 0 then abuse.since = abuse.record.strikes.getD 0
  else (∀ window, abuse.record.window = some window → abuse.record.strikes.getD 0 = window.count - limit ∧
      (limit < window.count → abuse.exceeded = true)) ∧
    (abuse.exceeded = true → abuse.before.take 2 ≠ [true, true])

theorem abuse_cases (stepped : (abuses limit windowSec).step? abuse now = some next) :
    abuse.record.Banned now ∧ next = { abuse with now := now } ∨
    ¬ abuse.record.Banned now ∧ next.record = (hit abuse.record limit windowSec now).1 ∧
      next.before = (abuse.turn windowSec now).2 ∧
      (abuse.record.Admits limit windowSec now ∧ next.exceeded = (abuse.turn windowSec now).1 ∧ next.since = 0 ∨
        abuse.record.Over limit windowSec now ∧ next.exceeded = true ∧
          next.since = if (hit abuse.record limit windowSec now).2.banned then 0 else abuse.since + 1) := by
  simp only [abuses, Abuse.step?] at stepped
  split at stepped
  · split at stepped
    · next banned =>
      left
      rw [hit_banned banned] at stepped
      exact ⟨banned, (Option.some.inj stepped).symm⟩
    · next free =>
      right
      split at stepped
      · next allowed =>
        obtain rfl := Option.some.inj stepped
        exact ⟨free, rfl, rfl, .inl ⟨(hit_allowed_iff abuse.record).mp allowed, rfl, rfl⟩⟩
      · next refused =>
        obtain rfl := Option.some.inj stepped
        refine ⟨free, rfl, rfl, .inr ⟨?_, rfl, rfl⟩⟩
        by_contra room
        exact refused ((hit_allowed_iff abuse.record).mpr ⟨free, Nat.lt_of_not_le room⟩)
  · contradiction

/-- With a limit, a call over it finds the window of the calls before it. -/
theorem over_window (positive : limit ≠ 0) (beyond : abuse.record.Over limit windowSec now) :
    ∃ window, abuse.record.window = some window ∧ currentWindow abuse.record.window windowSec now = window ∧
      abuse.turn windowSec now = (abuse.exceeded, abuse.before) := by
  have full : 0 < (currentWindow abuse.record.window windowSec now).count := by
    rw [Record.Over] at beyond
    omega
  cases stored : abuse.record.window with
  | none =>
    rw [stored, currentWindow] at full
    split at full
    all_goals contradiction
  | some window =>
    rw [stored] at full
    have running : ¬ window.start + windowSec * 1000 < now := by
      intro past
      rw [currentWindow, Option.getD_some, if_pos past] at full
      contradiction
    refine ⟨window, rfl, by rw [currentWindow, Option.getD_some, if_neg running], ?_⟩
    rw [Abuse.turn, if_neg]
    rintro ⟨other, found, past⟩
    obtain rfl : window = other := Option.some.inj (stored.symm.trans found)
    exact running past

theorem lawful_iff (consistent : Consistent limit abuse) : Lawful limit windowSec abuse now ↔ Spared limit windowSec abuse now := by
  by_cases banned : abuse.record.Banned now
  · exact iff_of_true (fun free => absurd banned free) fun free => absurd banned free
  by_cases beyond : abuse.record.Over limit windowSec now
  · rw [lawful_over banned beyond, Spared]
    by_cases unlimited : limit = 0
    · rw [Consistent, if_pos unlimited] at consistent
      rw [if_pos unlimited, consistent]
      exact ⟨fun same _ _ => same, fun same => same banned beyond⟩
    · obtain ⟨window, stored, current, turn⟩ := over_window unlimited beyond
      rw [Consistent, if_neg unlimited] at consistent
      obtain ⟨counts, apart⟩ := consistent
      obtain ⟨strikes, marked⟩ := counts window stored
      rw [if_neg unlimited, current, strikes, Abuse.Twice, turn]
      have full : limit ≤ window.count := by rwa [Record.Over, current] at beyond
      constructor
      · intro same _ _
        by_cases twice : abuse.before.take 2 = [true, true]
        · have third := same.mpr twice
          have past : limit < window.count := by omega
          exact absurd twice (apart (marked past))
        · have few : ¬ 2 ≤ window.count - limit := fun third => twice (same.mp third)
          exact ⟨by omega, twice⟩
      · intro spared
        obtain ⟨few, once⟩ := spared banned beyond
        exact iff_of_false (by omega) once
  · refine iff_of_true (lawful_admitted ⟨banned, ?_⟩) fun _ other => absurd other beyond
    exact Nat.lt_of_not_le beyond

theorem consistent_step (consistent : Consistent limit abuse) (spared : Spared limit windowSec abuse now)
    (stepped : (abuses limit windowSec).step? abuse now = some next) : Consistent limit next := by
  rcases abuse_cases stepped with ⟨-, rfl⟩ | ⟨free, record, before, ⟨admits, exceeded, since⟩ | ⟨beyond, exceeded, since⟩⟩
  · exact consistent
  · obtain ⟨ban, -, result⟩ := hit_admitted admits
    rw [result] at record
    have room := admits.2
    rw [Consistent, record, since]
    split
    · rfl
    · next positive =>
      rw [Consistent, if_neg positive] at consistent
      refine ⟨fun window found => ?_, fun marked => ?_⟩
      · obtain rfl := Option.some.inj found
        change 0 = (currentWindow abuse.record.window windowSec now).count + 1 - limit ∧
          (limit < (currentWindow abuse.record.window windowSec now).count + 1 → _)
        exact ⟨by omega, fun past => absurd past (by omega)⟩
      · rw [exceeded, Abuse.turn] at marked
        rw [before, Abuse.turn]
        split at marked
        · contradiction
        · next running =>
          rw [if_neg running]
          exact consistent.2 marked
  · obtain ⟨ban, -, result⟩ := hit_over free beyond
    have met := spared free beyond
    rw [result] at record since
    by_cases unlimited : limit = 0
    · rw [Consistent, if_pos unlimited] at consistent ⊢
      rw [since, record, strike]
      dsimp only
      split
      · rfl
      · change abuse.since + 1 = abuse.record.strikes.getD 0 + 1
        rw [consistent]
    · obtain ⟨window, stored, current, turn⟩ := over_window unlimited beyond
      rw [if_neg unlimited, current, Abuse.Twice, turn] at met
      obtain ⟨few, once⟩ := met
      rw [Consistent, if_neg unlimited] at consistent ⊢
      obtain ⟨strikes, -⟩ := consistent.1 window stored
      rw [Record.Over, current] at beyond
      refine ⟨fun other found => ?_, fun _ => by rw [before, turn]; exact once⟩
      rw [record, (strike_window _).1] at found
      obtain rfl := Option.some.inj found
      refine ⟨?_, fun _ => exceeded⟩
      rw [record, strike, if_neg (by change ¬ 3 ≤ abuse.record.strikes.getD 0 + 1; omega)]
      change abuse.record.strikes.getD 0 + 1 = (currentWindow abuse.record.window windowSec now).count + 1 - limit
      rw [strikes, current]
      omega

/-- Over all calls on a new key the guard bans as it is meant to exactly when every call is spared. -/
theorem strikes_lawful_iff (limit windowSec start : ℕ) (times : List ℕ) (abuse : Abuse)
    (run : (abuses limit windowSec).Run Machine.Free { now := start } times abuse) :
    (abuses limit windowSec).Run (Lawful limit windowSec) { now := start } times abuse ↔
      (abuses limit windowSec).Run (Spared limit windowSec) { now := start } times abuse := by
  refine Machine.Run.steps_iff (Consistent limit) (fun _ _ _ consistent _ => lawful_iff consistent)
    (fun _ _ _ consistent spared stepped => consistent_step consistent spared stepped) run ?_
  rw [Consistent]
  split
  · rfl
  · exact ⟨nofun, nofun⟩

/-- Once a key is banned, its calls change nothing and are answered with the ban. -/
theorem banned_unchanged {times : List ℕ} {ends : ℕ} (ban : abuse.record.ban = some ends) (nonzero : ends ≠ 0)
    (early : ∀ time ∈ times, time ≤ ends)
    (run : (abuses limit windowSec).Run Machine.Free abuse times next) : next.record = abuse.record := by
  induction times generalizing abuse with
  | nil => rw [Machine.Run.nil_iff.mp run]
  | cons time times ih =>
    obtain ⟨-, mid, step, rest⟩ := Machine.Run.cons_iff.mp run
    have banned : abuse.record.Banned time := ⟨ends, ban, nonzero, early time List.mem_cons_self⟩
    obtain ⟨-, rfl⟩ := (abuse_cases step).resolve_right fun counted => counted.1 banned
    have later : next.record = { abuse with now := time }.record :=
      ih ban (fun later found => early later (List.mem_cons_of_mem _ found)) rest
    exact later

/-- Four calls in one window, and one is allowed. -/
def burst : List ℕ := [0, 1, 2, 3]

/-- Two windows in a row with a call over the limit, one without, and another one with. -/
def paced : List ℕ := [0, 1, 70000, 70001, 140000, 210000, 210001]

theorem strikes_lawful_iff_burst : (∃ abuse, (abuses 1 60).Run Machine.Free { now := 0 } burst abuse ∧
      ((abuses 1 60).Run (Lawful 1 60) { now := 0 } burst abuse ↔
        (abuses 1 60).Run (Spared 1 60) { now := 0 } burst abuse)) ∧
    ∃ abuse, (abuses 1 60).Run (Spared 1 60) { now := 0 } paced abuse ∧
      (abuses 1 60).Run (Lawful 1 60) { now := 0 } paced abuse ∧ abuse.before = [false, true, true] := by
  obtain ⟨abuse, replayed⟩ : ∃ abuse, (abuses 1 60).replay? { now := 0 } burst = some abuse := ⟨_, rfl⟩
  have run := Machine.Run.free_iff_replay.mpr replayed
  obtain ⟨spread, checked, before⟩ : ∃ abuse, (abuses 1 60).checked? (fun abuse now => decide (Spared 1 60 abuse now))
      { now := 0 } paced = some abuse ∧ abuse.before = [false, true, true] := ⟨_, rfl, rfl⟩
  have spared : (abuses 1 60).Run (Spared 1 60) { now := 0 } paced spread :=
    .of_checked (fun _ _ => of_decide_eq_true) checked
  have free : (abuses 1 60).Run Machine.Free { now := 0 } paced spread := spared.mono fun _ _ _ => trivial
  exact ⟨⟨abuse, run, strikes_lawful_iff 1 60 0 burst abuse run⟩, spread, spared,
    (strikes_lawful_iff 1 60 0 paced spread free).mpr spared, before⟩

/-- Three calls over the limit of a single window are a ban. -/
theorem burst_banned : ∃ abuse, (abuses 1 60).Run Machine.Free { now := 0 } burst abuse ∧ abuse.before = [] ∧
    abuse.record.ban = some (3 + BAN_MS) ∧ ¬ (abuses 1 60).Run (Lawful 1 60) { now := 0 } burst abuse := by
  obtain ⟨abuse, replayed, before, ban⟩ : ∃ abuse, (abuses 1 60).replay? { now := 0 } burst = some abuse ∧
      abuse.before = [] ∧ abuse.record.ban = some (3 + BAN_MS) := ⟨_, rfl, rfl, rfl⟩
  refine ⟨abuse, Machine.Run.free_iff_replay.mpr replayed, before, ban, fun run => ?_⟩
  obtain ⟨mid, first, last⟩ := Machine.Run.append_iff.mp (show (abuses 1 60).Run (Lawful 1 60) _ ([0, 1, 2] ++ [3]) _ from run)
  have reached : (abuses 1 60).replay? { now := 0 } [0, 1, 2] = some ⟨⟨some ⟨3, 0⟩, some 2, none⟩, true, [], 2, 2⟩ := rfl
  obtain rfl := Option.some.inj ((Machine.Run.free_iff_replay.mp (first.mono fun _ _ _ => trivial)).symm.trans reached)
  obtain ⟨lawful, -⟩ := Machine.Run.cons_iff.mp last
  have free : ¬ (⟨some ⟨3, 0⟩, some 2, none⟩ : Record).Banned 3 := by
    rintro ⟨ends, held, -⟩
    exact nomatch (show (none : Option ℕ) = some ends from held)
  have twice : ((⟨⟨some ⟨3, 0⟩, some 2, none⟩, true, [], 2, 2⟩ : Abuse).turn 60 3).2.take 2 = [true, true] :=
    ((lawful free).1 rfl).2
  revert twice
  decide

end Guard

end OmniControlPlane.Panel
