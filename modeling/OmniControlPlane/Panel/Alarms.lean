import OmniControlPlane.Panel.Conservation

/-! # Alarms and the timer of the ledger

The timer does nothing but suppress a flush for thirty seconds after the one that a report began. A
flush ends by setting an alarm thirty seconds ahead, so it is never due before the timer that was set
when the flush began or earlier. Hence what a suppressed flush leaves in the map waits for a flush that
will still set its alarm, or for an alarm that is set.
-/

namespace OmniControlPlane.Panel

open Lib

/-- The world with the clock of its last event and the time at which the timer is due. -/
structure Timed where
  world : World
  now : ℕ
  due : Option ℕ := none

/-- The clock of an event; the timer's callback reads none. -/
def Event.time : Event → Option ℕ
  | .report _ _ _ _ clock | .admitDevice _ _ _ clock | .flush clock | .alarm clock | .batch _ _ clock
  | .alarmSet _ clock => some clock.now
  | .timer => none

/-- `setTimeout` makes the timer due when a step has set it, and a callback clears it. -/
def Timed.step? (timed : Timed) (event : Event) : Option Timed :=
  (timed.world.step? event).map fun world =>
    let now := event.time.getD timed.now
    { world := world
      now := now
      due := if !world.ledger.flushTimer then none
        else if timed.world.ledger.flushTimer then timed.due else some (now + FLUSH_INTERVAL_MS) }

def timedLedger : Machine Timed Event := ⟨Timed.step?⟩

/-- The clock does not go back, and an event at the timer's due time or later comes after its callback. -/
def Timely (timed : Timed) (event : Event) : Prop :=
  ∀ time, event.time = some time → timed.now ≤ time ∧ ∀ due, timed.due = some due → time < due

/-- The flush has not set its last alarm yet. -/
def Flush.WillSchedule (flush : Flush) : Prop := flush.phase = .batch ∨ flush.phase = .retryAlarm

def World.Scheduling (world : World) : Prop := ∃ flush ∈ world.ledger.flushes, flush.WillSchedule

/-- The map is empty, or a flush will set an alarm, or one is set. -/
def World.Covered (world : World) : Prop :=
  world.ledger.dirty.entries ≠ [] → world.Scheduling ∨ world.ledger.alarm.isSome

/-- While the timer is set, a flush will set an alarm, or one is set that is due no earlier. -/
def Timed.Latched (timed : Timed) : Prop :=
  timed.world.ledger.flushTimer = true → ∃ due, timed.due = some due ∧ due ≤ timed.now + FLUSH_INTERVAL_MS ∧
    (timed.world.Scheduling ∨ ∃ alarm, timed.world.ledger.alarm = some alarm ∧ due ≤ alarm)

structure Timed.Guarded (timed : Timed) : Prop where
  bound : timed.world.ledger.bound = true
  latched : timed.Latched
  covered : timed.world.Covered

/-! ## Flushes -/

/-- What a flush leaves when it begins: an empty map, and a flush that will set an alarm if there was
anything to take. -/
structure Flushed (before after : Ledger) : Prop where
  bound : after.bound = before.bound
  timer : after.flushTimer = before.flushTimer
  alarm : after.alarm = before.alarm
  empty : after.dirty.entries = []
  grows : ∀ flush ∈ before.flushes, flush ∈ after.flushes
  schedules : before.dirty.entries ≠ [] → ∃ flush ∈ after.flushes, flush.WillSchedule

theorem flush_flushed (ledger : Ledger) (clock : Clock) (bound : ledger.bound = true) :
    Flushed ledger (ledger.flush clock) := by
  rw [Ledger.flush]
  by_cases empty : ledger.dirty.entries = []
  · rw [if_pos empty]
    exact ⟨rfl, rfl, rfl, empty, fun _ found => found, fun filled => absurd empty filled⟩
  · rw [if_neg empty, if_pos bound]
    refine ⟨rfl, rfl, rfl, rfl, fun _ found => List.mem_append_left _ found, fun _ => ?_⟩
    exact ⟨_, List.mem_append_right _ (List.mem_singleton_self _), .inl rfl⟩

variable {world : World} {index : ℕ} {flush changed : Flush}

/-- A flush that had set its last alarm leaves the others to set theirs. -/
theorem scheduling_set (found : world.ledger.flushes[index]? = some flush) (idle : ¬ flush.WillSchedule)
    (scheduling : world.Scheduling) : (world.setFlush index changed).Scheduling := by
  obtain ⟨other, member, schedules⟩ := scheduling
  obtain ⟨place, bound, same⟩ := List.getElem_of_mem member
  have apart : index ≠ place := by
    rintro rfl
    rw [List.getElem?_eq_getElem bound, same] at found
    exact idle (Option.some.inj found ▸ schedules)
  refine ⟨other, ?_, schedules⟩
  change other ∈ world.ledger.flushes.set index changed
  rw [← same, List.mem_iff_getElem]
  exact ⟨place, by rwa [List.length_set], List.getElem_set_ne apart _⟩

/-- A flush that will still set an alarm is one of those that will. -/
theorem scheduling_of_set (found : world.ledger.flushes[index]? = some flush) (schedules : changed.WillSchedule) :
    (world.setFlush index changed).Scheduling := by
  refine ⟨changed, ?_, schedules⟩
  change changed ∈ world.ledger.flushes.set index changed
  exact List.mem_set (List.getElem?_eq_some_iff.mp found).1 _

/-! ## One step -/

variable {timed next : Timed} {event : Event}

/-- What guards a latch that is due at some time. -/
def World.Guards (world : World) (due : ℕ) : Prop :=
  world.Scheduling ∨ ∃ alarm, world.ledger.alarm = some alarm ∧ due ≤ alarm

theorem timed_cases (stepped : timedLedger.step? timed event = some next) :
    timed.world.step? event = some next.world ∧ next.now = event.time.getD timed.now ∧
      next.due = (if !next.world.ledger.flushTimer then none
        else if timed.world.ledger.flushTimer then timed.due else some (next.now + FLUSH_INTERVAL_MS)) := by
  obtain ⟨world, step, rfl⟩ := Option.map_eq_some_iff.mp stepped
  exact ⟨step, rfl, rfl⟩

theorem now_mono (timely : Timely timed event) (stepped : timedLedger.step? timed event = some next) :
    timed.now ≤ next.now := by
  obtain ⟨-, now, -⟩ := timed_cases stepped
  rw [now]
  cases time : event.time with
  | none => exact Nat.le_refl _
  | some time' => exact (timely time' time).1

/-- A step that leaves the timer alone keeps its guard, if every due time after the step's clock stays
guarded. -/
theorem latched_kept (guarded : timed.Guarded) (timely : Timely timed event)
    (stepped : timedLedger.step? timed event = some next)
    (timer : next.world.ledger.flushTimer = timed.world.ledger.flushTimer)
    (stays : ∀ due, due ≤ next.now + FLUSH_INTERVAL_MS → (∀ time, event.time = some time → time < due) →
      timed.world.Guards due → next.world.Guards due) : next.Latched := by
  intro set
  have before : timed.world.ledger.flushTimer = true := timer ▸ set
  obtain ⟨due, timerDue, below, guards⟩ := guarded.latched before
  obtain ⟨-, -, dueNext⟩ := timed_cases stepped
  rw [set, before] at dueNext
  have later := now_mono timely stepped
  have within : due ≤ next.now + FLUSH_INTERVAL_MS := by omega
  exact ⟨due, dueNext.trans timerDue, within, stays due within (fun time at_ => (timely time at_).2 due timerDue) guards⟩

/-- Where the map did not grow, and a flush or an alarm is left wherever one was, the map stays covered. -/
theorem covered_kept (guarded : timed.Guarded)
    (dirty : next.world.ledger.dirty.entries ≠ [] → timed.world.ledger.dirty.entries ≠ [])
    (stays : timed.world.Scheduling ∨ timed.world.ledger.alarm.isSome →
      next.world.Scheduling ∨ next.world.ledger.alarm.isSome) : next.world.Covered :=
  fun filled => stays (guarded.covered (dirty filled))

theorem guarded_flush (guarded : timed.Guarded) (clock : Clock) (timely : Timely timed (.flush clock))
    (stepped : timedLedger.step? timed (.flush clock) = some next) : next.Guarded := by
  have flushed := flush_flushed timed.world.ledger clock guarded.bound
  have step := Option.some.inj (timed_cases stepped).1
  have scheduling : timed.world.Scheduling → next.world.Scheduling := by
    rintro ⟨flush, member, schedules⟩
    rw [← step]
    exact ⟨flush, flushed.grows flush member, schedules⟩
  refine ⟨by rw [← step]; exact flushed.bound.trans guarded.bound, ?_, ?_⟩
  · apply latched_kept guarded timely stepped (by rw [← step]; exact flushed.timer)
    rintro due - - (running | ⟨alarm, set, later⟩)
    · exact .inl (scheduling running)
    · refine .inr ⟨alarm, ?_, later⟩
      rw [← step]
      exact flushed.alarm.trans set
  · intro filled
    rw [← step] at filled
    exact absurd flushed.empty filled

theorem guarded_alarm (guarded : timed.Guarded) (clock : Clock) (timely : Timely timed (.alarm clock))
    (stepped : timedLedger.step? timed (.alarm clock) = some next) : next.Guarded := by
  obtain ⟨step, -, -⟩ := timed_cases stepped
  simp only [World.step?] at step
  split at step
  · next due =>
    have flushed := flush_flushed { timed.world.ledger with alarm := none } clock guarded.bound
    have world := Option.some.inj step
    refine ⟨by rw [← world]; exact flushed.bound.trans guarded.bound, ?_, ?_⟩
    · apply latched_kept guarded timely stepped (by rw [← world]; exact flushed.timer)
      rintro timerDue - early (⟨flush, member, schedules⟩ | ⟨alarm, set, later⟩)
      · left
        rw [← world]
        exact ⟨flush, flushed.grows flush member, schedules⟩
      · -- the alarm that fires is not due before the timer, which has not fired
        rw [set, Option.any_some, decide_eq_true_eq] at due
        have before := early clock.now rfl
        omega
    · intro filled
      rw [← world] at filled
      exact absurd flushed.empty filled
  · contradiction

/-- What a report has changed before it schedules a flush: the map is not empty, and the rest of what
matters here is as it was. -/
theorem report_scheduled (ledger : Ledger) (user : String) (up down : ℕ) (device : String) (clock : Clock) :
    ∃ added : Ledger, (ledger.report user up down device clock).1 = added.scheduleFlush clock ∧
      added.flushTimer = ledger.flushTimer ∧ added.alarm = ledger.alarm ∧ added.flushes = ledger.flushes ∧
      added.bound = ledger.bound ∧ added.dirty.entries ≠ [] := by
  have filled : (Ledger.add ledger.dirty user ⟨up, down, 1⟩).entries ≠ [] := by
    intro empty
    have own := OrderedMap.get?_alter ledger.dirty user user fun cur => cur.getD 0 + ⟨up, down, 1⟩
    rw [if_pos rfl] at own
    change (Ledger.add ledger.dirty user ⟨up, down, 1⟩).get? user = _ at own
    rw [OrderedMap.get?, empty] at own
    contradiction
  by_cases anonymous : device = ""
  · refine ⟨{ ledger with dirty := Ledger.add ledger.dirty user ⟨up, down, 1⟩ }, ?_, rfl, rfl, rfl, rfl, filled⟩
    simp only [Ledger.report, if_pos anonymous]
  · refine ⟨({ ledger with dirty := Ledger.add ledger.dirty user ⟨up, down, 1⟩ } : Ledger).touchDevice user device clock.now,
      ?_, rfl, rfl, rfl, rfl, filled⟩
    simp only [Ledger.report, if_neg anonymous]

theorem guarded_report (guarded : timed.Guarded) (user : String) (up down : ℕ) (device : String) (clock : Clock)
    (timely : Timely timed (.report user up down device clock))
    (stepped : timedLedger.step? timed (.report user up down device clock) = some next) : next.Guarded := by
  obtain ⟨step, -, dueNext⟩ := timed_cases stepped
  obtain ⟨added, same, timer, alarm, flushes, bound, filled⟩ :=
    report_scheduled timed.world.ledger user up down device clock
  have world : next.world.ledger = added.scheduleFlush clock := by
    rw [← Option.some.inj step]
    exact same
  have wasBound := bound.trans guarded.bound
  cases latch : timed.world.ledger.flushTimer with
  | true =>
    -- the flush is suppressed, and the entries wait for what guards the latch
    rw [Ledger.scheduleFlush, timer, latch, if_pos rfl] at world
    have guards (due : ℕ) : timed.world.Guards due → next.world.Guards due := by
      rw [World.Guards, World.Scheduling, World.Guards, World.Scheduling, world, alarm, flushes]
      exact id
    refine ⟨by rw [world, wasBound], ?_, ?_⟩
    · exact latched_kept guarded timely stepped (by rw [world, timer]) fun due _ _ => guards due
    · intro _
      obtain ⟨due, -, -, guard⟩ := guarded.latched latch
      rcases guards due guard with running | ⟨alarm, set, -⟩
      · exact .inl running
      · right
        rw [set]
        rfl
  | false =>
    rw [Ledger.scheduleFlush, timer, latch, if_neg Bool.false_ne_true] at world
    have flushed := flush_flushed { added with flushTimer := true } clock wasBound
    rw [← world] at flushed
    have scheduling : next.world.Scheduling := flushed.schedules filled
    refine ⟨flushed.bound.trans wasBound, ?_, fun _ => .inl scheduling⟩
    intro set
    rw [set, latch] at dueNext
    exact ⟨_, dueNext, Nat.le_refl _, .inl scheduling⟩

theorem guarded_admitDevice (guarded : timed.Guarded) (user device : String) (limit : ℕ) (clock : Clock)
    (timely : Timely timed (.admitDevice user device limit clock))
    (stepped : timedLedger.step? timed (.admitDevice user device limit clock) = some next) : next.Guarded := by
  have world : next.world.ledger = timed.world.ledger ∨
      next.world.ledger = timed.world.ledger.touchDevice user device clock.now := by
    rw [← Option.some.inj (timed_cases stepped).1]
    change (timed.world.ledger.admitDevice user device limit clock.now).1 = _ ∨ (timed.world.ledger.admitDevice user device limit clock.now).1 = _
    rw [Ledger.admitDevice]
    split
    · exact .inl rfl
    · exact .inr rfl
  have kept : next.world.ledger.flushTimer = timed.world.ledger.flushTimer ∧
      next.world.ledger.alarm = timed.world.ledger.alarm ∧ next.world.ledger.flushes = timed.world.ledger.flushes ∧
      next.world.ledger.bound = timed.world.ledger.bound ∧ next.world.ledger.dirty = timed.world.ledger.dirty := by
    rcases world with same | same
    all_goals
      rw [same]
      exact ⟨rfl, rfl, rfl, rfl, rfl⟩
  obtain ⟨timer, alarm, flushes, bound, dirty⟩ := kept
  refine ⟨bound.trans guarded.bound, ?_, ?_⟩
  · apply latched_kept guarded timely stepped timer
    intro due _ _
    rw [World.Guards, World.Scheduling, World.Guards, World.Scheduling, alarm, flushes]
    exact id
  · rw [World.Covered, World.Scheduling, dirty, alarm, flushes]
    exact guarded.covered

theorem guarded_timer (guarded : timed.Guarded) (stepped : timedLedger.step? timed .timer = some next) : next.Guarded := by
  obtain ⟨step, -, -⟩ := timed_cases stepped
  simp only [World.step?] at step
  split at step
  · have world := Option.some.inj step
    refine ⟨by rw [← world]; exact guarded.bound, ?_, by rw [← world]; exact guarded.covered⟩
    intro set
    rw [← world] at set
    contradiction
  · contradiction

/-- Where a step leaves a flush that will set an alarm, or an alarm thirty seconds ahead, everything is
guarded again. -/
theorem guarded_ahead (guarded : timed.Guarded) (timely : Timely timed event)
    (stepped : timedLedger.step? timed event = some next)
    (bound : next.world.ledger.bound = timed.world.ledger.bound)
    (timer : next.world.ledger.flushTimer = timed.world.ledger.flushTimer)
    (ahead : next.world.Scheduling ∨ next.world.ledger.alarm = some (next.now + FLUSH_INTERVAL_MS)) : next.Guarded := by
  refine ⟨bound.trans guarded.bound, ?_, fun _ => ?_⟩
  · apply latched_kept guarded timely stepped timer
    intro due within _ _
    exact ahead.imp_right fun set => ⟨_, set, within⟩
  · apply ahead.imp_right
    intro set
    rw [set]
    rfl

theorem guarded_batch (guarded : timed.Guarded) (index : ℕ) (delivery : Delivery) (clock : Clock)
    (timely : Timely timed (.batch index delivery clock))
    (stepped : timedLedger.step? timed (.batch index delivery clock) = some next) : next.Guarded := by
  obtain ⟨step, now, -⟩ := timed_cases stepped
  obtain ⟨flush, found, awaits, world⟩ := batch_cases step
  change next.now = clock.now at now
  cases delivery with
  | answered =>
    rw [World.batchEnds, World.answered] at world
    split at world
    · refine guarded_ahead guarded timely stepped (by rw [world]; rfl) (by rw [world]; rfl) (.inl ?_)
      rw [world]
      exact scheduling_of_set found (.inl awaits)
    · refine guarded_ahead guarded timely stepped (by rw [world]; rfl) (by rw [world]; rfl) (.inr ?_)
      rw [world, now]
      rfl
  | lost =>
    refine guarded_ahead guarded timely stepped (by rw [world]; rfl) (by rw [world]; rfl) (.inl ?_)
    rw [world]
    have schedules : Flush.WillSchedule { flush with phase := .retryAlarm } := .inr rfl
    exact scheduling_of_set found schedules
  | refused =>
    refine guarded_ahead guarded timely stepped (by rw [world]; rfl) (by rw [world]; rfl) (.inl ?_)
    rw [world]
    have schedules : Flush.WillSchedule { flush with phase := .retryAlarm } := .inr rfl
    exact scheduling_of_set found schedules

theorem guarded_alarmSet (guarded : timed.Guarded) (index : ℕ) (clock : Clock) (timely : Timely timed (.alarmSet index clock))
    (stepped : timedLedger.step? timed (.alarmSet index clock) = some next) : next.Guarded := by
  obtain ⟨step, now, -⟩ := timed_cases stepped
  obtain ⟨flush, found, ⟨phase, world⟩ | ⟨phase, world⟩⟩ := alarmSet_cases step
  · refine guarded_ahead guarded timely stepped (by rw [world]; rfl) (by rw [world]; rfl) (.inr ?_)
    rw [world, now]
    rfl
  · have idle : ¬ flush.WillSchedule := by
      rintro (running | running)
      all_goals
        rw [phase] at running
        contradiction
    have stays : timed.world.Scheduling → next.world.Scheduling := by
      rw [world]
      exact scheduling_set found idle
    have alarm : next.world.ledger.alarm = timed.world.ledger.alarm := by
      rw [world]
      rfl
    refine ⟨by rw [world]; exact guarded.bound, ?_, ?_⟩
    · apply latched_kept guarded timely stepped (by rw [world]; rfl)
      intro due _ _ guard
      rw [World.Guards, alarm]
      exact guard.imp_left stays
    · apply covered_kept guarded (by rw [world]; exact id)
      rw [alarm]
      exact Or.imp_left stays

theorem guarded_step (guarded : timed.Guarded) (timely : Timely timed event)
    (stepped : timedLedger.step? timed event = some next) : next.Guarded := by
  cases event with
  | report user up down device clock => exact guarded_report guarded user up down device clock timely stepped
  | admitDevice user device limit clock => exact guarded_admitDevice guarded user device limit clock timely stepped
  | flush clock => exact guarded_flush guarded clock timely stepped
  | timer => exact guarded_timer guarded stepped
  | alarm clock => exact guarded_alarm guarded clock timely stepped
  | batch index delivery clock => exact guarded_batch guarded index delivery clock timely stepped
  | alarmSet index clock => exact guarded_alarmSet guarded index clock timely stepped

/-! ## Runs -/

/-- In every state that a new ledger reaches, a map that is not empty has a flush running or an alarm set. -/
theorem usage_not_stranded (db : Database) (start : ℕ) (events : List Event) (timed : Timed)
    (run : timedLedger.Run Timely { world := opened db, now := start } events timed)
    (filled : timed.world.ledger.dirty.entries ≠ []) (quiet : timed.world.Quiet) :
    timed.world.ledger.alarm.isSome := by
  have guarded := run.preserves Timed.Guarded (fun _ _ _ guarded timely stepped => guarded_step guarded timely stepped)
    ⟨rfl, nofun, fun filled => absurd rfl filled⟩
  refine (guarded.covered filled).resolve_left ?_
  rintro ⟨flush, member, schedules⟩
  have done := quiet flush member
  rcases schedules with running | running
  all_goals
    rw [done] at running
    contradiction

/-- An executable form of `Timely`. -/
def timelyCheck (timed : Timed) (event : Event) : Bool :=
  event.time.all fun time => timed.now ≤ time && timed.due.all (time < ·)

theorem timely_of_check (timed : Timed) (event : Event) (passed : timelyCheck timed event = true) : Timely timed event := by
  intro time at_
  rw [timelyCheck, at_, Option.all_some, Bool.and_eq_true, decide_eq_true_eq] at passed
  refine ⟨passed.1, fun due timer => ?_⟩
  have before := passed.2
  rw [timer, Option.all_some, decide_eq_true_eq] at before
  exact before

/-- A report that the timer suppresses, after the first flush has ended. -/
def suppressed : List Event :=
  [.report "user0" 10 20 "device" ⟨0, "2026-09-12"⟩, .batch 0 .answered ⟨1, "2026-09-12"⟩, .alarmSet 0 ⟨1, "2026-09-12"⟩,
    .report "user0" 10 20 "device" ⟨2, "2026-09-12"⟩]

theorem usage_not_stranded_suppressed : ∃ timed,
    timedLedger.Run Timely { world := opened ⟨.empty, .empty⟩, now := 0 } suppressed timed ∧
    timed.world.ledger.dirty.entries ≠ [] ∧ timed.world.Quiet ∧ timed.world.ledger.alarm.isSome := by
  obtain ⟨timed, replayed, filled, quiet⟩ : ∃ timed,
      timedLedger.checked? timelyCheck { world := opened ⟨.empty, .empty⟩, now := 0 } suppressed = some timed ∧
      timed.world.ledger.dirty.entries ≠ [] ∧ timed.world.Quiet := ⟨_, rfl, by decide, by decide⟩
  have run := Machine.Run.of_checked timely_of_check replayed
  exact ⟨timed, run, filled, quiet, usage_not_stranded ⟨.empty, .empty⟩ 0 suppressed timed run filled quiet⟩

end OmniControlPlane.Panel
