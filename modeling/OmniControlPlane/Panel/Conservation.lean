import Mathlib.Algebra.Order.BigOperators.Group.List
import Mathlib.Algebra.Order.Ring.Int
import OmniControlPlane.Panel.Ledger

/-! # Conservation in the usage ledger

Usage that was reported is in the database, in the map, or owed by a running flush. A column says
what a statement adds to one such count; the law for a column is that a step adds to its balance what
it reports, and what a refused batch puts back although an earlier batch has paid for it. So nothing
is lost, and the counts are exact if and only if no such batch is refused.
-/

namespace OmniControlPlane.Panel

open Lib OrderedMap

/-- The counters of a usage. -/
inductive Counter where
  | up | down | conns
deriving DecidableEq, Repr

namespace Usage

def get (usage : Usage) : Counter → ℕ
  | .up => usage.up
  | .down => usage.down
  | .conns => usage.conns

theorem ext_get {a b : Usage} (same : ∀ counter, a.get counter = b.get counter) : a = b := by
  cases a
  cases b
  exact congr (congr (congrArg Usage.mk (same .up)) (same .down)) (same .conns)

@[simp] theorem get_add (a b : Usage) (counter : Counter) : (a + b).get counter = a.get counter + b.get counter := by
  cases counter <;> rfl

@[simp] theorem get_zero (counter : Counter) : (0 : Usage).get counter = 0 := by
  cases counter <;> rfl

@[simp] theorem get_sum (usages : List Usage) (counter : Counter) :
    usages.sum.get counter = (usages.map (·.get counter)).sum := by
  induction usages with
  | nil => exact get_zero counter
  | cons usage rest ih => rw [List.sum_cons, get_add, ih, List.map_cons, List.sum_cons]

@[simp] theorem zero_add (usage : Usage) : 0 + usage = usage :=
  ext_get fun counter => by simp

/-- `v.up + v.down` -/
def bytes (usage : Usage) : ℕ := usage.up + usage.down

@[simp] theorem bytes_add (a b : Usage) : (a + b).bytes = a.bytes + b.bytes := by
  change a.up + b.up + (a.down + b.down) = a.up + a.down + (b.up + b.down)
  omega

end Usage

/-- A sum over the flushes changes by what changes for one of them. -/
theorem sum_map_set (f : Flush → ℤ) {flushes : List Flush} {index : ℕ} {flush : Flush}
    (found : flushes[index]? = some flush) (changed : Flush) :
    ((flushes.set index changed).map f).sum = (flushes.map f).sum + (f changed - f flush) := by
  induction flushes generalizing index with
  | nil => contradiction
  | cons first rest ih =>
    cases index with
    | zero =>
      obtain rfl : first = flush := Option.some.inj found
      rw [List.set_cons_zero, List.map_cons, List.map_cons, List.sum_cons, List.sum_cons]
      omega
    | succ index =>
      rw [List.set_cons_succ, List.map_cons, List.map_cons, List.sum_cons, List.sum_cons, ih found]
      omega

/-! ## Columns -/

/-- A count for one user: what the database stores of it, what a statement adds to that, and what
a usage amounts to. -/
structure Column where
  amount : String → Usage → ℤ
  owed : Statement → ℤ
  stored : Database → ℤ
  Valid : Database → Prop
  amount_add : ∀ user a b, amount user (a + b) = amount user a + amount user b
  pays : ∀ day user usage,
    owed (.updateUser user (usage.up + usage.down)) + owed (.upsertDaily day user usage) = amount user usage
  runs : ∀ db statement, Valid db →
    Valid (db.run statement) ∧ stored (db.run statement) = stored db + owed statement

namespace Column

variable (column : Column)

def owedAll (statements : List Statement) : ℤ := (statements.map column.owed).sum

@[simp] theorem owedAll_append (first second : List Statement) :
    column.owedAll (first ++ second) = column.owedAll first + column.owedAll second := by
  simp [owedAll]

/-- What a flush has not paid yet. -/
def inFlight (flush : Flush) : ℤ :=
  if flush.phase = .batch then column.owedAll (flush.statements.drop flush.sent) else 0

def balance (world : World) : ℤ :=
  column.stored world.db + total column.amount world.ledger.dirty.entries +
    (world.ledger.flushes.map column.inFlight).sum

/-- What an event reports. -/
def reported : Event → ℤ
  | .report user up down _ _ => column.amount user ⟨up, down, 1⟩
  | _ => 0

/-- What an event puts back although it has been paid. -/
def recounted (world : World) : Event → ℤ
  | .batch index .refused _ => match world.ledger.flushes[index]? with
    | some flush => column.owedAll (flush.statements.take flush.sent)
    | none => 0
  | _ => 0

theorem batch_stored (statements : List Statement) {db : Database} (valid : column.Valid db) :
    column.Valid (db.batch statements) ∧
      column.stored (db.batch statements) = column.stored db + column.owedAll statements := by
  induction statements generalizing db with
  | nil => simpa [Database.batch, owedAll] using valid
  | cons statement rest ih =>
    obtain ⟨validNext, stored⟩ := column.runs db statement valid
    obtain ⟨validAfter, after⟩ := ih validNext
    refine ⟨validAfter, ?_⟩
    change column.stored ((db.run statement).batch rest) = _
    rw [after, stored, owedAll, owedAll, List.map_cons, List.sum_cons]
    omega

/-- A flush owes what its entries amount to. -/
theorem owed_statements (flush : Flush) : column.owedAll flush.statements = total column.amount flush.entries := by
  unfold Flush.statements
  induction flush.entries with
  | nil => rfl
  | cons entry rest ih =>
    rw [List.flatMap_cons, owedAll_append, ih, total_cons, ← column.pays flush.day]
    simp [owedAll]

theorem total_add (dirty : OrderedMap String Usage) (user : String) (usage : Usage) :
    total column.amount (Ledger.add dirty user usage).entries =
      total column.amount dirty.entries + column.amount user usage :=
  total_alter column.amount dirty user _ _ (congrArg _ (Usage.zero_add usage)) fun old =>
    column.amount_add user old usage

theorem total_requeue (entries : List (String × Usage)) (dirty : OrderedMap String Usage) :
    total column.amount (Ledger.requeue dirty entries).entries =
      total column.amount dirty.entries + total column.amount entries := by
  induction entries generalizing dirty with
  | nil => simp [Ledger.requeue]
  | cons entry rest ih =>
    have next := ih (Ledger.add dirty entry.1 entry.2)
    rw [column.total_add] at next
    rw [total_cons, ← add_assoc]
    exact next

/-- Replacing a flush changes the sum by what it changes for that flush. -/
theorem sum_setFlush {flushes : List Flush} {index : ℕ} {flush : Flush} (found : flushes[index]? = some flush)
    (changed : Flush) : ((flushes.set index changed).map column.inFlight).sum =
      (flushes.map column.inFlight).sum + (column.inFlight changed - column.inFlight flush) :=
  sum_map_set column.inFlight found changed

/-! ## One step -/

theorem balance_flush (ledger : Ledger) (db : Database) (clock : Clock) (bound : ledger.bound = true) :
    column.balance ⟨ledger.flush clock, db⟩ = column.balance ⟨ledger, db⟩ := by
  by_cases empty : ledger.dirty.entries = []
  · rw [Ledger.flush, if_pos empty]
  · rw [Ledger.flush, if_neg empty, if_pos bound]
    have owes := column.owed_statements ⟨ledger.dirty.entries, clock.day, 0, .batch⟩
    simp only [balance, OrderedMap.empty, total_nil, List.map_append, List.sum_append, List.map_cons,
      List.map_nil, List.sum_cons, List.sum_nil, inFlight, if_true, List.drop_zero, owes]
    omega

theorem balance_schedule (ledger : Ledger) (db : Database) (clock : Clock) (bound : ledger.bound = true) :
    column.balance ⟨ledger.scheduleFlush clock, db⟩ = column.balance ⟨ledger, db⟩ := by
  unfold Ledger.scheduleFlush
  split
  · rfl
  · exact column.balance_flush { ledger with flushTimer := true } db clock bound

theorem balance_answered {world : World} {index : ℕ} {flush : Flush} (clock : Clock)
    (found : world.ledger.flushes[index]? = some flush) (awaits : flush.phase = .batch)
    (valid : column.Valid world.db) :
    column.balance ({ world with db := world.db.batch flush.chunk }.answered index flush clock) =
      column.balance world := by
  have stored := (column.batch_stored flush.chunk valid).2
  have paid : column.owedAll (flush.statements.drop flush.sent) =
      column.owedAll flush.chunk + column.owedAll (flush.statements.drop (flush.sent + 100)) := by
    rw [Flush.chunk, ← owedAll_append, ← List.drop_drop, List.take_append_drop]
  have before : column.inFlight flush = column.owedAll (flush.statements.drop flush.sent) := if_pos awaits
  unfold World.answered
  dsimp only
  split
  · have after : column.inFlight { flush with sent := flush.sent + 100 } =
        column.owedAll (flush.statements.drop (flush.sent + 100)) := if_pos awaits
    simp only [balance, World.setFlush, column.sum_setFlush found, stored, before, after, paid]
    omega
  · next last =>
    have rest : flush.statements.drop (flush.sent + 100) = [] := List.drop_eq_nil_of_le (not_lt.mp last)
    have after : column.inFlight { flush with sent := flush.sent + 100, phase := .lastAlarm } = 0 := rfl
    rw [rest] at paid
    simp only [balance, World.setFlush, World.setAlarm, column.sum_setFlush found, stored, before, after, paid]
    simp only [owedAll, List.map_nil, List.sum_nil]
    omega

theorem balance_refused {world : World} {index : ℕ} {flush : Flush} (clock : Clock)
    (found : world.ledger.flushes[index]? = some flush) (awaits : flush.phase = .batch) :
    column.balance (world.refused index flush clock) =
      column.balance world + column.owedAll (flush.statements.take flush.sent) := by
  have split := column.owedAll_append (flush.statements.take flush.sent) (flush.statements.drop flush.sent)
  rw [List.take_append_drop, column.owed_statements] at split
  have before : column.inFlight flush = column.owedAll (flush.statements.drop flush.sent) := if_pos awaits
  have after : column.inFlight { flush with phase := .retryAlarm } = 0 := rfl
  simp only [balance, World.refused, World.setFlush, World.setAlarm, column.sum_setFlush found,
    column.total_requeue, before, after]
  omega

end Column

/-! ## What holds of the ledger itself -/

/-- Every entry counts a report. -/
def Counted (entries : List (String × Usage)) : Prop := ∀ entry ∈ entries, 0 < entry.2.conns

/-- A flush is between two batches of a hundred statements, and a running one has a batch left. -/
structure Flush.Sound (flush : Flush) : Prop where
  counted : Counted flush.entries
  hundreds : flush.sent % 100 = 0
  unsent : flush.phase = .batch → flush.sent < flush.statements.length

structure Ledger.Sound (ledger : Ledger) : Prop where
  bound : ledger.bound = true
  counted : Counted ledger.dirty.entries
  flushes : ∀ flush ∈ ledger.flushes, flush.Sound

theorem counted_add {dirty : OrderedMap String Usage} (counted : Counted dirty.entries) (user : String)
    {usage : Usage} (positive : 0 < usage.conns) : Counted (Ledger.add dirty user usage).entries := by
  intro entry member
  have found := mem_entries_iff.mp member
  rw [Ledger.add, get?_alter] at found
  split at found
  · rw [← Option.some.inj found]
    change 0 < _ + usage.conns
    omega
  · exact counted entry (mem_entries_iff.mpr found)

theorem counted_requeue {entries : List (String × Usage)} (positive : Counted entries)
    {dirty : OrderedMap String Usage} (counted : Counted dirty.entries) :
    Counted (Ledger.requeue dirty entries).entries := by
  induction entries generalizing dirty with
  | nil => exact counted
  | cons entry rest ih =>
    exact ih (fun other member => positive other (List.mem_cons_of_mem _ member))
      (counted_add counted entry.1 (positive entry List.mem_cons_self))

namespace Ledger.Sound

variable {ledger : Ledger}

theorem flush (sound : ledger.Sound) (clock : Clock) : (ledger.flush clock).Sound := by
  by_cases empty : ledger.dirty.entries = []
  · rw [Ledger.flush, if_pos empty]
    exact sound
  · rw [Ledger.flush, if_neg empty, if_pos sound.bound]
    refine ⟨sound.bound, nofun, fun flush member => ?_⟩
    rcases List.mem_append.mp member with old | new
    · exact sound.flushes flush old
    · rw [List.mem_singleton.mp new]
      refine ⟨sound.counted, rfl, fun _ => ?_⟩
      obtain ⟨entry, rest, entries⟩ := List.exists_cons_of_ne_nil empty
      simp [Flush.statements, entries]

theorem scheduleFlush (sound : ledger.Sound) (clock : Clock) : (ledger.scheduleFlush clock).Sound := by
  unfold Ledger.scheduleFlush
  split
  · exact sound
  · have timed : ({ ledger with flushTimer := true } : Ledger).Sound :=
      ⟨sound.bound, sound.counted, sound.flushes⟩
    exact timed.flush clock

theorem report (sound : ledger.Sound) (user : String) (up down : ℕ) (device : String) (clock : Clock) :
    (ledger.report user up down device clock).1.Sound := by
  have counted := counted_add sound.counted user (show 0 < (⟨up, down, 1⟩ : Usage).conns from Nat.one_pos)
  unfold Ledger.report
  refine Ledger.Sound.scheduleFlush ?_ clock
  split
  · exact ⟨sound.bound, counted, sound.flushes⟩
  · exact ⟨sound.bound, counted, sound.flushes⟩

theorem admitDevice (sound : ledger.Sound) (user device : String) (limit now : ℕ) :
    (ledger.admitDevice user device limit now).1.Sound := by
  unfold Ledger.admitDevice
  split
  · exact sound
  · exact ⟨sound.bound, sound.counted, sound.flushes⟩

theorem set (sound : ledger.Sound) {index : ℕ} {changed : Flush} (changedSound : changed.Sound) :
    ∀ flush ∈ ledger.flushes.set index changed, flush.Sound := by
  intro flush member
  rcases List.mem_or_eq_of_mem_set member with old | rfl
  · exact sound.flushes flush old
  · exact changedSound

end Ledger.Sound

variable {world world' : World} {event : Event} {index : ℕ} {flush : Flush}

theorem answered_sound (sound : world.ledger.Sound) (found : world.ledger.flushes[index]? = some flush)
    (clock : Clock) : (world.answered index flush clock).ledger.Sound := by
  have old := sound.flushes flush (List.mem_of_getElem? found)
  have hundreds : (flush.sent + 100) % 100 = 0 := by
    have := old.hundreds
    omega
  unfold World.answered
  dsimp only
  split
  · next more => exact ⟨sound.bound, sound.counted, sound.set ⟨old.counted, hundreds, fun _ => more⟩⟩
  · exact ⟨sound.bound, sound.counted, sound.set ⟨old.counted, hundreds, nofun⟩⟩

theorem refused_sound (sound : world.ledger.Sound) (found : world.ledger.flushes[index]? = some flush)
    (clock : Clock) : (world.refused index flush clock).ledger.Sound := by
  have old := sound.flushes flush (List.mem_of_getElem? found)
  exact ⟨sound.bound, counted_requeue old.counted sound.counted, sound.set ⟨old.counted, old.hundreds, nofun⟩⟩

theorem sound_step (sound : world.ledger.Sound) (stepped : ledger.step? world event = some world') :
    world'.ledger.Sound := by
  change world.step? event = some world' at stepped
  cases event with
  | report user up down device clock =>
    cases stepped
    exact sound.report user up down device clock
  | admitDevice user device limit clock =>
    cases stepped
    exact sound.admitDevice user device limit clock.now
  | flush clock =>
    cases stepped
    exact sound.flush clock
  | timer =>
    simp only [World.step?] at stepped
    split at stepped <;> cases stepped
    exact ⟨sound.bound, sound.counted, sound.flushes⟩
  | alarm clock =>
    simp only [World.step?] at stepped
    split at stepped <;> cases stepped
    have fired : ({ world.ledger with alarm := none } : Ledger).Sound :=
      ⟨sound.bound, sound.counted, sound.flushes⟩
    exact fired.flush clock
  | batch index delivery clock =>
    obtain ⟨flush, found, -, rfl⟩ := batch_cases stepped
    let applied : World := { world with db := world.db.batch flush.chunk }
    have appliedSound : applied.ledger.Sound := sound
    cases delivery with
    | answered => exact answered_sound appliedSound found clock
    | lost => exact refused_sound appliedSound found clock
    | refused => exact refused_sound sound found clock
  | alarmSet index clock =>
    obtain ⟨flush, found, settled⟩ := alarmSet_cases stepped
    have old := sound.flushes flush (List.mem_of_getElem? found)
    rcases settled with ⟨-, rfl⟩ | ⟨-, rfl⟩
    · exact ⟨sound.bound, sound.counted, sound.set ⟨old.counted, old.hundreds, (by rintro ⟨⟩)⟩⟩
    · exact ⟨sound.bound, sound.counted, sound.set ⟨old.counted, old.hundreds, (by rintro ⟨⟩)⟩⟩

/-! ## Runs -/

/-- The batch took effect although it failed. -/
def Event.lost : Event → Bool
  | .batch _ .lost _ => true
  | _ => false

namespace Column

variable (column : Column)

/-- The law of a column. -/
theorem balance_step (sound : world.ledger.Sound) (valid : column.Valid world.db) (kept : event.lost = false)
    (stepped : ledger.step? world event = some world') :
    column.balance world' = column.balance world + column.reported event + column.recounted world event ∧
      column.Valid world'.db := by
  change world.step? event = some world' at stepped
  cases event with
  | report user up down device clock =>
    cases stepped
    refine ⟨?_, valid⟩
    let added : Ledger := { world.ledger with dirty := Ledger.add world.ledger.dirty user ⟨up, down, 1⟩ }
    have scheduled (ledger : Ledger) (same : ledger.bound = true) (dirty : ledger.dirty = added.dirty)
        (flushes : ledger.flushes = added.flushes) :
        column.balance ⟨ledger.scheduleFlush clock, world.db⟩ = column.balance ⟨added, world.db⟩ := by
      rw [column.balance_schedule ledger world.db clock same]
      simp only [balance, dirty, flushes]
    have total := column.total_add world.ledger.dirty user ⟨up, down, 1⟩
    have sum : column.balance ⟨added, world.db⟩ = column.balance world + column.amount user ⟨up, down, 1⟩ := by
      simp only [balance, added, total]
      omega
    change column.balance ⟨(if device = "" then added else added.touchDevice user device clock.now).scheduleFlush
      clock, world.db⟩ = _ + column.amount user ⟨up, down, 1⟩ + 0
    rw [add_zero, ← sum]
    split
    · exact scheduled added sound.bound rfl rfl
    · exact scheduled (added.touchDevice user device clock.now) sound.bound rfl rfl
  | admitDevice user device limit clock =>
    cases stepped
    refine ⟨?_, valid⟩
    simp only [Ledger.admitDevice, reported, recounted, add_zero]
    split <;> rfl
  | flush clock =>
    cases stepped
    refine ⟨?_, valid⟩
    simp only [reported, recounted, add_zero]
    exact column.balance_flush world.ledger world.db clock sound.bound
  | timer =>
    simp only [World.step?] at stepped
    split at stepped <;> cases stepped
    exact ⟨by simp [reported, recounted, balance], valid⟩
  | alarm clock =>
    simp only [World.step?] at stepped
    split at stepped <;> cases stepped
    have flushed := column.balance_flush { world.ledger with alarm := none } world.db clock sound.bound
    refine ⟨?_, valid⟩
    simp only [reported, recounted, add_zero]
    exact flushed
  | batch index delivery clock =>
    obtain ⟨flush, found, awaits, applied⟩ := batch_cases stepped
    cases delivery with
    | answered =>
      rw [applied, World.batchEnds]
      refine ⟨?_, ?_⟩
      · rw [column.balance_answered clock found awaits valid]
        simp [reported, recounted]
      · rw [World.answered_db]
        exact (column.batch_stored flush.chunk valid).1
    | lost => contradiction
    | refused =>
      rw [applied, World.batchEnds]
      refine ⟨?_, valid⟩
      rw [column.balance_refused clock found awaits]
      simp [reported, recounted, found]
  | alarmSet index clock =>
    obtain ⟨flush, found, settled⟩ := alarmSet_cases stepped
    have paid (phase : Phase) (changed : phase ≠ .batch) : column.inFlight { flush with phase := phase } = 0 :=
      if_neg changed
    have before : column.inFlight flush = 0 := by
      rcases settled with ⟨phase, -⟩ | ⟨phase, -⟩ <;> exact if_neg (by rw [phase]; rintro ⟨⟩)
    rcases settled with ⟨-, rfl⟩ | ⟨-, rfl⟩
    · refine ⟨?_, valid⟩
      simp only [balance, World.setFlush, World.setAlarm, column.sum_setFlush found, before,
        paid .lastAlarm (by rintro ⟨⟩), reported, recounted]
      omega
    · refine ⟨?_, valid⟩
      simp only [balance, World.setFlush, column.sum_setFlush found, before, paid .done (by rintro ⟨⟩), reported, recounted]
      omega

end Column

/-- No batch takes effect and fails, and a batch that fails is the first of its flush. -/
def Whole (world : World) : Event → Prop
  | .batch index delivery _ => delivery ≠ .lost ∧ (delivery = .refused →
      ∀ flush, world.ledger.flushes[index]? = some flush → flush.sent = 0)
  | _ => True

/-- A batch that fails has no effect. -/
def Clean (_ : World) (event : Event) : Prop := event.lost = false

theorem Whole.clean (whole : Whole world event) : event.lost = false := by
  cases event with
  | batch index delivery clock =>
    cases delivery with
    | lost => exact absurd rfl whole.1
    | answered => rfl
    | refused => rfl
  | _ => rfl

theorem Column.recounted_whole (column : Column) (whole : Whole world event) : column.recounted world event = 0 := by
  unfold Column.recounted
  split
  · next index _ =>
    split
    · next flush found => simp [whole.2 rfl flush found, Column.owedAll]
    · rfl
  · rfl

theorem Column.balance_run (column : Column) {events : List Event} (run : ledger.Run Whole world events world')
    (sound : world.ledger.Sound) (valid : column.Valid world.db) :
    column.balance world' = column.balance world + (events.map column.reported).sum ∧ column.Valid world'.db := by
  induction run with
  | nil => simpa using valid
  | cons whole stepped _ ih =>
    obtain ⟨step, validNext⟩ := column.balance_step sound valid whole.clean stepped
    obtain ⟨rest, validAfter⟩ := ih (sound_step sound stepped) validNext
    rw [column.recounted_whole whole] at step
    refine ⟨?_, validAfter⟩
    rw [rest, step, List.map_cons, List.sum_cons]
    omega

/-! ## The columns of a user -/

/-- A counter of `usage_daily`, over all days. -/
def dailyColumn (counter : Counter) (user : String) : Column where
  amount name usage := if name = user then usage.get counter else 0
  owed
    | .updateUser _ _ => 0
    | .upsertDaily _ name usage => if name = user then usage.get counter else 0
  stored db := total (fun key usage => if key.2 = user then (usage.get counter : ℤ) else 0) db.usage_daily.entries
  Valid _ := True
  amount_add name a b := by
    split
    · rw [Usage.get_add, Nat.cast_add]
    · rfl
  pays _ _ _ := zero_add _
  runs db statement _ := by
    refine ⟨trivial, ?_⟩
    cases statement with
    | updateUser name bytes => exact (add_zero _).symm
    | upsertDaily day name usage =>
      refine total_alter _ db.usage_daily (day, name) _ _ ?_ fun old => ?_
      · rw [Option.getD_none, Usage.zero_add]
      · simp only [Option.getD_some, Usage.get_add, Nat.cast_add]
        split <;> rfl

/-- `used_bytes` of a user whose row exists. -/
def usedColumn (user : String) : Column where
  amount name usage := if name = user then usage.bytes else 0
  owed
    | .updateUser name bytes => if name = user then bytes else 0
    | .upsertDaily _ _ _ => 0
  stored db := ((db.users.get? user).map (·.used_bytes)).getD 0
  Valid db := (db.users.get? user).isSome
  amount_add name a b := by
    split
    · rw [Usage.bytes_add, Nat.cast_add]
    · rfl
  pays _ _ _ := add_zero _
  runs db statement valid := by
    obtain ⟨row, found⟩ := Option.isSome_iff_exists.mp valid
    cases statement with
    | upsertDaily day name usage => exact ⟨valid, (add_zero _).symm⟩
    | updateUser name bytes =>
      simp only [Database.run, get?_modify]
      by_cases same : name = user
      · subst same
        simp [found]
      · have other : user ≠ name := fun equal => same equal.symm
        simp [same, other, found]

theorem dailyColumn_owedAll_nonneg (counter : Counter) (user : String) (statements : List Statement) :
    0 ≤ (dailyColumn counter user).owedAll statements := by
  apply List.sum_nonneg
  intro owed member
  obtain ⟨statement, -, rfl⟩ := List.mem_map.mp member
  cases statement with
  | updateUser name bytes => exact le_rfl
  | upsertDaily day name usage =>
    change 0 ≤ if name = user then (usage.get counter : ℤ) else 0
    split <;> omega

/-- A step puts nothing below the law. -/
theorem recounted_nonneg (counter : Counter) (user : String) (world : World) (event : Event) :
    0 ≤ (dailyColumn counter user).recounted world event := by
  unfold Column.recounted
  split
  · split
    · exact dailyColumn_owedAll_nonneg counter user _
    · exact le_rfl
  · exact le_rfl

/-- A failure after a committed batch counts the connections of the first user twice. -/
theorem recounted_pos (sound : world.ledger.Sound) (clean : event.lost = false) (partly : ¬ Whole world event)
    (stepped : ledger.step? world event = some world') :
    ∃ user, 0 < (dailyColumn .conns user).recounted world event := by
  cases event with
  | batch index delivery clock =>
    cases delivery with
    | answered => exact absurd ⟨nofun, nofun⟩ partly
    | lost => contradiction
    | refused =>
      obtain ⟨flush, found, awaits, -⟩ := batch_cases stepped
      have flushSound := sound.flushes flush (List.mem_of_getElem? found)
      have later : flush.sent ≠ 0 := by
        intro first
        refine partly ⟨nofun, fun _ other same => ?_⟩
        rw [Option.some.inj (same.symm.trans found)]
        exact first
      obtain ⟨sent, hundreds⟩ : ∃ sent, flush.sent = sent + 2 := by
        have := flushSound.hundreds
        exact ⟨flush.sent - 2, by omega⟩
      cases entries : flush.entries with
      | nil =>
        have := flushSound.unsent awaits
        simp [Flush.statements, entries] at this
      | cons entry rest =>
        have counted := flushSound.counted entry (entries ▸ List.mem_cons_self)
        refine ⟨entry.1, ?_⟩
        have nonneg := dailyColumn_owedAll_nonneg .conns entry.1
          (List.take sent (Flush.statements { flush with entries := rest }))
        have split : flush.statements.take flush.sent =
            [Statement.updateUser entry.1 (entry.2.up + entry.2.down), .upsertDaily flush.day entry.1 entry.2] ++
              List.take sent (Flush.statements { flush with entries := rest }) := by
          rw [hundreds, Flush.statements, entries]
          rfl
        have first : (dailyColumn .conns entry.1).owedAll
            [.updateUser entry.1 (entry.2.up + entry.2.down), .upsertDaily flush.day entry.1 entry.2] =
              entry.2.conns := by
          simp [Column.owedAll, dailyColumn, Usage.get]
        simp only [Column.recounted, found, split, Column.owedAll_append, first]
        omega
  | _ => exact absurd trivial partly

/-- No run falls below the law. -/
theorem conns_floor (user : String) {events : List Event} (run : ledger.Run Clean world events world')
    (sound : world.ledger.Sound) :
    (dailyColumn .conns user).balance world + (events.map (dailyColumn .conns user).reported).sum ≤
      (dailyColumn .conns user).balance world' := by
  induction run with
  | nil => simp
  | @cons world mid world' event events clean stepped _ ih =>
    have step := ((dailyColumn .conns user).balance_step sound trivial clean stepped).1
    have nonneg := recounted_nonneg .conns user world event
    have rest := ih (sound_step sound stepped)
    rw [List.map_cons, List.sum_cons]
    omega

/-- Either every failing batch is the first of its flush, or the connections of some user are
counted more often than they were reported. -/
theorem whole_or_recounted {events : List Event} (run : ledger.Run Clean world events world')
    (sound : world.ledger.Sound) : ledger.Run Whole world events world' ∨ ∃ user,
      (dailyColumn .conns user).balance world + (events.map (dailyColumn .conns user).reported).sum <
        (dailyColumn .conns user).balance world' := by
  induction run with
  | nil => exact .inl (.nil _)
  | @cons world mid world' event events clean stepped rest ih =>
    have soundNext := sound_step sound stepped
    have step (user : String) := ((dailyColumn .conns user).balance_step sound trivial clean stepped).1
    simp only [List.map_cons, List.sum_cons]
    by_cases whole : Whole world event
    · rcases ih soundNext with wholeRest | ⟨user, more⟩
      · exact .inl (.cons whole stepped wholeRest)
      · refine .inr ⟨user, ?_⟩
        have nonneg := recounted_nonneg .conns user world event
        have := step user
        omega
    · obtain ⟨user, positive⟩ := recounted_pos sound clean whole stepped
      refine .inr ⟨user, ?_⟩
      have := step user
      have := conns_floor user rest soundNext
      omega

/-! ## Conservation -/

/-- A new ledger over a database. -/
def opened (db : Database) : World := { db := db }

/-- What an event reports for a user. -/
def Event.usage (user : String) : Event → Usage
  | .report name up down _ _ => if name = user then ⟨up, down, 1⟩ else 0
  | _ => 0

def reported (user : String) (events : List Event) : Usage := (events.map (·.usage user)).sum

/-- What the map holds for a user. -/
def World.held (world : World) (user : String) : Usage := (world.ledger.dirty.get? user).getD 0

/-- The sums of the user's rows in `usage_daily`. -/
def Database.daily (db : Database) (user : String) : Usage :=
  ((db.usage_daily.entries.filter (·.1.2 = user)).map (·.2)).sum

/-- The reports of a user are in the database or in the map, exactly once. -/
structure Conserved (db : Database) (events : List Event) (world : World) (user : String) : Prop where
  used : ∀ row, db.users.get? user = some row → ∃ row', world.db.users.get? user = some row' ∧
    row'.used_bytes + (world.held user).bytes = row.used_bytes + (reported user events).bytes
  daily : world.db.daily user + world.held user = db.daily user + reported user events

theorem opened_sound (db : Database) : (opened db).ledger.Sound := ⟨rfl, nofun, nofun⟩

theorem opened_balance (column : Column) (db : Database) : column.balance (opened db) = column.stored db := by
  simp [Column.balance, opened, OrderedMap.empty]

/-- With no flush running the balance is what is stored and what is held. -/
theorem quiet_balance (column : Column) {user : String} (quiet : world.Quiet)
    (others : ∀ other usage, other ≠ user → column.amount other usage = 0) :
    column.balance world =
      column.stored world.db + ((world.ledger.dirty.get? user).map (column.amount user)).getD 0 := by
  have settled : (world.ledger.flushes.map column.inFlight).sum = 0 := by
    apply List.sum_eq_zero
    intro owed member
    obtain ⟨flush, running, rfl⟩ := List.mem_map.mp member
    exact if_neg (by rw [quiet flush running]; nofun)
  rw [Column.balance, settled, total_single column.amount world.ledger.dirty user others]
  omega

theorem dailyColumn_stored (counter : Counter) (user : String) (db : Database) :
    (dailyColumn counter user).stored db = (db.daily user).get counter := by
  simp only [dailyColumn, Database.daily, Usage.get_sum]
  induction db.usage_daily.entries with
  | nil => rfl
  | cons entry rest ih =>
    rw [total_cons, ih]
    by_cases same : entry.1.2 = user <;> simp [same]

theorem dailyColumn_quiet (counter : Counter) (user : String) (quiet : world.Quiet) :
    (dailyColumn counter user).balance world =
      (world.db.daily user).get counter + (world.held user).get counter := by
  rw [quiet_balance (dailyColumn counter user) quiet fun other usage different => if_neg different,
    dailyColumn_stored, World.held]
  cases world.ledger.dirty.get? user <;> simp [dailyColumn]

theorem usedColumn_quiet (user : String) (quiet : world.Quiet) : (usedColumn user).balance world =
    ((world.db.users.get? user).map (·.used_bytes)).getD 0 + (world.held user).bytes := by
  rw [quiet_balance (usedColumn user) quiet fun other usage different => if_neg different, World.held]
  cases world.ledger.dirty.get? user with
  | none => rfl
  | some usage => simp [usedColumn]

theorem dailyColumn_reported (counter : Counter) (user : String) (events : List Event) :
    (events.map (dailyColumn counter user).reported).sum = (reported user events).get counter := by
  rw [reported, Usage.get_sum]
  induction events with
  | nil => rfl
  | cons event rest ih =>
    simp only [List.map_cons, List.sum_cons, ih, Nat.cast_add, add_left_inj]
    cases event with
    | report name up down device clock =>
      simp only [Column.reported, dailyColumn, Event.usage]
      split <;> simp
    | _ => simp [Column.reported, Event.usage]

theorem usedColumn_reported (user : String) (events : List Event) :
    (events.map (usedColumn user).reported).sum = (reported user events).bytes := by
  induction events with
  | nil => rfl
  | cons event rest ih =>
    change (usedColumn user).reported event + (rest.map (usedColumn user).reported).sum =
      (event.usage user + reported user rest).bytes
    rw [ih, Usage.bytes_add, Nat.cast_add, add_left_inj]
    cases event with
    | report name up down device clock =>
      simp only [Column.reported, usedColumn, Event.usage]
      split <;> rfl
    | _ => rfl

theorem conserved_of_whole {db : Database} {events : List Event} (run : ledger.Run Whole (opened db) events world)
    (quiet : world.Quiet) (user : String) : Conserved db events world user := by
  constructor
  · intro row found
    have valid : (usedColumn user).Valid (opened db).db := Option.isSome_iff_exists.mpr ⟨row, found⟩
    obtain ⟨balance, present⟩ := (usedColumn user).balance_run run (opened_sound db) valid
    obtain ⟨row', found'⟩ := Option.isSome_iff_exists.mp present
    refine ⟨row', found', ?_⟩
    rw [usedColumn_quiet user quiet, opened_balance, usedColumn_reported] at balance
    simpa [usedColumn, found, found'] using balance
  · apply Usage.ext_get
    intro counter
    have balance := ((dailyColumn counter user).balance_run run (opened_sound db) trivial).1
    rw [dailyColumn_quiet counter user quiet, opened_balance, dailyColumn_reported, dailyColumn_stored] at balance
    rw [Usage.get_add, Usage.get_add]
    omega

/-- Batches that fail fail without effect. Once no flush is running, every user's reports are
conserved if and only if no batch of a flush failed after an earlier one had been committed. -/
theorem usage_conserved_iff {db : Database} {events : List Event} (run : ledger.Run Clean (opened db) events world)
    (quiet : world.Quiet) :
    (∀ user, Conserved db events world user) ↔ ledger.Run Whole (opened db) events world := by
  constructor
  · intro conserved
    rcases whole_or_recounted run (opened_sound db) with whole | ⟨user, more⟩
    · exact whole
    · have daily := congrArg (Usage.get · .conns) (conserved user).daily
      rw [opened_balance, dailyColumn_quiet .conns user quiet, dailyColumn_reported, dailyColumn_stored] at more
      simp only [Usage.get_add] at daily
      omega
  · intro whole user
    exact conserved_of_whole whole quiet user

namespace Sample

def username (number : ℕ) : String := "user" ++ toString number

/-- A panel with that many users. -/
def database (users : ℕ) : Database where
  users := (List.range users).foldl (fun table number =>
    table.alter (username number) fun _ => { uuid := toString number }) .empty
  usage_daily := .empty

def clock (now : ℕ) : Clock := ⟨now, "2026-09-12"⟩

/-- The first batch of a flush is refused; the alarm retries. -/
def retried : List Event :=
  [.report "user0" 10 20 "device" (clock 0), .batch 0 .refused (clock 1), .alarmSet 0 (clock 1),
    .alarmSet 0 (clock 1), .alarm (clock 30001), .batch 1 .answered (clock 30002), .alarmSet 1 (clock 30002)]

/-- The first report starts the timer and is flushed at once. Fifty-one users follow, and the second
batch of their flush is refused. -/
def refusedLater : List Event :=
  [Event.report "user0" 10 20 "device" (clock 0), .batch 0 .answered (clock 1), .alarmSet 0 (clock 1)] ++
    (List.range 51).map (fun number => Event.report (username number) 10 20 "device" (clock 2)) ++
    [Event.flush (clock 3), .batch 1 .answered (clock 4), .batch 1 .refused (clock 5), .alarmSet 1 (clock 5),
      .alarmSet 1 (clock 5)]

end Sample

/-- An executable form of `Whole`. -/
def wholeCheck (world : World) : Event → Bool
  | .batch index delivery _ => delivery != .lost && (delivery != .refused ||
      (world.ledger.flushes[index]?).all (·.sent == 0))
  | _ => true

theorem whole_of_check (world : World) (event : Event) (passed : wholeCheck world event = true) :
    Whole world event := by
  cases event with
  | batch index delivery clock =>
    simp only [wholeCheck, Bool.and_eq_true, bne_iff_ne, Bool.or_eq_true] at passed
    refine ⟨passed.1, fun refused flush found => ?_⟩
    have first := passed.2.resolve_left (not_not.mpr refused)
    simpa [found] using first
  | _ => trivial

/-- A refused first batch is conserved. -/
theorem usage_conserved_iff_sample : ∃ world,
    ledger.Run Clean (opened (Sample.database 1)) Sample.retried world ∧ world.Quiet ∧
    (world.db.users.get? "user0").map (·.used_bytes) = some 30 ∧
    ∀ user, Conserved (Sample.database 1) Sample.retried world user := by
  obtain ⟨world, replayed, quiet, used⟩ : ∃ world,
      ledger.checked? wholeCheck (opened (Sample.database 1)) Sample.retried = some world ∧ world.Quiet ∧
      (world.db.users.get? "user0").map (·.used_bytes) = some 30 := ⟨_, rfl, by decide, rfl⟩
  have whole := Machine.Run.of_checked whole_of_check replayed
  have clean := whole.mono fun _ _ met => Whole.clean met
  exact ⟨world, clean, quiet, used, (usage_conserved_iff clean quiet).mpr whole⟩

/-- The users of the first batch are counted in the database and put back. -/
theorem usage_counted_twice : ∃ world,
    ledger.Run Clean (opened (Sample.database 51)) Sample.refusedLater world ∧ world.Quiet ∧
    ¬ Conserved (Sample.database 51) Sample.refusedLater world "user0" := by
  have evaluated : (ledger.checked? (fun _ event => !event.lost) (opened (Sample.database 51))
      Sample.refusedLater).any (fun world => decide world.Quiet && (world.held "user0").bytes == 30 &&
        (world.db.users.get? "user0").map (·.used_bytes) == some 60) = true := by decide +kernel
  have before : ((Sample.database 51).users.get? "user0").map (·.used_bytes) = some 0 := by decide +kernel
  have reports : (reported "user0" Sample.refusedLater).bytes = 60 := by decide +kernel
  obtain ⟨world, replayed, checked⟩ := (Option.any_eq_true _ _).mp evaluated
  simp only [Bool.and_eq_true, decide_eq_true_eq, beq_iff_eq] at checked
  obtain ⟨⟨quiet, held⟩, used⟩ := checked
  obtain ⟨row, found, unused⟩ := Option.map_eq_some_iff.mp before
  refine ⟨world, .of_checked (fun _ event passed => by simpa [Clean] using passed) replayed, quiet, fun conserved => ?_⟩
  obtain ⟨row', found', balance⟩ := conserved.used row found
  rw [found', Option.map_some, Option.some.injEq] at used
  rw [held, reports, used, unused] at balance
  exact absurd balance (by decide)

end OmniControlPlane.Panel
