import OmniControlPlane.Lib.Interleaving
import OmniControlPlane.Panel.Users

/-! # The traffic ledger

The Durable Object `Ledger` adds up the usage of finished tunnels in memory and flushes it to D1
in batches of a hundred statements, two for each user. A flush takes all entries out of the map and
puts all of them back when a batch fails, those that an earlier batch has committed included.

An event is one uninterrupted piece of the object's code: a request, a timer, an alarm, or the rest
of a flush up to its next await. A flush that has ended stays in the list.
-/

namespace OmniControlPlane.Panel

open Lib

/-- `{ up, down, conns }` -/
structure Usage where
  up : ℕ := 0
  down : ℕ := 0
  conns : ℕ := 0
deriving DecidableEq, Repr

instance : Add Usage := ⟨fun a b => ⟨a.up + b.up, a.down + b.down, a.conns + b.conns⟩⟩
instance : Zero Usage := ⟨{}⟩

/-- The two tables that a flush writes; `usage_daily` by day and username. -/
structure Database where
  users : Users
  usage_daily : OrderedMap (String × String) Usage

inductive Statement where
  | updateUser (username : String) (bytes : ℕ)
  | upsertDaily (day username : String) (usage : Usage)
deriving DecidableEq, Repr

def Database.run (db : Database) : Statement → Database
  | .updateUser username bytes =>
    { db with users := db.users.modify username fun row =>
        { row with used_bytes := row.used_bytes + bytes, requests_used := row.requests_used + 1 } }
  | .upsertDaily day username usage =>
    { db with usage_daily := db.usage_daily.alter (day, username) fun old => old.getD 0 + usage }

/-- `db.batch` -/
def Database.batch (db : Database) (statements : List Statement) : Database := statements.foldl .run db

def FLUSH_INTERVAL_MS : ℕ := 30000

/-- What a flush awaits. -/
inductive Phase where
  | batch | retryAlarm | lastAlarm | done
deriving DecidableEq, Repr

/-- A flush: the entries it took, its day, and the index of the first statement of its batch. -/
structure Flush where
  entries : List (String × Usage)
  day : String
  sent : ℕ := 0
  phase : Phase := .batch
deriving DecidableEq, Repr

def Flush.statements (flush : Flush) : List Statement :=
  flush.entries.flatMap fun entry =>
    [.updateUser entry.1 (entry.2.up + entry.2.down), .upsertDaily flush.day entry.1 entry.2]

/-- `statements.slice(i, i + 100)` -/
def Flush.chunk (flush : Flush) : List Statement := (flush.statements.drop flush.sent).take 100

/-- The Durable Object, with its alarm, the flushes begun so far, and whether `env.DB` is bound. -/
structure Ledger where
  dirty : OrderedMap String Usage := .empty
  devices : OrderedMap String (OrderedMap String ℕ) := .empty
  flushTimer : Bool := false
  alarm : Option ℕ := none
  flushes : List Flush := []
  bound : Bool := true

/-- What `Date` returns. -/
structure Clock where
  now : ℕ
  day : String
deriving DecidableEq, Repr

namespace Ledger

/-- A device that was not seen for five minutes is gone. -/
def touchDevice (ledger : Ledger) (user hash : String) (now : ℕ) : Ledger :=
  { ledger with devices := ledger.devices.alter user fun known =>
      ((known.getD .empty).alter hash fun _ => now).filter fun _ seen => !decide (5 * 60 * 1000 + seen < now) }

def deviceCount (ledger : Ledger) (user : String) : ℕ :=
  ((ledger.devices.get? user).map (·.entries.length)).getD 0

/-- Add to the entry of a user. -/
def add (dirty : OrderedMap String Usage) (user : String) (usage : Usage) : OrderedMap String Usage :=
  dirty.alter user fun cur => cur.getD 0 + usage

/-- `flush` up to its first await. Without a binding the entries are dropped. -/
def flush (ledger : Ledger) (clock : Clock) : Ledger :=
  if ledger.dirty.entries = [] then ledger
  else if ledger.bound then { ledger with
    dirty := .empty
    flushes := ledger.flushes ++ [⟨ledger.dirty.entries, clock.day, 0, .batch⟩] }
  else { ledger with dirty := .empty }

/-- The object has no `ctx`, so `flush` is called once. -/
def scheduleFlush (ledger : Ledger) (clock : Clock) : Ledger :=
  if ledger.flushTimer then ledger else { ledger with flushTimer := true }.flush clock

structure Response where
  ok : Bool := true
  devices : ℕ
deriving DecidableEq, Repr

def report (ledger : Ledger) (user : String) (up down : ℕ) (device : String) (clock : Clock) :
    Ledger × Response :=
  let added := { ledger with dirty := add ledger.dirty user ⟨up, down, 1⟩ }
  let touched := if device = "" then added else added.touchDevice user device clock.now
  let scheduled := touched.scheduleFlush clock
  (scheduled, { devices := scheduled.deviceCount user })

/-- The action `admit`. -/
def admitDevice (ledger : Ledger) (user device : String) (limit now : ℕ) : Ledger × Response :=
  if limit = 0 then (ledger, { devices := 0 })
  else
    let touched := ledger.touchDevice user device now
    let count := touched.deviceCount user
    (touched, { ok := count ≤ limit, devices := count })

/-- Put the entries of a flush back. -/
def requeue (dirty : OrderedMap String Usage) (entries : List (String × Usage)) : OrderedMap String Usage :=
  entries.foldl (fun dirty entry => add dirty entry.1 entry.2) dirty

end Ledger

/-- The ledger and the database. -/
structure World where
  ledger : Ledger := {}
  db : Database

namespace World

def setFlush (world : World) (index : ℕ) (flush : Flush) : World :=
  { world with ledger := { world.ledger with flushes := world.ledger.flushes.set index flush } }

def setAlarm (world : World) (due : ℕ) : World :=
  { world with ledger := { world.ledger with alarm := some due } }

/-- A flush goes on after the answer to its batch. -/
def answered (world : World) (index : ℕ) (flush : Flush) (clock : Clock) : World :=
  let sent := flush.sent + 100
  if sent < flush.statements.length then world.setFlush index { flush with sent := sent }
  else (world.setFlush index { flush with sent := sent, phase := .lastAlarm }).setAlarm (clock.now + FLUSH_INTERVAL_MS)

/-- The `catch` of a batch. -/
def refused (world : World) (index : ℕ) (flush : Flush) (clock : Clock) : World :=
  let requeued := { world with ledger := { world.ledger with
    dirty := Ledger.requeue world.ledger.dirty flush.entries } }
  (requeued.setFlush index { flush with phase := .retryAlarm }).setAlarm (clock.now + 15000)

/-- The answer to the batch that a flush awaits. -/
def batchEnds (world : World) (index : ℕ) (flush : Flush) (delivery : Delivery) (clock : Clock) : World :=
  let applied := { world with db := world.db.batch flush.chunk }
  match delivery with
  | .answered => applied.answered index flush clock
  | .lost => applied.refused index flush clock
  | .refused => world.refused index flush clock

end World

inductive Event where
  | report (user : String) (up down : ℕ) (device : String) (clock : Clock)
  | admitDevice (user device : String) (limit : ℕ) (clock : Clock)
  | flush (clock : Clock)
  | timer
  | alarm (clock : Clock)
  | batch (index : ℕ) (delivery : Delivery) (clock : Clock)
  | alarmSet (index : ℕ) (clock : Clock)
deriving DecidableEq, Repr

/-- One piece of the object's code. -/
def World.step? (world : World) : Event → Option World
  | .report user up down device clock =>
    some { world with ledger := (world.ledger.report user up down device clock).1 }
  | .admitDevice user device limit clock =>
    some { world with ledger := (world.ledger.admitDevice user device limit clock.now).1 }
  | .flush clock => some { world with ledger := world.ledger.flush clock }
  | .timer =>
    if world.ledger.flushTimer then some { world with ledger := { world.ledger with flushTimer := false } }
    else none
  | .alarm clock =>
    if world.ledger.alarm.any (· ≤ clock.now) then
      some { world with ledger := { world.ledger with alarm := none }.flush clock }
    else none
  | .batch index delivery clock =>
    match world.ledger.flushes[index]? with
    | some flush =>
      if flush.phase = .batch then some (world.batchEnds index flush delivery clock) else none
    | none => none
  | .alarmSet index clock =>
    match world.ledger.flushes[index]? with
    | some flush =>
      match flush.phase with
      | .retryAlarm => some ((world.setFlush index { flush with phase := .lastAlarm }).setAlarm
          (clock.now + FLUSH_INTERVAL_MS))
      | .lastAlarm => some (world.setFlush index { flush with phase := .done })
      | _ => none
    | none => none

def ledger : Machine World Event := ⟨World.step?⟩

section

variable {world world' : World} {index : ℕ} {delivery : Delivery} {clock : Clock}

@[simp] theorem World.answered_db (flush : Flush) : (world.answered index flush clock).db = world.db := by
  unfold World.answered
  dsimp only
  split <;> rfl

/-- A batch belongs to a flush that awaits it. -/
theorem batch_cases (stepped : world.step? (.batch index delivery clock) = some world') : ∃ flush,
    world.ledger.flushes[index]? = some flush ∧ flush.phase = .batch ∧
      world' = world.batchEnds index flush delivery clock := by
  simp only [World.step?] at stepped
  split at stepped
  · next flush found =>
    split at stepped
    · next awaits => exact ⟨flush, found, awaits, (Option.some.inj stepped).symm⟩
    · contradiction
  · contradiction

/-- A flush sets its last alarm, or ends. -/
theorem alarmSet_cases (stepped : world.step? (.alarmSet index clock) = some world') : ∃ flush,
    world.ledger.flushes[index]? = some flush ∧
    (flush.phase = .retryAlarm ∧ world' = (world.setFlush index { flush with phase := .lastAlarm }).setAlarm
        (clock.now + FLUSH_INTERVAL_MS) ∨
      flush.phase = .lastAlarm ∧ world' = world.setFlush index { flush with phase := .done }) := by
  simp only [World.step?] at stepped
  split at stepped
  · next flush found =>
    refine ⟨flush, found, ?_⟩
    split at stepped
    · next phase => exact .inl ⟨phase, (Option.some.inj stepped).symm⟩
    · next phase => exact .inr ⟨phase, (Option.some.inj stepped).symm⟩
    · contradiction
  · contradiction

end

/-- No flush is running. -/
def World.Quiet (world : World) : Prop := ∀ flush ∈ world.ledger.flushes, flush.phase = .done

instance (world : World) : Decidable world.Quiet :=
  inferInstanceAs (Decidable (∀ flush ∈ world.ledger.flushes, _))

end OmniControlPlane.Panel
