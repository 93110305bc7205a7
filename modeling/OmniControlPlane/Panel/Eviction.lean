import OmniControlPlane.Panel.Conservation

/-! # Evictions of the ledger

An eviction takes the fields of the object and leaves its storage, which holds the alarm and nothing else.
A batch that was sent is run by D1 whether or not the object is still there; what a flush has not sent yet
is gone with the map. All batches succeed here.
-/

namespace OmniControlPlane.Panel

open Lib OrderedMap Machine

def Ledger.running (ledger : Ledger) : List Flush := ledger.flushes.filter fun flush => flush.phase = .batch

/-- The object is evicted, and made anew by its constructor. -/
def World.evict (world : World) : World where
  ledger := { alarm := world.ledger.alarm, bound := world.ledger.bound }
  db := world.db.batch (world.ledger.running.flatMap (·.chunk))

namespace Eviction

/-- `acknowledged` are the reports that were answered with `ok`. -/
structure State where
  world : World
  acknowledged : List Panel.Event := []

inductive Event where
  | piece (event : Panel.Event)
  | evict
deriving DecidableEq, Repr

def succeeds : Panel.Event → Bool
  | .batch _ delivery _ => delivery = .answered
  | _ => true

def State.step? (state : State) : Event → Option State
  | .piece event =>
    if succeeds event then (state.world.step? event).map fun world => ⟨world, state.acknowledged ++ [event]⟩ else none
  | .evict => some { state with world := state.world.evict }

def machine : Machine State Event := ⟨State.step?⟩

/-! ## What must hold -/

/-- The bytes that a statement adds to `used_bytes` of a user. -/
def statementBytes (user : String) : Statement → ℕ
  | .updateUser name bytes => if name = user then bytes else 0
  | .upsertDaily .. => 0

def bytesOf (user : String) (statements : List Statement) : ℕ := (statements.map (statementBytes user)).sum

def committed (db : Database) (user : String) : ℤ := ((db.users.get? user).map (·.used_bytes)).getD 0

/-- The bytes of a user in the database, in the map and in the flushes under way. -/
def bytes (world : World) (user : String) : ℤ :=
  committed world.db user + (world.held user).bytes +
    bytesOf user (world.ledger.running.flatMap fun flush => flush.statements.drop flush.sent)

/-- The bytes of a user that only the object knows of. -/
def unsaved (world : World) (user : String) : ℕ :=
  (world.held user).bytes + bytesOf user (world.ledger.running.flatMap fun flush => flush.statements.drop (flush.sent + 100))

/-- Every byte that was acknowledged for a user of the database is in one of the places. -/
def Accounted (db : Database) (state : State) : Prop :=
  ∀ user row, db.users.get? user = some row →
    bytes state.world user = row.used_bytes + (reported user state.acknowledged).bytes

/-- The law for a history: it holds in every state, and no eviction lowers the sum. -/
structure Durable (db : Database) (events : List Event) : Prop where
  accounted : ∀ first rest state, events = first ++ rest → machine.Run Free ⟨opened db, []⟩ first state → Accounted db state
  evictions : ∀ first rest state, events = first ++ .evict :: rest → machine.Run Free ⟨opened db, []⟩ first state →
    ∀ user, (db.users.get? user).isSome → bytes state.world user ≤ bytes state.world.evict user

/-- An eviction comes when the object holds no bytes of a user that it has not sent. -/
def AllSaved (state : State) : Event → Prop
  | .piece _ => True
  | .evict => ∀ user, (state.world.db.users.get? user).isSome → unsaved state.world user = 0

/-! ## One step -/

section

variable {db : Database} {world : World} {state state' : State} {user : String}

@[simp] theorem bytesOf_append (first second : List Statement) :
    bytesOf user (first ++ second) = bytesOf user first + bytesOf user second := by
  simp [bytesOf]

theorem owedAll_eq_bytesOf (statements : List Statement) :
    (usedColumn user).owedAll statements = bytesOf user statements := by
  induction statements with
  | nil => rfl
  | cons statement rest ih =>
    have one : (usedColumn user).owed statement = statementBytes user statement := by
      cases statement with
      | updateUser name bytes =>
        simp only [usedColumn, statementBytes]
        split <;> rfl
      | upsertDaily day name usage => rfl
    simp only [Column.owedAll, bytesOf, List.map_cons, List.sum_cons, Nat.cast_add] at ih ⊢
    rw [one, ih]

theorem usedColumn_balance (world : World) (user : String) : (usedColumn user).balance world = bytes world user := by
  have flushing : ∀ flushes : List Flush, (flushes.map (usedColumn user).inFlight).sum =
      bytesOf user ((flushes.filter fun flush => flush.phase = .batch).flatMap fun flush => flush.statements.drop flush.sent) := by
    intro flushes
    induction flushes with
    | nil => rfl
    | cons flush rest ih =>
      rw [List.map_cons, List.sum_cons, ih, Column.inFlight, owedAll_eq_bytesOf]
      by_cases batch : flush.phase = .batch
      · rw [if_pos batch, List.filter_cons_of_pos (by simpa using batch), List.flatMap_cons, bytesOf_append, Nat.cast_add]
      · rw [if_neg batch, List.filter_cons_of_neg (by simpa using batch), zero_add]
  have held : total (usedColumn user).amount world.ledger.dirty.entries = (world.held user).bytes := by
    have single := total_single (usedColumn user).amount world.ledger.dirty user fun other usage different => if_neg different
    rw [single, World.held]
    cases world.ledger.dirty.get? user with
    | none => rfl
    | some usage => simp [usedColumn]
  have stored : (usedColumn user).stored world.db = committed world.db user := rfl
  rw [Column.balance, flushing, held, stored, bytes, Ledger.running]

/-- A batch commits the bytes of its statements. -/
theorem committed_batch (valid : (db.users.get? user).isSome) (statements : List Statement) :
    ((db.batch statements).users.get? user).isSome ∧
      committed (db.batch statements) user = committed db user + bytesOf user statements := by
  have stored (db : Database) : (usedColumn user).stored db = committed db user := rfl
  obtain ⟨present, added⟩ := (usedColumn user).batch_stored statements valid
  rw [stored, stored, owedAll_eq_bytesOf] at added
  exact ⟨present, by omega⟩

/-- An eviction loses what is not saved. -/
theorem bytes_evict (valid : (world.db.users.get? user).isSome) :
    bytes world.evict user + unsaved world user = bytes world user := by
  have parts : ∀ flushes : List Flush, bytesOf user (flushes.flatMap fun flush => flush.statements.drop flush.sent) =
      bytesOf user (flushes.flatMap (·.chunk)) +
        bytesOf user (flushes.flatMap fun flush => flush.statements.drop (flush.sent + 100)) := by
    intro flushes
    induction flushes with
    | nil => rfl
    | cons flush rest ih =>
      have split := List.take_append_drop 100 (flush.statements.drop flush.sent)
      rw [List.drop_drop] at split
      simp only [List.flatMap_cons, bytesOf_append, ih]
      rw [← split, bytesOf_append, Flush.chunk]
      omega
  have empty : bytes world.evict user = committed world.evict.db user := (add_zero _).trans (add_zero _)
  rw [empty, World.evict, (committed_batch valid _).2, bytes, unsaved, parts world.ledger.running]
  omega

theorem piece_cases {event : Panel.Event} (stepped : machine.step? state (.piece event) = some state') :
    succeeds event = true ∧ ledger.step? state.world event = some state'.world ∧
      state'.acknowledged = state.acknowledged ++ [event] := by
  change state.step? (.piece event) = some state' at stepped
  rw [State.step?] at stepped
  split at stepped
  · next succeeded =>
    obtain ⟨world, found, rfl⟩ := Option.map_eq_some_iff.mp stepped
    exact ⟨succeeded, found, rfl⟩
  · contradiction

theorem evict_eq (stepped : machine.step? state .evict = some state') : state' = { state with world := state.world.evict } :=
  (Option.some.inj stepped).symm

theorem whole_of_succeeds {event : Panel.Event} (succeeded : succeeds event = true) : Whole world event := by
  cases event with
  | batch index delivery clock =>
    have answered : delivery = .answered := of_decide_eq_true succeeded
    exact ⟨by rw [answered]; nofun, fun refused => by rw [answered] at refused; contradiction⟩
  | _ => trivial

/-- What the proof keeps: the law, a sound ledger, and the users of the database. -/
structure Kept (db : Database) (state : State) : Prop where
  sound : state.world.ledger.Sound
  users : ∀ user, (state.world.db.users.get? user).isSome ↔ (db.users.get? user).isSome
  accounted : Accounted db state

theorem kept_opened (db : Database) : Kept db ⟨opened db, []⟩ where
  sound := opened_sound db
  users _ := Iff.rfl
  accounted user row found := by
    have start : bytes (opened db) user = committed db user := (add_zero _).trans (add_zero _)
    rw [start, committed, found]
    exact (add_zero _).symm

theorem batch_users (statements : List Statement) (db : Database) :
    ((db.batch statements).users.get? user).isSome = (db.users.get? user).isSome := by
  induction statements generalizing db with
  | nil => rfl
  | cons statement rest ih =>
    have one : ((db.run statement).users.get? user).isSome = (db.users.get? user).isSome := by
      cases statement with
      | updateUser name bytes =>
        simp only [Database.run, get?_modify]
        split
        · next same => rw [same, Option.isSome_map]
        · rfl
      | upsertDaily day name usage => rfl
    exact (ih (db.run statement)).trans one

/-- No piece of the object's code adds or removes a user. -/
theorem piece_users {world world' : World} {event : Panel.Event} (succeeded : succeeds event = true)
    (stepped : ledger.step? world event = some world') :
    (world'.db.users.get? user).isSome = (world.db.users.get? user).isSome := by
  change world.step? event = some world' at stepped
  cases event with
  | report user up down device clock => exact Option.some.inj stepped ▸ rfl
  | admitDevice user device limit clock => exact Option.some.inj stepped ▸ rfl
  | flush clock => exact Option.some.inj stepped ▸ rfl
  | timer =>
    simp only [World.step?] at stepped
    split at stepped <;> cases stepped
    rfl
  | alarm clock =>
    simp only [World.step?] at stepped
    split at stepped <;> cases stepped
    rfl
  | batch index delivery clock =>
    obtain ⟨flush, -, -, rfl⟩ := batch_cases stepped
    obtain rfl : delivery = .answered := of_decide_eq_true succeeded
    rw [World.batchEnds, World.answered_db, batch_users]
  | alarmSet index clock =>
    obtain ⟨flush, -, ⟨-, rfl⟩ | ⟨-, rfl⟩⟩ := alarmSet_cases stepped <;> rfl

/-- In a world that satisfies the law, an eviction keeps it exactly when all is saved. -/
theorem accounted_evict_iff (kept : Kept db state) (stepped : machine.step? state .evict = some state') :
    (Accounted db state' ↔ AllSaved state .evict) ∧ ∀ user, (db.users.get? user).isSome →
      (bytes state.world user ≤ bytes state.world.evict user ↔ unsaved state.world user = 0) := by
  obtain rfl := evict_eq stepped
  have lost (user : String) (valid : (db.users.get? user).isSome) :
      bytes state.world.evict user + unsaved state.world user = bytes state.world user :=
    bytes_evict ((kept.users user).mpr valid)
  refine ⟨⟨fun accounted user valid => ?_, fun saved user row found => ?_⟩, fun user valid => ?_⟩
  · obtain ⟨row, found⟩ := Option.isSome_iff_exists.mp ((kept.users user).mp valid)
    have before := kept.accounted user row found
    have after := accounted user row found
    have difference := lost user ((kept.users user).mp valid)
    dsimp only at after
    omega
  · have valid : (db.users.get? user).isSome := Option.isSome_iff_exists.mpr ⟨row, found⟩
    have before := kept.accounted user row found
    have difference := lost user valid
    have none := saved user ((kept.users user).mpr valid)
    dsimp only
    omega
  · have difference := lost user valid
    omega

theorem kept_step {event : Event} (kept : Kept db state) (saved : AllSaved state event)
    (stepped : machine.step? state event = some state') : Kept db state' := by
  cases event with
  | piece event =>
    obtain ⟨succeeded, stepped, acknowledged⟩ := piece_cases stepped
    have whole : Whole state.world event := whole_of_succeeds succeeded
    have valid (user : String) (present : (db.users.get? user).isSome) :
        (usedColumn user).Valid state'.world.db ∧ bytes state'.world user =
          bytes state.world user + (usedColumn user).reported event := by
      obtain ⟨balance, valid⟩ := (usedColumn user).balance_step kept.sound ((kept.users user).mpr present) whole.clean stepped
      rw [(usedColumn user).recounted_whole whole, usedColumn_balance, usedColumn_balance, add_zero] at balance
      exact ⟨valid, balance⟩
    refine ⟨sound_step kept.sound stepped, fun user => ?_, fun user row found => ?_⟩
    · rw [piece_users succeeded stepped, kept.users user]
    · obtain ⟨-, added⟩ := valid user (Option.isSome_iff_exists.mpr ⟨row, found⟩)
      have before := kept.accounted user row found
      have reports := usedColumn_reported user (state.acknowledged ++ [event])
      rw [List.map_append, List.sum_append, usedColumn_reported, List.map_singleton, List.sum_singleton] at reports
      rw [acknowledged]
      omega
  | evict =>
    have accounted := (accounted_evict_iff kept stepped).1.mpr saved
    obtain rfl := evict_eq stepped
    refine ⟨⟨kept.sound.bound, nofun, nofun⟩, fun user => ?_, accounted⟩
    rw [← kept.users user, World.evict, batch_users]

/-- Reports are durable exactly when the object is never evicted while it alone knows of bytes. -/
theorem durable_iff {events : List Event} (run : machine.Run Free ⟨opened db, []⟩ events state) :
    Durable db events ↔ machine.Run AllSaved ⟨opened db, []⟩ events state := by
  have step (state : State) (event : Event) (state' : State) (kept : Kept db state)
      (stepped : machine.step? state event = some state') :
      (Accounted db state' ↔ AllSaved state event) ∧ (AllSaved state event → Kept db state') := by
    refine ⟨?_, fun saved => kept_step kept saved stepped⟩
    cases event with
    | piece event =>
      have saved : AllSaved state (.piece event) := trivial
      exact iff_of_true (kept_step kept saved stepped).accounted saved
    | evict => exact (accounted_evict_iff kept stepped).1
  have exact := Run.always_iff AllSaved (Kept db) (Accounted db) (fun _ kept => kept.accounted) step run (kept_opened db)
  refine ⟨fun durable => exact.mp durable.accounted, fun saved => ⟨exact.mpr saved, ?_⟩⟩
  intro first rest mid split reached user valid
  rw [split] at saved
  obtain ⟨mid', before, after⟩ := Run.append_iff.mp saved
  obtain rfl : mid = mid' := Option.some.inj
    ((Run.free_iff_replay.mp reached).symm.trans (Run.free_iff_replay.mp (before.mono fun _ _ _ => trivial)))
  obtain ⟨met, next, stepped, -⟩ := Run.cons_iff.mp after
  have kept : Kept db mid := before.preserves (Kept db) (fun _ _ _ kept saved => kept_step kept saved) (kept_opened db)
  exact ((accounted_evict_iff kept stepped).2 user valid).mpr (met user ((kept.users user).mpr valid))

end

namespace Sample

open Panel.Sample

/-- The first report is flushed at once; the second stays in the map. -/
def reports : List Event :=
  [.piece (.report "user0" 10 20 "device" (clock 0)), .piece (.report "user0" 10 20 "device" (clock 1)),
    .piece (.batch 0 .answered (clock 2)), .piece (.alarmSet 0 (clock 3))]

/-- The alarm flushes what is in the map. -/
def flushed : List Event := [.piece (.alarm (clock 30002)), .piece (.batch 1 .answered (clock 30003))]

end Sample

/-- The map is empty, and no flush has a batch left after the one under way. -/
def savedCheck (state : State) : Event → Bool
  | .piece _ => true
  | .evict => state.world.ledger.dirty.entries = [] &&
      state.world.ledger.running.all fun flush => flush.statements.length ≤ flush.sent + 100

theorem allSaved_of_check (state : State) (event : Event) (passed : savedCheck state event = true) :
    AllSaved state event := by
  cases event with
  | piece event => trivial
  | evict =>
    simp only [savedCheck, Bool.and_eq_true, decide_eq_true_eq, List.all_eq_true] at passed
    obtain ⟨empty, sent⟩ := passed
    intro user _
    have held : (state.world.held user).bytes = 0 := by
      rw [World.held, OrderedMap.get?, empty]
      rfl
    have nothing : state.world.ledger.running.flatMap (fun flush => flush.statements.drop (flush.sent + 100)) = [] :=
      List.flatMap_eq_nil_iff.mpr fun flush member => List.drop_eq_nil_of_le (sent flush member)
    rw [unsaved, held, nothing]
    rfl

/-- After the alarm all is saved. -/
theorem durable_iff_flushed : ∃ state, machine.Run Free ⟨opened (Panel.Sample.database 1), []⟩
    (Sample.reports ++ Sample.flushed ++ [Event.evict]) state ∧
    Durable (Panel.Sample.database 1) (Sample.reports ++ Sample.flushed ++ [Event.evict]) := by
  have evaluated : (machine.checked? savedCheck ⟨opened (Panel.Sample.database 1), []⟩
      (Sample.reports ++ Sample.flushed ++ [Event.evict])).isSome = true := by decide +kernel
  obtain ⟨state, replayed⟩ := Option.isSome_iff_exists.mp evaluated
  have saved := Run.of_checked allSaved_of_check replayed
  have run := saved.mono fun _ _ _ => trivial
  exact ⟨state, run, (durable_iff run).mpr saved⟩

/-- An eviction before the alarm loses the second report. -/
theorem report_lost : (machine.replay? ⟨opened (Panel.Sample.database 1), []⟩ (Sample.reports ++ [Event.evict])).isSome ∧
    ¬ Durable (Panel.Sample.database 1) (Sample.reports ++ [Event.evict]) := by
  have evaluated : (machine.replay? ⟨opened (Panel.Sample.database 1), []⟩ (Sample.reports ++ [Event.evict])).any (fun state =>
      bytes state.world "user0" = 30 ∧ (reported "user0" state.acknowledged).bytes = 60) = true := by decide +kernel
  have before : ((Panel.Sample.database 1).users.get? "user0").map (·.used_bytes) = some 0 := by decide +kernel
  obtain ⟨state, replayed, checked⟩ := (Option.any_eq_true _ _).mp evaluated
  obtain ⟨kept, reports⟩ := of_decide_eq_true checked
  obtain ⟨row, found, unused⟩ := Option.map_eq_some_iff.mp before
  refine ⟨replayed ▸ rfl, fun durable => ?_⟩
  have law := durable.accounted _ [] state (List.append_nil _).symm (Run.free_iff_replay.mpr replayed) "user0" row found
  rw [kept, reports, unused] at law
  exact absurd law (by decide)

end Eviction

end OmniControlPlane.Panel
