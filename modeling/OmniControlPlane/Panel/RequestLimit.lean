import OmniControlPlane.Panel.Conservation

/-! # What the request limit counts

A flush adds one to `requests_used` for every entry that it takes, and to `conns` what the entry has
counted. Their difference moves only when a flush begins, by the reports in excess of one in each of
its entries, so the two agree exactly when no flush takes an entry with more than one report.
-/

namespace OmniControlPlane.Panel

open Lib OrderedMap

/-! ## What a step does to flushes and tables -/

/-- Every batch succeeds. -/
def Answered (_ : World) : Event → Prop
  | .batch _ delivery _ => delivery = .answered
  | _ => True

/-- The entries of the flush that an event begins. -/
def World.taken (world : World) : Event → List (String × Usage)
  | .report user up down _ _ =>
    if world.ledger.flushTimer then [] else (Ledger.add world.ledger.dirty user ⟨up, down, 1⟩).entries
  | .flush _ | .alarm _ => world.ledger.dirty.entries
  | _ => []

/-- A flush that takes nothing does not begin. -/
def begun (entries : List (String × Usage)) (day : String) : List Flush :=
  if entries = [] then [] else [⟨entries, day, 0, .batch⟩]

section

variable {world world' : World} {event : Event}

theorem Ledger.flush_flushes (ledger : Ledger) (clock : Clock) (bound : ledger.bound = true) :
    (ledger.flush clock).flushes = ledger.flushes ++ begun ledger.dirty.entries clock.day := by
  rw [Ledger.flush, begun]
  by_cases empty : ledger.dirty.entries = []
  · rw [if_pos empty, if_pos empty, List.append_nil]
  · rw [if_neg empty, if_pos bound, if_neg empty]

theorem report_flushes (user : String) (up down : ℕ) (device : String) (clock : Clock)
    (bound : world.ledger.bound = true) : (world.ledger.report user up down device clock).1.flushes =
      world.ledger.flushes ++ begun (world.taken (.report user up down device clock)) clock.day := by
  have scheduled (ledger : Ledger) (bound : ledger.bound = true) : (ledger.scheduleFlush clock).flushes =
      ledger.flushes ++ begun (if ledger.flushTimer then [] else ledger.dirty.entries) clock.day := by
    rw [Ledger.scheduleFlush]
    cases timed : ledger.flushTimer with
    | true => exact (List.append_nil _).symm
    | false => exact ({ ledger with flushTimer := true } : Ledger).flush_flushes clock bound
  simp only [Ledger.report]
  by_cases anonymous : device = ""
  · rw [if_pos anonymous]
    exact scheduled { world.ledger with dirty := Ledger.add world.ledger.dirty user ⟨up, down, 1⟩ } bound
  · rw [if_neg anonymous]
    exact scheduled (({ world.ledger with dirty := Ledger.add world.ledger.dirty user ⟨up, down, 1⟩ } : Ledger).touchDevice
      user device clock.now) bound

/-- What a step does to a flush when every batch succeeds: it sends a batch, or changes what is awaited
behind the last one. -/
def Advances (world world' : World) (flush changed : Flush) : Prop :=
  flush.phase = .batch ∧ world'.db = world.db.batch flush.chunk ∧ changed.sent = flush.sent + 100 ∧
      (changed.phase = .batch ∨ flush.statements.length ≤ flush.sent + 100) ∨
    flush.phase ≠ .batch ∧ changed.phase ≠ .batch ∧ world'.db = world.db

/-- A step begins a flush or none, or goes on with one, which keeps its entries and its day. -/
theorem step_flushes (bound : world.ledger.bound = true) (stepped : ledger.step? world event = some world') :
    (world'.db = world.db ∧ ∃ day, world'.ledger.flushes = world.ledger.flushes ++ begun (world.taken event) day) ∨
    world.taken event = [] ∧ ∃ index flush changed, world.ledger.flushes[index]? = some flush ∧
      world'.ledger.flushes = world.ledger.flushes.set index changed ∧ changed.entries = flush.entries ∧
      changed.day = flush.day ∧ (∃ statements, world'.db = world.db.batch statements) ∧
      (Answered world event → Advances world world' flush changed) := by
  change world.step? event = some world' at stepped
  cases event with
  | report user up down device clock =>
    left
    cases stepped
    exact ⟨rfl, clock.day, report_flushes user up down device clock bound⟩
  | admitDevice user device limit clock =>
    left
    cases stepped
    refine ⟨rfl, "", ?_⟩
    change (world.ledger.admitDevice user device limit clock.now).1.flushes = world.ledger.flushes ++ []
    rw [List.append_nil, Ledger.admitDevice]
    split
    all_goals rfl
  | flush clock =>
    left
    cases stepped
    exact ⟨rfl, clock.day, world.ledger.flush_flushes clock bound⟩
  | timer =>
    left
    simp only [World.step?] at stepped
    split at stepped <;> cases stepped
    exact ⟨rfl, "", (List.append_nil _).symm⟩
  | alarm clock =>
    left
    simp only [World.step?] at stepped
    split at stepped <;> cases stepped
    exact ⟨rfl, clock.day, ({ world.ledger with alarm := none } : Ledger).flush_flushes clock bound⟩
  | batch index delivery clock =>
    right
    obtain ⟨flush, found, awaits, rfl⟩ := batch_cases stepped
    refine ⟨rfl, index, flush, ?_⟩
    cases delivery with
    | answered =>
      rw [World.batchEnds, World.answered]
      split
      · next more =>
        exact ⟨{ flush with sent := flush.sent + 100 }, found, rfl, rfl, rfl, ⟨_, rfl⟩,
          fun _ => .inl ⟨awaits, rfl, rfl, .inl awaits⟩⟩
      · next last =>
        exact ⟨{ flush with sent := flush.sent + 100, phase := .lastAlarm }, found, rfl, rfl, rfl, ⟨_, rfl⟩,
          fun _ => .inl ⟨awaits, rfl, rfl, .inr (not_lt.mp last)⟩⟩
    | lost => exact ⟨{ flush with phase := .retryAlarm }, found, rfl, rfl, rfl, ⟨flush.chunk, rfl⟩, (by rintro ⟨⟩)⟩
    | refused => exact ⟨{ flush with phase := .retryAlarm }, found, rfl, rfl, rfl, ⟨[], rfl⟩, (by rintro ⟨⟩)⟩
  | alarmSet index clock =>
    right
    obtain ⟨flush, found, ⟨phase, rfl⟩ | ⟨phase, rfl⟩⟩ := alarmSet_cases stepped
    · refine ⟨rfl, index, flush, { flush with phase := .lastAlarm }, found, rfl, rfl, rfl, ⟨[], rfl⟩,
        fun _ => .inr ⟨?_, (by rintro ⟨⟩), rfl⟩⟩
      rw [phase]
      rintro ⟨⟩
    · refine ⟨rfl, index, flush, { flush with phase := .done }, found, rfl, rfl, rfl, ⟨[], rfl⟩,
        fun _ => .inr ⟨?_, (by rintro ⟨⟩), rfl⟩⟩
      rw [phase]
      rintro ⟨⟩

end

/-! ## The difference of the two counts -/

variable (user : String)

def Database.requests (db : Database) : ℤ := ((db.users.get? user).map fun row => (row.requests_used : ℤ)).getD 0

def Present (db : Database) : Prop := (db.users.get? user).isSome

/-- Connections that `usage_daily` counts beyond the requests of the user. -/
def Database.gap (db : Database) : ℤ := (db.daily user).conns - db.requests user

/-- What a statement adds to the gap. -/
def Statement.widens : Statement → ℤ
  | .updateUser name _ => if name = user then -1 else 0
  | .upsertDaily _ name usage => if name = user then usage.conns else 0

def widening (statements : List Statement) : ℤ := (statements.map (Statement.widens user)).sum

/-- What a flush will still add to the gap. -/
def Flush.pending (flush : Flush) : ℤ :=
  if flush.phase = .batch then widening user (flush.statements.drop flush.sent) else 0

/-- The reports of the user in excess of one in each entry. -/
def excess (entries : List (String × Usage)) : ℤ :=
  (entries.map fun entry => if entry.1 = user then (entry.2.conns : ℤ) - 1 else 0).sum

variable {user}

theorem daily_run (db : Database) (statement : Statement) : ((db.run statement).daily user).conns =
    ((db.daily user).conns : ℤ) + (dailyColumn .conns user).owed statement := by
  have stored := ((dailyColumn .conns user).runs db statement trivial).2
  rwa [dailyColumn_stored, dailyColumn_stored] at stored

theorem gap_run {db : Database} (present : Present user db) (statement : Statement) :
    Present user (db.run statement) ∧ (db.run statement).gap user = db.gap user + statement.widens user := by
  have daily : ((db.run statement).daily user).conns = ((db.daily user).conns : ℤ) + (dailyColumn .conns user).owed statement :=
    daily_run db statement
  obtain ⟨row, found⟩ := Option.isSome_iff_exists.mp present
  rw [Database.gap, Database.gap, daily]
  cases statement with
  | upsertDaily day name usage =>
    refine ⟨present, ?_⟩
    change _ + (if name = user then ((usage.conns : ℕ) : ℤ) else 0) - db.requests user =
      _ - db.requests user + (if name = user then (usage.conns : ℤ) else 0)
    omega
  | updateUser name bytes =>
    rw [Present, Database.requests, Database.requests]
    simp only [Database.run, get?_modify]
    by_cases same : name = user
    · subst same
      simp only [found, if_true, Option.map_some, Option.isSome_some, Option.getD_some, dailyColumn, Statement.widens,
        Nat.cast_add, Nat.cast_one, true_and]
      omega
    · have other : user ≠ name := fun equal => same equal.symm
      simp only [other, if_false, found, Option.isSome_some, Option.map_some, Option.getD_some, dailyColumn,
        Statement.widens, same, true_and]
      omega

theorem widening_append (first second : List Statement) :
    widening user (first ++ second) = widening user first + widening user second := by
  rw [widening, List.map_append, List.sum_append]
  rfl

theorem gap_batch (statements : List Statement) {db : Database} (present : Present user db) :
    Present user (db.batch statements) ∧ (db.batch statements).gap user = db.gap user + widening user statements := by
  induction statements generalizing db with
  | nil => exact ⟨present, (add_zero _).symm⟩
  | cons statement rest ih =>
    obtain ⟨next, widened⟩ := gap_run present statement
    obtain ⟨last, after⟩ := ih next
    refine ⟨last, ?_⟩
    change (((db.run statement).batch rest).gap user) = _
    rw [after, widened, widening, widening, List.map_cons, List.sum_cons]
    omega

/-- A flush adds the excess of its entries. -/
theorem widening_statements (flush : Flush) : widening user flush.statements = excess user flush.entries := by
  rw [Flush.statements, excess]
  induction flush.entries with
  | nil => rfl
  | cons entry rest ih =>
    rw [List.flatMap_cons, widening_append, ih, List.map_cons, List.sum_cons, widening]
    simp only [List.map_cons, List.map_nil, List.sum_cons, List.sum_nil, Statement.widens]
    split <;> omega

/-! ## Runs -/

variable {world world' : World} {event : Event} {db : Database}

/-- The gap of a user has grown by the excess of the flushes begun so far, but for what they still owe. -/
structure Booked (user : String) (db : Database) (world : World) : Prop where
  present : Present user world.db
  gap : world.db.gap user + (world.ledger.flushes.map (Flush.pending user)).sum =
    db.gap user + (world.ledger.flushes.map fun flush => excess user flush.entries).sum

theorem booked_step (booked : Booked user db world) (bound : world.ledger.bound = true) (answered : Answered world event)
    (stepped : ledger.step? world event = some world') : Booked user db world' := by
  obtain ⟨present, gap⟩ := booked
  rcases step_flushes bound stepped with ⟨same, day, flushes⟩ | ⟨-, index, flush, changed, found, flushes, entries, day, -, advances⟩
  · refine ⟨same ▸ present, ?_⟩
    rw [same, flushes, begun]
    split
    · rwa [List.append_nil]
    · have pending : Flush.pending user ⟨world.taken event, day, 0, .batch⟩ = excess user (world.taken event) :=
        widening_statements ⟨world.taken event, day, 0, .batch⟩
      rw [List.map_append, List.map_append, List.sum_append, List.sum_append, List.map_singleton, List.map_singleton,
        List.sum_singleton, List.sum_singleton, pending]
      change world.db.gap user + (_ + excess user (world.taken event)) = db.gap user + (_ + excess user (world.taken event))
      omega
  · have statements : changed.statements = flush.statements := by rw [Flush.statements, Flush.statements, entries, day]
    have excesses : (world'.ledger.flushes.map fun flush => excess user flush.entries).sum =
        (world.ledger.flushes.map fun flush => excess user flush.entries).sum := by
      rw [flushes, sum_map_set _ found, entries]
      omega
    have owes := sum_map_set (Flush.pending user) found changed
    rw [← flushes] at owes
    rcases advances answered with ⟨awaits, sent, progress, last⟩ | ⟨ended, ending, same⟩
    · obtain ⟨stays, widened⟩ := gap_batch flush.chunk present
      have before : flush.pending user = widening user (flush.statements.drop flush.sent) := if_pos awaits
      have after : changed.pending user = widening user (flush.statements.drop (flush.sent + 100)) := by
        rw [Flush.pending, statements, progress]
        split
        · rfl
        · next left => rw [List.drop_eq_nil_of_le (last.resolve_left left), widening, List.map_nil, List.sum_nil]
      have paid : widening user (flush.statements.drop flush.sent) =
          widening user flush.chunk + widening user (flush.statements.drop (flush.sent + 100)) := by
        rw [Flush.chunk, ← widening_append, ← List.drop_drop, List.take_append_drop]
      refine ⟨sent ▸ stays, ?_⟩
      rw [sent, excesses, owes, widened]
      omega
    · have before : flush.pending user = 0 := if_neg ended
      have after : changed.pending user = 0 := if_neg ending
      refine ⟨same ▸ present, ?_⟩
      rw [same, excesses, owes]
      omega

theorem booked_run {events : List Event} (run : ledger.Run Answered (opened db) events world)
    (present : Present user db) : Booked user db world := by
  have held := run.preserves (fun world => world.ledger.Sound ∧ Booked user db world)
    (fun _ _ _ held answered stepped =>
      ⟨sound_step held.1 stepped, booked_step held.2 held.1.bound answered stepped⟩)
    ⟨opened_sound db, present, rfl⟩
  exact held.2

/-- The flush that the event begins has no entry of a stored user with more than one report. -/
def Single (world : World) (event : Event) : Prop :=
  ∀ entry ∈ world.taken event, Present entry.1 world.db → entry.2.conns = 1

/-- The reports in excess of one in each entry, over the users of a database. -/
def surplus (db : Database) (entries : List (String × Usage)) : ℕ :=
  (entries.map fun entry => if (db.users.get? entry.1).isSome then entry.2.conns - 1 else 0).sum

theorem surplus_eq_zero_iff {entries : List (String × Usage)} (counted : Counted entries) :
    surplus db entries = 0 ↔ ∀ entry ∈ entries, Present entry.1 db → entry.2.conns = 1 := by
  rw [surplus, List.sum_eq_zero_iff]
  constructor
  · intro zero entry listed present
    have alone := zero _ (List.mem_map_of_mem listed)
    have positive := counted entry listed
    rw [if_pos (show (db.users.get? entry.1).isSome = true from present)] at alone
    omega
  · intro single amount listed
    obtain ⟨entry, member, rfl⟩ := List.mem_map.mp listed
    split
    · next present =>
      have one := single entry member present
      omega
    · rfl

theorem present_batch (statements : List Statement) (db : Database) :
    Present user (db.batch statements) ↔ Present user db := by
  induction statements generalizing db with
  | nil => rfl
  | cons statement rest ih =>
    change Present user ((db.run statement).batch rest) ↔ _
    rw [ih]
    cases statement with
    | upsertDaily => rfl
    | updateUser name bytes =>
      rw [Present, Present]
      simp only [Database.run, get?_modify]
      split
      · next same =>
        rw [same]
        cases db.users.get? name <;> rfl
      · rfl

theorem counted_taken (sound : world.ledger.Sound) (event : Event) : Counted (world.taken event) := by
  have nothing : Counted [] := fun _ absent => absurd absent List.not_mem_nil
  cases event with
  | report user up down device clock =>
    rw [World.taken]
    split
    · exact nothing
    · exact counted_add sound.counted user Nat.one_pos
  | flush => exact sound.counted
  | alarm => exact sound.counted
  | admitDevice | timer | batch | alarmSet => exact nothing

/-- A step adds the surplus of the entries it takes. -/
theorem surplus_step (bound : world.ledger.bound = true) (stepped : ledger.step? world event = some world') :
    (world'.ledger.flushes.map fun flush => surplus db flush.entries).sum =
      (world.ledger.flushes.map fun flush => surplus db flush.entries).sum + surplus db (world.taken event) := by
  rcases step_flushes bound stepped with ⟨-, day, flushes⟩ | ⟨nothing, index, flush, changed, found, flushes, entries, -, -, -⟩
  · rw [flushes, begun]
    split
    · next empty => rw [empty, List.append_nil]; rfl
    · rw [List.map_append, List.sum_append, List.map_singleton, List.sum_singleton]
  · rw [flushes, nothing]
    have kept : (world.ledger.flushes.set index changed).map (fun flush => surplus db flush.entries) =
        world.ledger.flushes.map fun flush => surplus db flush.entries := by
      apply List.ext_getElem?
      intro other
      rw [List.getElem?_map, List.getElem?_map]
      by_cases here : other = index
      · subst here
        rw [List.getElem?_set_self (List.getElem?_eq_some_iff.mp found).1, found, Option.map_some, Option.map_some, entries]
      · rw [List.getElem?_set_ne (fun same => here same.symm)]
    rw [kept]
    rfl

/-- No run has a surplus exactly when all of its steps take single reports. -/
theorem single_run_iff {events : List Event} (run : ledger.Run Machine.Free (opened db) events world) :
    (world.ledger.flushes.map fun flush => surplus db flush.entries).sum = 0 ↔
      ledger.Run Single (opened db) events world := by
  have level := Machine.Run.level_iff Single
    (fun world => world.ledger.Sound ∧ ∀ user, Present user world.db ↔ Present user db)
    (fun world => (world.ledger.flushes.map fun flush => surplus db flush.entries).sum) ?_ run ⟨opened_sound db, fun _ => Iff.rfl⟩
  · exact level.2
  · rintro world event world' ⟨sound, stored⟩ stepped
    have added : (world'.ledger.flushes.map fun flush => surplus db flush.entries).sum = _ :=
      surplus_step sound.bound stepped
    refine ⟨⟨sound_step sound stepped, fun user => ?_⟩, by omega, ?_⟩
    · rcases step_flushes sound.bound stepped with ⟨same, -⟩ | ⟨-, index, flush, changed, -, -, -, -, ⟨statements, same⟩, -⟩
      · rw [same, stored]
      · rw [same, present_batch, stored]
    · have single : surplus db (world.taken event) = 0 ↔ Single world event := by
        rw [surplus_eq_zero_iff (counted_taken sound event), Single]
        simp only [stored]
      rw [← single]
      omega

/-! ## The counts at rest -/

/-- Every stored user's `requests_used` has grown by the user's reports, those that the map still holds
apart, and by as much as `conns` in `usage_daily`. -/
def Accounted (db : Database) (events : List Event) (world : World) : Prop :=
  ∀ user row, db.users.get? user = some row → ∃ row', world.db.users.get? user = some row' ∧
    row'.requests_used + (world.held user).conns = row.requests_used + (reported user events).conns ∧
    row'.requests_used + (db.daily user).conns = row.requests_used + (world.db.daily user).conns

theorem excess_eq_zero_iff {entries : List (String × Usage)} (counted : Counted entries) :
    0 ≤ excess user entries ∧ (excess user entries = 0 ↔ ∀ entry ∈ entries, entry.1 = user → entry.2.conns = 1) := by
  induction entries with
  | nil => exact ⟨le_refl _, iff_of_true rfl fun _ absent => absurd absent List.not_mem_nil⟩
  | cons entry rest ih =>
    obtain ⟨floor, zero⟩ := ih fun other listed => counted other (List.mem_cons_of_mem _ listed)
    have positive := counted entry List.mem_cons_self
    have step : excess user (entry :: rest) = (if entry.1 = user then (entry.2.conns : ℤ) - 1 else 0) + excess user rest := by
      rw [excess, List.map_cons, List.sum_cons]
      rfl
    rw [step, List.forall_mem_cons, ← zero]
    by_cases same : entry.1 = user
    · rw [if_pos same]
      refine ⟨by omega, ?_⟩
      constructor
      · intro zeros
        exact ⟨fun _ => by omega, by omega⟩
      · rintro ⟨one, zeros⟩
        have single := one same
        omega
    · rw [if_neg same]
      refine ⟨by omega, ?_⟩
      constructor
      · intro zeros
        exact ⟨fun named => absurd named same, by omega⟩
      · rintro ⟨-, zeros⟩
        omega

/-- No flush has an excess for any stored user exactly when none has a surplus. -/
theorem excess_iff_surplus {flushes : List Flush} (sound : ∀ flush ∈ flushes, flush.Sound) :
    (∀ user, Present user db → (flushes.map fun flush => excess user flush.entries).sum = 0) ↔
      (flushes.map fun flush => surplus db flush.entries).sum = 0 := by
  have split (user : String) : (flushes.map fun flush => excess user flush.entries).sum = 0 ↔
      ∀ flush ∈ flushes, ∀ entry ∈ flush.entries, entry.1 = user → entry.2.conns = 1 := by
    induction flushes with
    | nil => exact iff_of_true rfl fun _ absent => absurd absent List.not_mem_nil
    | cons flush rest ih =>
      have below := ih fun other listed => sound other (List.mem_cons_of_mem _ listed)
      have own : 0 ≤ excess user flush.entries ∧ (excess user flush.entries = 0 ↔ _) :=
        excess_eq_zero_iff (sound flush List.mem_cons_self).counted
      have floor : 0 ≤ (rest.map fun flush => excess user flush.entries).sum := by
        apply List.sum_nonneg
        intro amount listed
        obtain ⟨other, member, rfl⟩ := List.mem_map.mp listed
        exact (excess_eq_zero_iff (sound other (List.mem_cons_of_mem _ member)).counted).1
      rw [List.map_cons, List.sum_cons, List.forall_mem_cons, ← below, ← own.2]
      omega
  rw [List.sum_eq_zero_iff]
  constructor
  · intro nothing amount listed
    obtain ⟨flush, member, rfl⟩ := List.mem_map.mp listed
    rw [surplus_eq_zero_iff (sound flush member).counted]
    intro entry inside present
    exact (split entry.1).mp (nothing entry.1 present) flush member entry inside rfl
  · intro nothing user present
    rw [split]
    intro flush member entry inside same
    have zero := nothing _ (List.mem_map_of_mem member)
    rw [surplus_eq_zero_iff (sound flush member).counted] at zero
    exact zero entry inside (same ▸ present)

theorem answered_whole {events : List Event} {world : World} (run : ledger.Run Answered world events world') :
    ledger.Run Whole world events world' := by
  apply run.mono
  intro world event answered
  cases event with
  | batch index delivery clock =>
    obtain rfl : delivery = .answered := answered
    exact ⟨nofun, nofun⟩
  | _ => trivial

/-- Where all batches succeed and no flush is running any more, `requests_used` counts every report
exactly when no flush has taken an entry of a stored user with more than one. -/
theorem requests_accounted_iff {db : Database} {events : List Event} {world : World}
    (run : ledger.Run Answered (opened db) events world) (quiet : world.Quiet) :
    Accounted db events world ↔ ledger.Run Single (opened db) events world := by
  have sound := run.preserves (fun world => world.ledger.Sound)
    (fun _ _ _ sound _ stepped => sound_step sound stepped) (opened_sound db)
  rw [← single_run_iff (run.mono fun _ _ _ => trivial), ← excess_iff_surplus sound.flushes]
  have settled (user : String) : (world.ledger.flushes.map (Flush.pending user)).sum = 0 := by
    apply List.sum_eq_zero
    intro owed member
    obtain ⟨flush, running, rfl⟩ := List.mem_map.mp member
    exact if_neg (by rw [quiet flush running]; nofun)
  have conns (user : String) : (world.db.daily user).conns + (world.held user).conns =
      (db.daily user).conns + (reported user events).conns :=
    congrArg Usage.conns (conserved_of_whole (answered_whole run) quiet user).daily
  have exact {user : String} {row row' : UserRow} (found : db.users.get? user = some row)
      (found' : world.db.users.get? user = some row') :
      (row'.requests_used + (world.held user).conns = row.requests_used + (reported user events).conns ∧
        row'.requests_used + (db.daily user).conns = row.requests_used + (world.db.daily user).conns) ↔
        (world.ledger.flushes.map fun flush => excess user flush.entries).sum = 0 := by
    have booked := (booked_run run (Option.isSome_iff_exists.mpr ⟨row, found⟩)).gap
    have balance := conns user
    rw [settled user, Database.gap, Database.gap, Database.requests, Database.requests, found, found'] at booked
    simp only [Option.map_some, Option.getD_some] at booked
    omega
  constructor
  · intro accounted user present
    obtain ⟨row, found⟩ := Option.isSome_iff_exists.mp present
    obtain ⟨row', found', counts⟩ := accounted user row found
    exact (exact found found').mp counts
  · intro nothing user row found
    have present : Present user db := Option.isSome_iff_exists.mpr ⟨row, found⟩
    obtain ⟨row', found'⟩ := Option.isSome_iff_exists.mp (booked_run run present).present
    exact ⟨row', found', (exact found found').mpr (nothing user present)⟩

namespace Sample

/-- One tunnel and its flush. -/
def oneTunnel : List Event :=
  [.report "user0" 10 20 "device" (clock 0), .batch 0 .answered (clock 1), .alarmSet 0 (clock 1)]

/-- Two more tunnels before the next flush. -/
def threeTunnels : List Event :=
  oneTunnel ++ [Event.report "user0" 10 20 "device" (clock 2), .report "user0" 10 20 "device" (clock 3), .alarm (clock 30001),
    .batch 1 .answered (clock 30002), .alarmSet 1 (clock 30002)]

end Sample

def answeredCheck (_ : World) : Event → Bool
  | .batch _ delivery _ => delivery == .answered
  | _ => true

theorem answered_of_check (world : World) (event : Event) (passed : answeredCheck world event = true) :
    Answered world event := by
  cases event with
  | batch index delivery clock => exact beq_iff_eq.mp passed
  | _ => trivial

theorem requests_accounted_iff_sample : ∃ world,
    ledger.Run Answered (opened (Sample.database 1)) Sample.oneTunnel world ∧ world.Quiet ∧
    (world.db.users.get? "user0").map (·.requests_used) = some 1 ∧
    (Accounted (Sample.database 1) Sample.oneTunnel world ↔
      ledger.Run Single (opened (Sample.database 1)) Sample.oneTunnel world) := by
  obtain ⟨world, replayed, quiet, used⟩ : ∃ world,
      ledger.checked? answeredCheck (opened (Sample.database 1)) Sample.oneTunnel = some world ∧ world.Quiet ∧
      (world.db.users.get? "user0").map (·.requests_used) = some 1 := ⟨_, rfl, by decide, rfl⟩
  have answered := Machine.Run.of_checked answered_of_check replayed
  exact ⟨world, answered, quiet, used, requests_accounted_iff answered quiet⟩

/-- Three tunnels count as two requests. -/
theorem requests_undercounted : ∃ world,
    ledger.Run Answered (opened (Sample.database 1)) Sample.threeTunnels world ∧ world.Quiet ∧
    (world.db.users.get? "user0").map (·.requests_used) = some 2 ∧ (world.db.daily "user0").conns = 3 ∧
    ¬ Accounted (Sample.database 1) Sample.threeTunnels world := by
  have evaluated : (ledger.checked? answeredCheck (opened (Sample.database 1)) Sample.threeTunnels).any (fun world =>
      decide world.Quiet && (world.db.daily "user0").conns == 3 && (world.held "user0").conns == 0 &&
        (world.db.users.get? "user0").map (·.requests_used) == some 2) = true := by decide +kernel
  have before : ((Sample.database 1).users.get? "user0").map (·.requests_used) = some 0 := by decide +kernel
  have reports : (reported "user0" Sample.threeTunnels).conns = 3 := by decide +kernel
  obtain ⟨world, replayed, checked⟩ := (Option.any_eq_true _ _).mp evaluated
  simp only [Bool.and_eq_true, decide_eq_true_eq, beq_iff_eq] at checked
  obtain ⟨⟨⟨quiet, conns⟩, held⟩, used⟩ := checked
  obtain ⟨row, found, unused⟩ := Option.map_eq_some_iff.mp before
  refine ⟨world, .of_checked answered_of_check replayed, quiet, used, conns, fun accounted => ?_⟩
  obtain ⟨row', found', balance, -⟩ := accounted "user0" row found
  rw [found', Option.map_some, Option.some.injEq] at used
  rw [held, reports, used, unused] at balance
  exact absurd balance (by decide)

end OmniControlPlane.Panel
