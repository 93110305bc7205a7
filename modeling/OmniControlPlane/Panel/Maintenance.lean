import OmniControlPlane.Lib.Typestate
import OmniControlPlane.Panel.Term

/-! # The expiry pass among the requests of the admins

`runMaintenance` selects the users whose deadline is past, and acts on them by name, a hundred to a
batch. It does not look at a deadline again, so that a user renewed after the selection is treated
as one whose term is over.

What a pass may do next is a protocol: it reads the settings, it knows until when a deadline is past, or
it has users still to act on. In a Worker the clock stands still between two answers, so the answer to
a call has the reading that the code after it gets.
-/

namespace OmniControlPlane.Panel.Term

open Lib Machine Task Auth

namespace Maintenance

structure Store where
  users : Table := .empty
  settings : OrderedMap String String := .empty
  clock : ℤ := 0

inductive Failure where
  | http (error : HttpError)
  | remote
deriving DecidableEq, Repr

/-- The calls. `later` are the statements of a pass that follow those of its batch. -/
inductive Command where
  | selectSettings
  | selectDue (bound : ℤ)
  | batch (statements later : List Statement)
  | selectUser (username : String)
  | write (statement : Statement)
deriving DecidableEq, Repr

abbrev Answer : Command → Type
  | .selectSettings => OrderedMap String String × ℤ
  | .selectDue _ => List Due × ℤ
  | .selectUser _ => Option Row × ℤ
  | .write _ => Bool
  | .batch _ _ => Unit

structure Choice where
  delivery : Delivery := .answered
  now : ℤ
deriving DecidableEq, Repr

def effect (users : Table) : Command → Table
  | .write statement => statement.run users
  | .batch statements _ => runBatch users statements
  | _ => users

def answer (store : Store) (now : ℤ) : (command : Command) → Answer command
  | .selectSettings => (store.settings, now)
  | .selectDue bound => (dueUsers store.users bound, now)
  | .selectUser username => (store.users.get? username, now)
  | .write statement => statement.usernames.any fun username => (store.users.get? username).isSome
  | .batch _ _ => ()

/-- Time does not go back. -/
def exec (command : Command) (choice : Choice) (store : Store) : Option (Store × Except Failure (Answer command)) :=
  if choice.now < store.clock then none
  else some (choice.delivery.deliver .remote { store with clock := choice.now }
    { store with clock := choice.now, users := effect store.users command } (answer store choice.now command))

abbrev Async := Task Failure Answer

/-- Await one command. -/
abbrev await (command : Command) : Async (Answer command) := perform command

/-! ## The requests -/

/-- The batches of a pass. -/
def batches : List (List Statement) → Async Unit
  | [] => pure ()
  | chunk :: rest => do
    await (.batch chunk rest.flatten)
    batches rest

/-- `runMaintenance`, as far as its expiry pass; an empty cache of the settings is read again. -/
def runMaintenance : Async Unit := do
  let (settings, now) ← await .selectSettings
  let (settings, now) ← if settings.entries = [] then await .selectSettings else pure (settings, now)
  let (due, now) ← await (.selectDue now)
  batches (slices 100 (due.map (Due.statement ((settings.get? "on_expiry").getD "disable") now)))

def getUser (username : String) : Async Row := do
  let (found, _) ← await (.selectUser username)
  match found with
  | none => throw (.http ⟨404, "not_found", "user not found"⟩)
  | some row => pure row

def createUser (raw : NewUser) (now : ℤ) : Async Unit :=
  match newUserInput raw now with
  | .error error => throw (.http error)
  | .ok (username, row) => do
    let taken ← await (.write (.insert username row))
    throwIf (taken = true) (.http ⟨409, "conflict", "کاربر «" ++ username ++ "» از قبل وجود دارد"⟩)
    discard (getUser username)

/-- The statement of an edit, where it sets a column. -/
def writePatch (username : String) (patch : Patch) (now : ℤ) : Async Unit :=
  if patch = {} then pure ()
  else do
    let changed ← await (.write (.update username patch now))
    throwIf (changed = false) (.http ⟨404, "not_found", "user not found"⟩)

def updateUser (username : String) (patch : Patch) (now : ℤ) : Async Unit := do
  writePatch username patch now
  discard (getUser username)

def deleteUser (username : String) : Async Unit := do
  let changed ← await (.write (.delete [username]))
  throwIf (changed = false) (.http ⟨404, "not_found", "user not found"⟩)

def bulk (usernames : List String) (op : BulkOp) (now : ℤ) : Async Unit := do
  throwIf (usernames = []) (.http (badRequest "هیچ کاربری انتخاب نشده"))
  match op.statement usernames now with
  | .error error => throw (.http error)
  | .ok statement =>
    discard (await (.write statement))

def reset (username : String) (body : Reset) (now : ℤ) : Async Unit := do
  discard (await (.write (.reset username body now)))
  discard (getUser username)

/-- A fetch of the subscription, as far as it starts the clock of its user; a failed write is nobody's. -/
def subscription (username : String) : Async Unit := do
  let (found, now) ← await (.selectUser username)
  match found with
  | none => throw (.http ⟨404, "not_found", "subscription not found"⟩)
  | some row =>
    throwIf (row.is_active = false) (.http (forbidden "اشتراک غیرفعال است"))
    match activateIfNeeded username row now with
    | none => pure ()
    | some statement => tryCatch (discard (await (.write statement))) fun _ => pure ()

inductive Operation where
  | runMaintenance
  | createUser (raw : NewUser) (now : ℤ)
  | updateUser (username : String) (patch : Patch) (now : ℤ)
  | deleteUser (username : String)
  | bulk (usernames : List String) (op : BulkOp) (now : ℤ)
  | reset (username : String) (body : Reset) (now : ℤ)
  | subscription (username : String)
deriving DecidableEq, Repr

def Operation.program : Operation → Async Unit
  | .runMaintenance => Maintenance.runMaintenance
  | .createUser raw now => Maintenance.createUser raw now
  | .updateUser username patch now => Maintenance.updateUser username patch now
  | .deleteUser username => Maintenance.deleteUser username
  | .bulk usernames op now => Maintenance.bulk usernames op now
  | .reset username body now => Maintenance.reset username body now
  | .subscription username => Maintenance.subscription username

def host : Host Failure Answer Unit Store Choice Operation where
  program := Operation.program
  exec := exec
  spawns _ _ := []

abbrev World := Lib.World Failure Answer Unit Store

abbrev Event := Lib.Event Operation Choice

/-! ## What must hold -/

/-- A batch leaves every user alone whose deadline is in the future when it executes. -/
def Lenient (command : Command) (choice : Choice) (store : Store) : Prop :=
  match command with
  | .batch statements _ => choice.delivery ≠ .refused → ∀ username, ∀ row ∈ store.users.get? username,
      row.running choice.now = true → (runBatch store.users statements).get? username = some row
  | _ => True

/-- The deadline of a user is in the future. -/
def running (users : Table) (now : ℤ) (username : String) : Bool := (users.get? username).any (·.running now)

/-- The users on which a task is still to act, as a pass that has selected them. -/
def pending (task : Async Unit) : List String :=
  match task.awaits with
  | some (.batch statements later) => (statements ++ later).flatMap (·.usernames)
  | _ => []

/-- No call moves the deadline of a user into the future while a pass of another task is still to act on it. -/
def Undisturbed (world : World) : Event → Prop
  | .start _ => True
  | .act position choice => ∀ task ∈ world.tasks[position]?, ∀ command ∈ task.awaits, choice.delivery ≠ .refused →
      ∀ other < world.tasks.length, other ≠ position → ∀ waiting ∈ world.tasks[other]?, ∀ username ∈ pending waiting,
        running (effect world.store.users command) choice.now username = true →
          running world.store.users choice.now username = true

instance (world : World) (event : Event) : Decidable (Undisturbed world event) :=
  match event with
  | .start _ => .isTrue trivial
  | .act _ _ => @Option.decidableForallMem _ _ (fun _ => @Option.decidableForallMem _ _ (fun _ => @instDecidableForall _ _ _
      (@Nat.decidableBallLT _ _ fun _ _ => @instDecidableForall _ _ _
        (@Option.decidableForallMem _ _ (fun _ => @List.decidableBAll _ _ (fun _ => @instDecidableForall _ _ _ _) _) _))) _) _

/-! ## The protocol -/

/-- A pass knows until when a deadline is past, or which users are still to be acted on. -/
inductive Phase where
  | idle
  | reading (bound : ℤ)
  | pending (usernames : List String)
deriving DecidableEq, Repr

namespace Phase

def allowed : Phase → Command → Prop
  | .idle, .selectSettings | .reading _, .selectSettings => True
  | .reading bound, .selectDue asked => asked = bound
  | .pending usernames, .batch statements later => (statements ++ later).flatMap (·.usernames) = usernames
  | .idle, .selectUser _ | .idle, .write _ => True
  | _, _ => False

def next : Phase → (command : Command) → Except Failure (Answer command) → Phase
  | _, .selectSettings, .ok (_, now) => .reading now
  | _, .selectDue _, .ok (due, _) => .pending (due.map (·.username))
  | _, .batch _ later, .ok _ => .pending (later.flatMap (·.usernames))
  | _, _, _ => .idle

end Phase

def passing : Protocol Failure Answer Phase := ⟨Phase.allowed, Phase.next⟩

/-- A pass ends when no user is left, or gives up. -/
def Ends : Phase → Except Failure Unit → Prop := fun phase _ => ∀ usernames, phase = .pending usernames → usernames = []

/-- A request that only reads and writes rows by itself. -/
theorem idle_follows {task : Async Unit} (stays : Stays passing .idle task) : task.Follows passing Ends .idle :=
  stays.mono fun _ _ back => back ▸ nofun

theorem getUser_stays (username : String) : Stays passing .idle (getUser username) := by
  refine .seq (.performing trivial fun answer => by cases answer <;> rfl) fun answer => ?_
  obtain ⟨found, now⟩ := answer
  cases found <;> rfl

theorem writes_stays (statement : Statement) : Stays passing .idle (await (.write statement)) :=
  .performing trivial fun answer => by cases answer <;> rfl

theorem createUser_stays (raw : NewUser) (now : ℤ) : Stays passing .idle (createUser raw now) := by
  unfold createUser
  split
  · rfl
  · exact .seq (writes_stays _) fun _ => .seq .throwIf fun _ => .seq (getUser_stays _) fun _ => rfl

theorem updateUser_stays (username : String) (patch : Patch) (now : ℤ) :
    Stays passing .idle (updateUser username patch now) := by
  refine .seq ?_ fun _ => .seq (getUser_stays username) fun _ => rfl
  unfold writePatch
  split
  · rfl
  · exact .seq (writes_stays _) fun _ => .throwIf

theorem deleteUser_stays (username : String) : Stays passing .idle (deleteUser username) :=
  .seq (writes_stays _) fun _ => .throwIf

theorem reset_stays (username : String) (body : Reset) (now : ℤ) : Stays passing .idle (reset username body now) :=
  .seq (.seq (writes_stays _) fun _ => rfl) fun _ => .seq (getUser_stays username) fun _ => rfl

theorem bulk_stays (usernames : List String) (op : BulkOp) (now : ℤ) : Stays passing .idle (bulk usernames op now) := by
  refine .seq .throwIf fun _ => ?_
  split
  · rfl
  · exact .seq (writes_stays _) fun _ => rfl

theorem subscription_stays (username : String) : Stays passing .idle (subscription username) := by
  refine .seq (.performing trivial fun answer => by cases answer <;> rfl) fun answer => ?_
  obtain ⟨found, now⟩ := answer
  cases found with
  | none => rfl
  | some row =>
    refine .seq .throwIf fun _ => ?_
    split
    · rfl
    · exact .catching (.seq (writes_stays _) fun _ => rfl) fun _ => rfl

theorem batches_follows (chunks : List (List Statement)) :
    (batches chunks).Follows passing Ends (.pending (chunks.flatten.flatMap (·.usernames))) := by
  induction chunks with
  | nil => exact fun usernames same => (Phase.pending.inj same).symm
  | cons chunk rest ih => exact .after rfl (fun _ => ih) fun _ => nofun

/-- What a pass does once it has read the settings. -/
theorem selected_follows (settings : OrderedMap String String) (bound : ℤ) : (do
    let (due, now) ← await (.selectDue bound)
    batches (slices 100 (due.map (Due.statement ((settings.get? "on_expiry").getD "disable") now))) :
    Async Unit).Follows passing Ends (.reading bound) := by
  refine .after rfl (fun answer => ?_) fun _ => nofun
  obtain ⟨due, now⟩ := answer
  have named : (slices 100 (due.map (Due.statement ((settings.get? "on_expiry").getD "disable") now))).flatten.flatMap
      (·.usernames) = due.map (·.username) := by
    rw [slices_flatten (by decide), List.flatMap_map]
    simp only [Due.statement_usernames]
    exact List.map_eq_flatMap.symm
  change (batches _).Follows passing Ends (.pending (due.map (·.username)))
  rw [← named]
  exact batches_follows _

theorem runMaintenance_follows : runMaintenance.Follows passing Ends .idle := by
  refine .after trivial (fun answer => ?_) fun _ => nofun
  obtain ⟨settings, now⟩ := answer
  change Follows passing Ends (.reading now) _
  dsimp only
  split
  · refine (follows_bind _ _).mpr ((follows_perform _).mpr ⟨trivial, fun answer => ?_⟩)
    cases answer with
    | error error => exact nofun
    | ok answer => exact selected_follows answer.1 answer.2
  · exact selected_follows settings now

theorem host_plays : host.Plays passing Ends (fun _ => .idle) fun _ _ => [] where
  program operation := by
    cases operation with
    | runMaintenance => exact runMaintenance_follows
    | createUser raw now => exact idle_follows (createUser_stays raw now)
    | updateUser username patch now => exact idle_follows (updateUser_stays username patch now)
    | deleteUser username => exact idle_follows (deleteUser_stays username)
    | bulk usernames op now => exact idle_follows (bulk_stays usernames op now)
    | reset username body now => exact idle_follows (reset_stays username body now)
    | subscription username => exact idle_follows (subscription_stays username)
  spawns _ _ := .nil

/-! ## What a call changes -/

section

variable {command : Command} {choice : Choice} {store store' : Store} {reply : Except Failure (Answer command)}

/-- A call takes its time. It is refused or takes effect, and an answer is the one read from the store. -/
theorem exec_cases (executed : exec command choice store = some (store', reply)) :
    store.clock ≤ choice.now ∧ store'.clock = choice.now ∧
      (choice.delivery ≠ .refused ∧ store'.users = effect store.users command ∨ store'.users = store.users) ∧
      ∀ value, reply = .ok value →
        value = answer store choice.now command ∧ store'.users = effect store.users command := by
  unfold exec at executed
  split at executed
  · contradiction
  · next timely =>
    refine ⟨Int.not_lt.mp timely, ?_⟩
    cases delivery : choice.delivery with
    | answered =>
      rw [delivery] at executed
      obtain ⟨rfl, rfl⟩ := Prod.mk.inj (Option.some.inj executed)
      exact ⟨rfl, .inl ⟨nofun, rfl⟩, fun value same => ⟨(Except.ok.inj same).symm, rfl⟩⟩
    | lost =>
      rw [delivery] at executed
      obtain ⟨rfl, rfl⟩ := Prod.mk.inj (Option.some.inj executed)
      exact ⟨rfl, .inl ⟨nofun, rfl⟩, nofun⟩
    | refused =>
      rw [delivery] at executed
      obtain ⟨rfl, rfl⟩ := Prod.mk.inj (Option.some.inj executed)
      exact ⟨rfl, .inr rfl, nofun⟩

end

/-- What was past stays past. -/
theorem running_anti {users : Table} {earlier later : ℤ} (ordered : earlier ≤ later) {username : String}
    (runs : running users later username = true) : running users earlier username = true := by
  obtain ⟨row, found, future⟩ := (Option.any_eq_true _ _).mp runs
  obtain ⟨expires, deadline, after⟩ := (Option.any_eq_true _ _).mp future
  refine (Option.any_eq_true _ _).mpr ⟨row, found, (Option.any_eq_true _ _).mpr ⟨expires, deadline, ?_⟩⟩
  have ordered : (earlier : ℚ) ≤ later := Int.cast_le.mpr ordered
  exact decide_eq_true (lt_of_le_of_lt ordered (of_decide_eq_true after))

/-- The users that a pass selects have a deadline that is past. -/
theorem dueUsers_past {users : Table} {bound now : ℤ} (ordered : bound ≤ now) {username : String}
    (selected : username ∈ (dueUsers users bound).map (·.username)) : running users now username = false := by
  obtain ⟨row, expires, found, deadline, before⟩ := dueUsers_expired selected
  have ordered : (bound : ℚ) ≤ now := Int.cast_le.mpr ordered
  have past : ¬ ((now : ℚ) < expires) := not_lt.mpr (le_of_lt (lt_of_lt_of_le before ordered))
  rw [running, found, Option.any_some, Row.running, deadline, Option.any_some, decide_eq_false past]

/-! ## The invariant -/

/-- The deadline of a user that a pass is still to act on is past. -/
structure Kept (store : Store) (held : List Phase) : Prop where
  known : ∀ bound, Phase.reading bound ∈ held → bound ≤ store.clock
  once : ∀ usernames, Phase.pending usernames ∈ held → usernames.Nodup
  past : ∀ usernames, Phase.pending usernames ∈ held → ∀ username ∈ usernames,
    running store.users store.clock username = false

section

variable {world : World} {held : List Phase} {position : ℕ} {choice : Choice} {command : Command}
  {store : Store} {reply : Except Failure (Answer command)} {phase : Phase}

/-- A pass that has users left waits for its next batch. -/
theorem pending_of_held (holds : Host.Held passing Ends held world) {usernames : List String}
    (atPosition : held[position]? = some (.pending usernames)) (left : usernames ≠ []) :
    ∃ task, world.tasks[position]? = some task ∧ pending task = usernames := by
  obtain ⟨task, command, atTask, awaited, called⟩ := holds.awaiting atPosition fun outcome ended =>
    left (ended usernames rfl)
  refine ⟨task, atTask, ?_⟩
  cases command with
  | batch statements later =>
    rw [pending, awaited]
    exact called
  | _ => exact called.elim

/-- What a pass reads from the clock. -/
theorem next_reading (executed : exec command choice world.store = some (store, reply)) {bound : ℤ}
    (new : passing.next phase command reply = .reading bound) : bound = choice.now := by
  obtain ⟨-, -, -, answered⟩ := exec_cases executed
  cases reply with
  | error error => cases phase <;> cases command <;> cases new
  | ok value =>
    obtain ⟨rfl, -⟩ := answered value rfl
    cases command with
    | selectSettings => cases phase <;> exact (Phase.reading.inj new).symm
    | _ => cases phase <;> cases new

/-- What a step leaves to be done by the task that takes it. -/
theorem next_past (called : passing.allowed phase command) (kept : Kept world.store held)
    (atHeld : held[position]? = some phase) (executed : exec command choice world.store = some (store, reply))
    {usernames : List String} (new : passing.next phase command reply = .pending usernames) :
    usernames.Nodup ∧ ∀ username ∈ usernames, running store.users store.clock username = false := by
  obtain ⟨timely, clock, -, answered⟩ := exec_cases executed
  have member := List.mem_of_getElem? atHeld
  rw [clock]
  cases reply with
  | error error => cases phase <;> cases command <;> cases new
  | ok value =>
    obtain ⟨rfl, users⟩ := answered value rfl
    cases phase with
    | idle =>
      cases command with
      | selectSettings | selectUser _ | write _ => cases new
      | _ => exact called.elim
    | reading bound =>
      cases command with
      | selectSettings => cases new
      | selectDue asked =>
        obtain rfl : asked = bound := called
        cases new
        rw [users]
        refine ⟨dueUsers_nodup _ _, fun username selected => dueUsers_past ?_ selected⟩
        exact (kept.known asked member).trans timely
      | _ => exact called.elim
    | pending waiting =>
      cases command with
      | batch statements later =>
        cases new
        have split : statements.flatMap (·.usernames) ++ later.flatMap (·.usernames) = waiting :=
          List.flatMap_append.symm.trans called
        have distinct := split ▸ kept.once waiting member
        refine ⟨(List.nodup_append.mp distinct).2.1, fun username left => ?_⟩
        have untouched : running store.users choice.now username = running world.store.users choice.now username := by
          rw [running, users, effect, runBatch_other]
          · rfl
          · intro statement inBatch named
            have first := List.mem_flatMap_of_mem inBatch named
            exact (List.nodup_append.mp distinct).2.2 username first username left rfl
        rw [untouched]
        apply Bool.eq_false_iff.mpr
        intro runs
        have before := kept.past waiting member username (split ▸ List.mem_append_right _ left)
        rw [running_anti timely runs] at before
        contradiction
      | _ => exact called.elim

end

theorem kept_run {events : List Event} {world world' : World} (fresh : world.tasks = [])
    (run : host.machine.Run Undisturbed world events world') :
    ∃ held, Host.Held passing Ends held world' ∧ Kept world'.store held := by
  have initial : ∃ held, Host.Held passing Ends held world ∧ Kept world.store held := by
    refine ⟨[], ?_, ⟨nofun, nofun, nofun⟩⟩
    rw [Host.Held, fresh]
    exact .nil
  refine host_plays.preserves Kept ?_ ?_ run initial
  · intro world held operation _ kept _
    have member {phase : Phase} (listed : phase ∈ held ++ [Phase.idle]) (busy : phase ≠ .idle) : phase ∈ held := by
      rcases List.mem_append.mp listed with old | new
      · exact old
      · exact absurd (List.mem_singleton.mp new) busy
    constructor
    · exact fun bound listed => kept.known bound (member listed nofun)
    · exact fun usernames listed => kept.once usernames (member listed nofun)
    · exact fun usernames listed => kept.past usernames (member listed nofun)
  · intro world held position choice task command store reply phase holds kept undisturbed atPosition awaited atHeld
      called executed
    obtain ⟨timely, clock, changed, answered⟩ := exec_cases executed
    constructor
    · intro bound listed
      rcases Host.mem_set_append listed with new | old | none
      · exact Int.le_of_eq ((next_reading executed new.symm).trans clock.symm)
      · exact (kept.known bound old).trans (clock ▸ timely)
      · contradiction
    · intro usernames listed
      rcases Host.mem_set_append listed with new | old | none
      · exact (next_past called kept atHeld executed new.symm).1
      · exact kept.once usernames old
      · contradiction
    · intro usernames listed username left
      obtain ⟨other, atOther⟩ := List.mem_iff_getElem?.mp listed
      rcases Host.getElem?_set_append atOther with ⟨-, new⟩ | ⟨different, old⟩ | ⟨-, none⟩
      · exact (next_past called kept atHeld executed new.symm).2 username left
      · have before : ¬ running world.store.users choice.now username = true := by
          intro runs
          have past := kept.past usernames (List.mem_of_getElem? old) username left
          rw [running_anti timely runs] at past
          contradiction
        rw [clock]
        refine Bool.eq_false_iff.mpr fun runs => before ?_
        rcases changed with ⟨applied, users⟩ | users
        · obtain ⟨waiting, atTask, todo⟩ := pending_of_held holds old (List.ne_nil_of_mem left)
          have bound : other < world.tasks.length := (List.getElem?_eq_some_iff.mp atTask).1
          exact undisturbed task atPosition command awaited applied other bound different waiting atTask username
            (todo ▸ left) (users ▸ runs)
        · exact users ▸ runs
      · contradiction

/-- Where no deadline is moved into the future while a pass is still to act on its user, every batch of a
pass leaves the users alone whose deadline is in the future. -/
theorem renewed_spared {events : List Event} {world world' : World} (fresh : world.tasks = [])
    (run : host.machine.Run Undisturbed world events world') :
    host.machine.Run (Host.Acting Lenient) world events world' := by
  apply run.mono_reached
  intro before reached event after prior _ stepped
  cases event with
  | start operation => trivial
  | act position choice =>
    intro command next atPosition
    obtain ⟨held, holds, kept⟩ := kept_run fresh prior
    obtain ⟨phase, atHeld, called, -⟩ := holds.at atPosition
    obtain ⟨command', next', store, reply, atPosition', executed, -⟩ := Host.step?_act_iff.mp stepped
    obtain ⟨rfl, -⟩ := Task.call.inj (Option.some.inj (atPosition.symm.trans atPosition'))
    cases command with
    | batch statements later =>
      intro _ username row found future
      have timely := (exec_cases executed).1
      rw [← Option.mem_def.mp found]
      refine runBatch_other (fun statement inBatch named => ?_) _
      cases phase with
      | pending usernames =>
        have selected : username ∈ usernames := by
          have called : (statements ++ later).flatMap (·.usernames) = usernames := called
          rw [← called]
          exact List.mem_flatMap_of_mem (List.mem_append_left _ inBatch) named
        have past := kept.past usernames (List.mem_of_getElem? atHeld) username selected
        have runs : running reached.store.users choice.now username = true :=
          (Option.any_eq_true _ _).mpr ⟨row, found, future⟩
        rw [running_anti timely runs] at past
        contradiction
      | idle | reading _ => exact called.elim
    | _ => trivial

/-! ## A pass and a renewal -/

namespace Sample

/-- A user whose term is over. -/
def late : World := ⟨{ users := OrderedMap.empty.alter "user0" fun _ => { expires_at := some 1000 } }, []⟩

/-- A pass has selected the user. -/
def selected : List Event := [.start .runMaintenance, .act 0 ⟨.answered, 2000⟩, .act 0 ⟨.answered, 2000⟩, .act 0 ⟨.answered, 2000⟩]

/-- The user is given thirty days when the pass is over. -/
def renewedAfter : List Event :=
  selected ++ ([.act 0 ⟨.answered, 2000⟩, .start (.updateUser "user0" { expiry_days := some 30, is_active := some true } 3000),
    .act 1 ⟨.answered, 3000⟩] : List Event)

/-- The user is given thirty days while the pass is about to act. -/
def renewedBetween : List Event :=
  selected ++ ([.start (.updateUser "user0" { expiry_days := some 30 } 3000), .act 1 ⟨.answered, 3000⟩] : List Event)

/-- The users who are enabled and whose deadline is in the future. -/
def served (world : World) : List String :=
  (world.store.users.entries.filter fun entry => entry.2.is_active && entry.2.running world.store.clock).map (·.1)

end Sample

/-- The user is disabled, and enabled by the renewal. -/
theorem renewed_spared_after : ∃ world, host.machine.Run Undisturbed Sample.late Sample.renewedAfter world ∧
    Sample.served world = ["user0"] ∧ host.machine.Run (Host.Acting Lenient) Sample.late Sample.renewedAfter world := by
  have evaluated : (host.machine.checked? (fun world event => decide (Undisturbed world event)) Sample.late
      Sample.renewedAfter).any (fun world => Sample.served world = ["user0"]) = true := by
    decide +kernel
  obtain ⟨world, replayed, served⟩ := (Option.any_eq_true _ _).mp evaluated
  have run := Run.of_checked (fun _ _ => of_decide_eq_true) replayed
  exact ⟨world, run, of_decide_eq_true served, renewed_spared rfl run⟩

/-- The next batch disables a user who is served until thirty days later. -/
theorem renewed_disabled : ∃ world, host.machine.Run Free Sample.late Sample.renewedBetween world ∧
    Sample.served world = ["user0"] ∧ (host.machine.step? world (.act 0 ⟨.answered, 4000⟩)).isSome ∧
      ¬ Host.Acting Lenient world (.act 0 ⟨.answered, 4000⟩ : Event) := by
  have evaluated : (host.machine.replay? Sample.late Sample.renewedBetween).any (fun world =>
      Sample.served world = ["user0"] ∧ (host.machine.step? world (.act 0 ⟨.answered, 4000⟩)).isSome ∧
        world.tasks[0]?.any (·.awaits = some (.batch [.disable ["user0"]] [])) ∧
          (world.store.users.get? "user0").any (fun row => row.is_active && row.running 4000)) = true := by
    decide +kernel
  obtain ⟨world, replayed, checked⟩ := (Option.any_eq_true _ _).mp evaluated
  obtain ⟨served, possible, awaiting, serving⟩ := of_decide_eq_true checked
  obtain ⟨task, atPosition, awaited⟩ := (Option.any_eq_true _ _).mp awaiting
  obtain ⟨row, found, active⟩ := (Option.any_eq_true _ _).mp serving
  obtain ⟨enabled, future⟩ := Bool.and_eq_true_iff.mp active
  refine ⟨world, Run.free_iff_replay.mpr replayed, served, possible, fun acting => ?_⟩
  cases task with
  | call command next =>
    obtain rfl := Option.some.inj (of_decide_eq_true awaited)
    have spared := (Host.acting_iff atPosition).mp acting nofun "user0" row found future
    have disabled : (runBatch world.store.users [.disable ["user0"]]).get? "user0" = some { row with is_active := false } := by
      rw [runBatch, List.foldl_cons, List.foldl_nil, Statement.run_update rfl, found]
      rfl
    have same := Option.some.inj (spared.symm.trans disabled)
    rw [same] at enabled
    contradiction
  | done _ => simp at awaited
  | fail _ => simp at awaited

end Maintenance

end OmniControlPlane.Panel.Term
