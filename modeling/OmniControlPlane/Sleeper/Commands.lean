import Mathlib.Data.List.MinMax
import OmniControlPlane.Deployment.Store
import OmniControlPlane.Lib.Typestate
import OmniControlPlane.Sleeper.Beacon

/-! # Sleeper commands and the beacon that carries them

`sleeper.ts` queues a command in D1, writes the newest unconsumed one into a TXT record and marks
every unconsumed row at once, without waiting for the agent to read the record. The tasks here are
the requests of the owner and the agent's daily reads, interleaved at each awaited call. `Heard` is
the condition on the order of the calls under which no command is lost: a publication that marks rows
runs by itself, and the agent's read comes between its write and its mark. `publishing` says what a
publication writes.

`sleeper_commands` has a ghost column, the length of the agent's log when the row was queued. The
store holds the log of the records read, and the flag `unread`: a row was queued or the record was
written after the agent's last read.
-/

namespace OmniControlPlane.Sleeper

open Lib Task
open Deployment (Failure)

inductive Role where
  | standard | sleeper
deriving DecidableEq, Repr

/-- The columns of `deployments` that `sleeper.ts` reads. -/
structure DeploymentRow where
  id : String
  zoneId : String
  oauthConnectionId : String
  workerHostname : String
  tunnelHostname : Option String := none
  role : Role := .standard
  sleeperAnchorHour : Option ℤ := none
deriving DecidableEq, Repr

structure ConnectionRow where
  resourceZoneId : Option String
deriving DecidableEq, Repr

/-- A row of `sleeper_commands`. -/
structure CommandRow where
  command : SleeperCommand
  queuedAt : ℕ
  consumedAt : Option ℕ := none
  logged : ℕ
deriving DecidableEq, Repr

/-- The beacon record, as the parts of its content. -/
structure Beacon where
  window : SleeperWindow
  command : Option SleeperCommand
deriving DecidableEq, Repr

def Beacon.content (beacon : Beacon) : String := beaconContent beacon.window (commandText beacon.command)

def SLEEPER_DEFAULT_ANCHOR_HOUR : ℤ := 3
def BEACON_RECORD_PREFIX : String := "_v13beacon"

def beaconRecordName (deployment : DeploymentRow) : String :=
  BEACON_RECORD_PREFIX ++ "." ++ deployment.tunnelHostname.getD deployment.workerHostname

structure Store where
  deployment : Option DeploymentRow
  rows : List CommandRow := []
  records : List Beacon := []
  log : List Beacon := []
  unread : Bool := true
deriving DecidableEq, Repr

/-- `WHERE consumed_at IS NULL ORDER BY queued_at DESC LIMIT 1` -/
def pendingSleeperCommand (rows : List CommandRow) : Option SleeperCommand :=
  ((rows.filter (·.consumedAt.isNone)).argmax (·.queuedAt)).map (·.command)

/-- The command that the record carries. -/
def Store.carried (store : Store) : Option SleeperCommand := store.records.head?.bind (·.command)

/-- Awaited calls that no column of the model depends on. -/
inductive External where
  | cloudflareAuth | audit | updateBeaconPublishedAt
deriving DecidableEq, Repr

inductive Command where
  | selectDeployment
  | updateRole (role : Role) (anchorHour : ℤ)
  | selectConnection (id : String)
  | selectFallback
  | updateConnection (id : String)
  | insertCommand (command : SleeperCommand)
  | today
  | selectPending
  | listTxtRecords
  | putTxtRecord (beacon : Beacon)
  | postTxtRecord (beacon : Beacon)
  | markConsumed
  | resolveBeacon
  | external (call : External)
deriving DecidableEq, Repr

/-- The type of a command's answer. -/
abbrev Answer : Command → Type
  | .selectDeployment => Option DeploymentRow
  | .selectConnection _ => Option ConnectionRow
  | .selectFallback => Option String
  | .today => String
  | .selectPending => Option SleeperCommand
  | .listTxtRecords => Bool
  | .resolveBeacon => Option Beacon
  | _ => Unit

/-- The outside choices of one step: the delivery, the clock and the connections of the tenant. -/
structure Choice where
  delivery : Delivery := .answered
  now : ℕ := 0
  day : String := ""
  connection : Option ConnectionRow := none
  fallback : Option String := none
deriving DecidableEq, Repr

/-- A written record, which the agent still has to read. -/
def Store.publish (store : Store) (records : List Beacon) : Store :=
  { store with records := records, unread := true }

/-- The effect of a command on the store. The answer to the agent's query lists the oldest record
first, and that is the one which a later `PUT` replaces. A query without an answer is no read. -/
def effect (choice : Choice) (store : Store) : Command → Store
  | .updateRole role anchorHour =>
    { store with deployment := store.deployment.map fun row =>
        { row with role := role, sleeperAnchorHour := some anchorHour } }
  | .updateConnection id =>
    { store with deployment := store.deployment.map fun row => { row with oauthConnectionId := id } }
  | .insertCommand command =>
    { store with rows := store.rows ++ [⟨command, choice.now, none, store.log.length⟩]
                 unread := true }
  | .putTxtRecord beacon => store.publish (store.records.set 0 beacon)
  | .postTxtRecord beacon => store.publish (store.records ++ [beacon])
  | .markConsumed =>
    { store with rows := store.rows.map fun row =>
        { row with consumedAt := row.consumedAt.or (some choice.now) } }
  | .resolveBeacon =>
    match choice.delivery with
    | .answered => { store with log := store.log ++ store.records.head?.toList, unread := false }
    | _ => store
  | _ => store

/-- The answer of a command, read from the store before its effect. -/
def answer (choice : Choice) (store : Store) : (command : Command) → Answer command
  | .selectDeployment => store.deployment
  | .selectConnection _ => choice.connection
  | .selectFallback => choice.fallback
  | .today => choice.day
  | .selectPending => pendingSleeperCommand store.rows
  | .listTxtRecords => !store.records.isEmpty
  | .resolveBeacon => store.records.head?
  | .updateRole .. | .updateConnection _ | .insertCommand _ | .putTxtRecord _ | .postTxtRecord _
  | .markConsumed | .external _ => ()

/-- Execute one command. The clock is local and always answers; every other call is remote. -/
def exec (command : Command) (choice : Choice) (store : Store) :
    Option (Store × Except Failure (Answer command)) :=
  match command with
  | .today => some (store, .ok choice.day)
  | command => some (choice.delivery.deliver .remote store (effect choice store command)
      (answer choice store command))

/-! ## The operations -/

/-- What a finished operation hands back. -/
inductive Outcome where
  | role (role : Role) (anchorHour : ℤ)
  | queued
  | published (name : String)
  | woke (command : Option SleeperCommand)
deriving DecidableEq, Repr

abbrev Async := Task Failure Answer

/-- Await one command. -/
abbrev await (command : Command) : Async (Answer command) := perform command

def external (call : External) : Async Unit := await (.external call)

def loadOwnedDeployment : Async DeploymentRow := do
  match ← await .selectDeployment with
  | some deployment => pure deployment
  | none => throw (.http 404 "deployment_not_found" "Deployment not found")

def setDeploymentRole (role : Role) (consent : Bool) : Async Outcome := do
  let deployment ← loadOwnedDeployment
  throwIf (role = .sleeper ∧ consent = false) (.http 400 "consent_required"
    "Sleeper mode requires explicit consent to the three ethical constraints")
  let anchor := deployment.sleeperAnchorHour.getD SLEEPER_DEFAULT_ANCHOR_HOUR
  await (.updateRole role anchor)
  external .audit
  pure (.role role anchor)

def getConnection (connectionId : String) : Async ConnectionRow := do
  match ← await (.selectConnection connectionId) with
  | some connection => pure connection
  | none => throw (.http 409 "cloudflare_reconnect_required" "Cloudflare connection not found")

/-- The `catch` of `publishSleeperBeacon`: rebind to the tenant's newest connection of the zone. -/
def rebind (error : Failure) : Async ConnectionRow := do
  match ← await .selectFallback with
  | none => throw error
  | some fallback =>
    await (.updateConnection fallback)
    external .audit
    getConnection fallback

def upsertTxtRecord (beacon : Beacon) : Async Unit := do
  if ← await .listTxtRecords then await (.putTxtRecord beacon) else await (.postTxtRecord beacon)

/-- The rest of `publishSleeperBeacon` after the write of the record. -/
def concludePublication (deployment : DeploymentRow) (pending : Option SleeperCommand) : Async Outcome := do
  if pending.isSome then await .markConsumed
  external .updateBeaconPublishedAt
  external .audit
  pure (.published (beaconRecordName deployment))

/-- `publishSleeperBeacon`, once the connection is known to cover the zone. -/
def publishRecord (deployment : DeploymentRow) : Async Outcome := do
  external .cloudflareAuth
  let day ← await .today
  let window := sleeperWindowFor deployment.id
    (deployment.sleeperAnchorHour.getD SLEEPER_DEFAULT_ANCHOR_HOUR) day
  let pending ← await .selectPending
  upsertTxtRecord ⟨window, pending⟩
  concludePublication deployment pending

def publishSleeperBeacon : Async Outcome := do
  let deployment ← loadOwnedDeployment
  let connection ← tryCatch (getConnection deployment.oauthConnectionId) rebind
  throwIf (connection.resourceZoneId ≠ some deployment.zoneId) (.http 409 "cloudflare_reconnect_required"
    "Connection zone is missing; reconnect the Cloudflare connection")
  publishRecord deployment

def queueSleeperCommand (command : SleeperCommand) : Async Outcome := do
  let deployment ← loadOwnedDeployment
  throwIf (deployment.role ≠ .sleeper) (.http 409 "invalid_deployment_state"
    "Deployment is not in sleeper role")
  await (.insertCommand command)
  discard publishSleeperBeacon
  pure .queued

/-- One run of the agent script in its window; without an answer its command is `none`. -/
def Agent.wake : Async Outcome := do
  let beacon ← tryCatch (await .resolveBeacon) fun _ => pure none
  pure (.woke (beacon.bind (·.command)))

/-- What may start at any time. -/
inductive Operation where
  | setDeploymentRole (role : Role) (consent : Bool)
  | queueSleeperCommand (command : SleeperCommand)
  | publishSleeperBeacon
  | wake
deriving DecidableEq, Repr

def program : Operation → Async Outcome
  | .setDeploymentRole role consent => setDeploymentRole role consent
  | .queueSleeperCommand command => queueSleeperCommand command
  | .publishSleeperBeacon => publishSleeperBeacon
  | .wake => Agent.wake

def host : Host Failure Answer Outcome Store Choice Operation where
  program := program
  exec := exec
  spawns := fun _ _ => []

abbrev World := Lib.World Failure Answer Outcome Store

abbrev Event := Lib.Event Operation Choice

/-- A deployment for which no command was ever queued. -/
def initial (deployment : DeploymentRow) (records : List Beacon) : World :=
  ⟨{ deployment := some deployment, records := records }, []⟩

/-! ## What the agent has read -/

/-- The content determines the command. -/
theorem beaconContent_command {window window' : SleeperWindow} {pending pending' : Option SleeperCommand}
    (same : beaconContent window (commandText pending) = beaconContent window' (commandText pending')) :
    pending = pending' := by
  have split (window : SleeperWindow) (pending : Option SleeperCommand) :
      (words Agent.isSpace (beaconContent window (commandText pending)).toList).getLast? =
        some (commandText pending).toList := by
    rw [content_toList, words_contentTail]
    simp
  have text : (commandText pending).toList = (commandText pending').toList :=
    Option.some.inj ((split window pending).symm.trans (same ▸ split window' pending'))
  revert text
  rcases pending with _ | _ | _ <;> rcases pending' with _ | _ | _ <;> decide

/-- The row's command was the content of the beacon at a read since the row was queued. -/
def CommandRow.Read (row : CommandRow) (log : List Beacon) : Prop :=
  ∃ beacon ∈ log.drop row.logged, ∃ window, beacon.content = beaconContent window row.command.text

theorem CommandRow.read_iff {row : CommandRow} {log : List Beacon} :
    row.Read log ↔ ∃ beacon ∈ log.drop row.logged, beacon.command = some row.command := by
  constructor
  · rintro ⟨beacon, member, window, same⟩
    have carries : beacon.command = some row.command := beaconContent_command same
    exact ⟨beacon, member, carries⟩
  · rintro ⟨beacon, member, carries⟩
    exact ⟨beacon, member, beacon.window, by rw [Beacon.content, carries]; rfl⟩

instance (row : CommandRow) (log : List Beacon) : Decidable (row.Read log) :=
  decidable_of_iff _ CommandRow.read_iff.symm

/-- A read is never forgotten. -/
theorem CommandRow.Read.append {row : CommandRow} {log : List Beacon} (read : row.Read log)
    (more : List Beacon) : row.Read (log ++ more) := by
  obtain ⟨beacon, member, carries⟩ := read
  refine ⟨beacon, ?_, carries⟩
  rw [List.drop_append]
  exact List.mem_append_left _ member

/-! ## The condition on the order of the calls -/

/-- The calls of a publication from the choice of its command on, up to the mark of the rows. -/
def Command.publishes : Command → Bool
  | .listTxtRecords | .putTxtRecord _ | .postTxtRecord _ | .markConsumed => true
  | _ => false

/-- The task is a publication that has chosen its command. -/
def publishes (task : Async Outcome) : Bool := task.awaits.any (·.publishes)

/-- No other publication is under way. -/
def Sole (world : World) (position : ℕ) : Prop := (world.tasks.eraseIdx position).all (!publishes ·) = true

instance (world : World) (position : ℕ) : Decidable (Sole world position) := inferInstanceAs (Decidable (_ = true))

/-- The condition on a call that takes effect. A command is queued while no other one is pending and no
publication is under way; the rows are marked after the agent has read, and while no other publication is. -/
def Timely (world : World) (position : ℕ) : Option Command → Prop
  | some (.insertCommand queued) => Sole world position ∧
      (pendingSleeperCommand world.store.rows = none ∨ pendingSleeperCommand world.store.rows = some queued)
  | some .markConsumed => Sole world position ∧ world.store.unread = false
  | _ => True

instance (world : World) (position : ℕ) : (command : Option Command) → Decidable (Timely world position command)
  | some (.insertCommand _) => inferInstanceAs (Decidable (_ ∧ _))
  | some .markConsumed => inferInstanceAs (Decidable (_ ∧ _))
  | none | some .selectDeployment | some (.updateRole ..) | some (.selectConnection _) | some .selectFallback
  | some (.updateConnection _) | some .today | some .selectPending | some .listTxtRecords | some (.putTxtRecord _)
  | some (.postTxtRecord _) | some .resolveBeacon | some (.external _) => .isTrue trivial

/-- The condition on a step. -/
def Heard (world : World) : Event → Prop
  | .start _ => True
  | .act position choice =>
    choice.delivery ≠ .refused → Timely world position (world.tasks[position]?.bind Task.awaits)

instance (world : World) : (event : Event) → Decidable (Heard world event)
  | .start _ => .isTrue trivial
  | .act _ _ => inferInstanceAs (Decidable (_ → _))

/-! ## What a publication writes -/

/-- How far a publication is: it has chosen the pending command, it has looked for the record, it has written
the command. -/
inductive Phase where
  | idle
  | chosen (pending : Option SleeperCommand)
  | listed (present : Bool) (pending : Option SleeperCommand)
  | written (queued : SleeperCommand)

namespace Phase

def allowed : Phase → Command → Prop
  | .idle, command => command.publishes = false
  | .chosen _, .listTxtRecords | .written _, .markConsumed => True
  | .listed true pending, .putTxtRecord beacon | .listed false pending, .postTxtRecord beacon =>
    beacon.command = pending
  | _, _ => False

/-- After its write a publication marks the rows if there was a command. -/
def after : Option SleeperCommand → Phase
  | some queued => .written queued
  | none => .idle

def next : Phase → (command : Command) → Except Failure (Answer command) → Phase
  | .idle, .selectPending, .ok pending => .chosen pending
  | .chosen pending, .listTxtRecords, .ok present => .listed present pending
  | .listed _ pending, _, .ok _ => after pending
  | _, _, _ => .idle

/-- A task does not end before the mark. -/
abbrev ends {α : Type} : Phase → Except Failure α → Prop := fun phase _ => phase = .idle

/-- The chosen command is still the pending one, and the written one is on the record. -/
def Holds (store : Store) : Phase → Prop
  | .idle => True
  | .chosen pending => pendingSleeperCommand store.rows = pending
  | .listed true pending => pendingSleeperCommand store.rows = pending ∧ store.records ≠ []
  | .listed false pending => pendingSleeperCommand store.rows = pending ∧
      (store.records = [] ∨ store.carried = pending)
  | .written queued => pendingSleeperCommand store.rows = some queued ∧ store.carried = some queued

end Phase

def publishing : Protocol Failure Answer Phase := ⟨Phase.allowed, Phase.next⟩

theorem loadOwnedDeployment_follows : Stays publishing .idle loadOwnedDeployment := by
  refine .after rfl (fun found => ?_) fun _ => rfl
  cases found <;> rfl

theorem getConnection_follows (id : String) : Stays publishing .idle (getConnection id) := by
  refine .after rfl (fun found => ?_) fun _ => rfl
  cases found <;> rfl

theorem external_follows (call : External) : Stays publishing .idle (external call) := .performing rfl fun _ => rfl

theorem rebind_follows (error : Failure) : Stays publishing .idle (rebind error) := by
  refine .after rfl (fun found => ?_) fun _ => rfl
  cases found with
  | none => rfl
  | some fallback =>
    refine .after rfl (fun _ => ?_) fun _ => rfl
    exact Stays.seq (external_follows _) fun _ => getConnection_follows _

/-- A publication writes the command that it has chosen, and marks the rows after that. -/
theorem publishRecord_follows (deployment : DeploymentRow) : Stays publishing .idle (publishRecord deployment) := by
  have concluded : Stays publishing .idle (do
      external .updateBeaconPublishedAt
      external .audit
      pure (.published (beaconRecordName deployment)) : Async Outcome) :=
    .seq (external_follows _) fun _ => .seq (external_follows _) fun _ => rfl
  have concludes (pending : Option SleeperCommand) :
      (concludePublication deployment pending).Follows publishing Phase.ends (.after pending) := by
    cases pending with
    | none => exact concluded
    | some queued => exact .after trivial (fun _ => concluded) fun _ => rfl
  refine .seq (external_follows _) fun _ => .after rfl (fun day => ?_) fun _ => rfl
  refine .after rfl (fun pending => ?_) fun _ => rfl
  refine (follows_bind _ _).mpr (.after trivial (fun present => ?_) fun _ => rfl)
  cases present with
  | true | false =>
    refine (follows_perform _).mpr ⟨rfl, fun answer => ?_⟩
    cases answer with
    | ok value => exact concludes pending
    | error error => rfl

theorem publishSleeperBeacon_follows : Stays publishing .idle publishSleeperBeacon := by
  refine .seq loadOwnedDeployment_follows fun deployment => ?_
  refine .seq (.catching (getConnection_follows _) rebind_follows) fun connection => ?_
  exact .seq .throwIf fun _ => publishRecord_follows deployment

theorem program_follows (operation : Operation) : Stays publishing .idle (program operation) := by
  cases operation with
  | setDeploymentRole role consent =>
    refine .seq loadOwnedDeployment_follows fun deployment => .seq .throwIf fun _ => ?_
    exact .after rfl (fun _ => Stays.seq (external_follows _) fun _ => rfl) fun _ => rfl
  | queueSleeperCommand command =>
    refine .seq loadOwnedDeployment_follows fun deployment => .seq .throwIf fun _ => ?_
    refine .after rfl (fun _ => ?_) fun _ => rfl
    exact Stays.seq (Stays.seq publishSleeperBeacon_follows fun _ => rfl) fun _ => rfl
  | publishSleeperBeacon => exact publishSleeperBeacon_follows
  | wake => exact .seq (.catching (.performing rfl fun _ => rfl) fun _ => rfl) fun _ => rfl

/-- Between its choice and the end of the mark a publication is under way. -/
theorem publishes_of_follows {task : Async Outcome} {phase : Phase}
    (follows : task.Follows publishing Phase.ends phase) (going : phase ≠ .idle) : publishes task = true := by
  cases task with
  | done value | fail error => exact absurd follows going
  | call command next =>
    have called : Phase.allowed phase command := follows.1
    cases phase with
    | idle => exact absurd rfl going
    | chosen pending | written queued => cases command <;> first | rfl | exact called.elim
    | listed present pending => cases present <;> cases command <;> first | rfl | exact called.elim

/-! ## What is kept -/

/-- A command that was not read is unconsumed and pending; a record that was read since its last change has
nothing left to read. -/
structure Kept (store : Store) : Prop where
  waiting : ∀ row ∈ store.rows, ¬ row.Read store.log →
    row.consumedAt = none ∧ pendingSleeperCommand store.rows = some row.command
  caughtUp : store.unread = false → ∀ row ∈ store.rows, store.carried = some row.command → row.Read store.log
  logged : ∀ row ∈ store.rows, row.logged ≤ store.log.length

section

variable {store after : Store} {command : Command} {choice : Choice} {reply : Except Failure (Answer command)}

/-- A command is refused, or it takes effect. -/
theorem exec_store (executed : exec command choice store = some (after, reply)) :
    after = store ∨ choice.delivery ≠ .refused ∧ after = effect choice store command := by
  unfold exec at executed
  split at executed
  · cases executed
    exact .inl rfl
  · unfold Delivery.deliver at executed
    split at executed <;> cases executed <;> simp_all

/-- An answer is the one read from the store before, and the effect took place. -/
theorem exec_answered {value : Answer command} (executed : exec command choice store = some (after, .ok value)) :
    value = answer choice store command ∧ after = effect choice store command := by
  unfold exec at executed
  split at executed
  · cases executed
    exact ⟨rfl, rfl⟩
  · unfold Delivery.deliver at executed
    split at executed <;> cases executed
    exact ⟨rfl, rfl⟩

theorem pending_eq_none {rows : List CommandRow} (none : pendingSleeperCommand rows = none) :
    ∀ row ∈ rows, row.consumedAt ≠ Option.none := by
  simpa [pendingSleeperCommand, Option.ne_none_iff_isSome] using none

/-- The queued command becomes the pending one, unless an unconsumed row is as young. -/
theorem pending_insert (rows : List CommandRow) (queued : SleeperCommand) (now logged : ℕ) :
    pendingSleeperCommand (rows ++ [⟨queued, now, none, logged⟩]) =
      if ∀ row ∈ rows, row.consumedAt = none → row.queuedAt < now then some queued
      else pendingSleeperCommand rows := by
  unfold pendingSleeperCommand
  rw [List.filter_append, List.filter_cons_of_pos rfl, List.filter_nil, List.argmax_concat]
  cases newest : (rows.filter (·.consumedAt.isNone)).argmax (·.queuedAt) with
  | none =>
    have empty := List.argmax_eq_none.mp newest
    rw [if_pos]
    · rfl
    · intro row member unconsumed
      have listed : row ∈ rows.filter (·.consumedAt.isNone) :=
        List.mem_filter.mpr ⟨member, by rw [unconsumed]; rfl⟩
      simp [empty] at listed
  | some last =>
    obtain ⟨member, unconsumed⟩ := List.mem_filter.mp (List.argmax_mem newest)
    have older : (∀ row ∈ rows, row.consumedAt = none → row.queuedAt < now) ↔ last.queuedAt < now := by
      constructor
      · intro all
        exact all last member (Option.isNone_iff_eq_none.mp unconsumed)
      · intro last row member unconsumed
        have listed : row ∈ rows.filter (·.consumedAt.isNone) :=
          List.mem_filter.mpr ⟨member, by rw [unconsumed]; rfl⟩
        have := List.le_of_mem_argmax listed newest
        omega
    simp only [older]
    split <;> rfl

theorem Kept.publish (kept : Kept store) (records : List Beacon) : Kept (store.publish records) :=
  ⟨kept.waiting, nofun, kept.logged⟩

theorem Kept.insert (kept : Kept store) {queued : SleeperCommand}
    (alone : pendingSleeperCommand store.rows = none ∨ pendingSleeperCommand store.rows = some queued) :
    Kept (effect choice store (.insertCommand queued)) := by
  have unconsumed (row : CommandRow) (member : row ∈ store.rows) (waits : row.consumedAt = none) :
      pendingSleeperCommand store.rows = some queued :=
    alone.resolve_left fun none => pending_eq_none none row member waits
  have pending :
      pendingSleeperCommand (store.rows ++ [⟨queued, choice.now, none, store.log.length⟩]) = some queued := by
    rw [pending_insert]
    split
    · rfl
    · next younger =>
      push Not at younger
      obtain ⟨row, member, waits, -⟩ := younger
      exact unconsumed row member waits
  refine ⟨fun row member fresh => ?_, nofun, fun row member => ?_⟩
  · rcases List.mem_append.mp member with old | new
    · obtain ⟨waits, same⟩ := kept.waiting row old fresh
      exact ⟨waits, pending.trans ((unconsumed row old waits).symm.trans same)⟩
    · rw [List.mem_singleton.mp new]
      exact ⟨rfl, pending⟩
  · rcases List.mem_append.mp member with old | new
    · exact kept.logged row old
    · rw [List.mem_singleton.mp new]
      exact le_rfl

/-- A publication marks the rows after the agent has read its write: no unconsumed row is left unread. -/
theorem Kept.mark (kept : Kept store) (heard : store.unread = false) {queued : SleeperCommand}
    (written : Phase.Holds store (.written queued)) : Kept (effect choice store .markConsumed) := by
  have read (row : CommandRow) (member : row ∈ store.rows) : row.Read store.log := by
    by_contra fresh
    have pending := (kept.waiting row member fresh).2
    exact fresh (kept.caughtUp heard row member (written.2.trans (written.1.symm.trans pending)))
  refine ⟨?_, ?_, ?_⟩
  · intro row member fresh
    obtain ⟨old, was, rfl⟩ := List.mem_map.mp member
    exact absurd (read old was) fresh
  · intro _ row member _
    obtain ⟨old, was, rfl⟩ := List.mem_map.mp member
    exact read old was
  · intro row member
    obtain ⟨old, was, rfl⟩ := List.mem_map.mp member
    exact kept.logged old was

/-- After a read every command on the record has been read. -/
theorem Kept.resolve_reads (kept : Kept store) {row : CommandRow} (member : row ∈ store.rows)
    (carries : store.carried = some row.command) : row.Read (store.log ++ store.records.head?.toList) := by
  obtain ⟨beacon, first, command⟩ := Option.bind_eq_some_iff.mp carries
  refine CommandRow.read_iff.mpr ⟨beacon, ?_, command⟩
  have logged := kept.logged row member
  rw [first, List.drop_append, Nat.sub_eq_zero_of_le logged]
  apply List.mem_append_right
  exact List.mem_singleton_self beacon

theorem Kept.resolve (kept : Kept store) : Kept (effect choice store .resolveBeacon) := by
  rw [effect]
  split
  · refine ⟨fun row member fresh => ?_, fun _ row member carries => kept.resolve_reads member carries,
      fun row member => ?_⟩
    · exact kept.waiting row member fun read => fresh (read.append _)
    · have := kept.logged row member
      simp only [List.length_append]
      omega
  · exact kept

/-! ## What the phases see -/

/-- The command writes `sleeper_commands`. -/
def Command.writesRows : Command → Bool
  | .insertCommand _ | .markConsumed => true
  | _ => false

theorem written_of_mark {phase : Phase} (called : publishing.allowed phase .markConsumed) :
    ∃ queued, phase = .written queued := by
  cases phase with
  | written queued => exact ⟨queued, rfl⟩
  | idle => cases called
  | chosen pending => exact called.elim
  | listed present pending => cases present <;> exact called.elim

/-- A publication leaves the pending command on the record. -/
theorem carried_of_put {phase : Phase} {beacon : Beacon} (called : publishing.allowed phase (.putTxtRecord beacon))
    (holds : phase.Holds store) :
    (effect choice store (.putTxtRecord beacon)).carried = pendingSleeperCommand store.rows := by
  cases phase with
  | listed present pending =>
    cases present with
    | false => exact called.elim
    | true =>
      obtain rfl : beacon.command = pending := called
      obtain ⟨first, rest, found⟩ := List.exists_cons_of_ne_nil holds.2
      rw [holds.1]
      simp [effect, Store.publish, Store.carried, found]
  | idle => cases called
  | chosen pending | written queued => exact called.elim

theorem carried_of_post {phase : Phase} {beacon : Beacon} (called : publishing.allowed phase (.postTxtRecord beacon))
    (holds : phase.Holds store) :
    (effect choice store (.postTxtRecord beacon)).carried = pendingSleeperCommand store.rows := by
  cases phase with
  | listed present pending =>
    cases present with
    | true => exact called.elim
    | false =>
      obtain rfl : beacon.command = pending := called
      rw [holds.1]
      rcases holds.2 with empty | carried
      · simp [effect, Store.publish, Store.carried, empty]
      · cases found : store.records with
        | nil => simp [effect, Store.publish, Store.carried, found]
        | cons first rest => simpa [effect, Store.publish, Store.carried, found] using carried
  | idle => cases called
  | chosen pending | written queued => exact called.elim

/-- A write of the pending command leaves every publication with what it has seen. -/
theorem Phase.Holds.rewrite {phase : Phase} (holds : phase.Holds store) (rows : after.rows = store.rows)
    (carried : after.carried = pendingSleeperCommand store.rows) (present : store.records ≠ [] → after.records ≠ []) :
    phase.Holds after := by
  cases phase with
  | idle => trivial
  | chosen pending => exact (congrArg pendingSleeperCommand rows).trans holds
  | listed found pending =>
    cases found with
    | true => exact ⟨(congrArg pendingSleeperCommand rows).trans holds.1, present holds.2⟩
    | false => exact ⟨(congrArg pendingSleeperCommand rows).trans holds.1, .inr (carried.trans holds.1)⟩
  | written queued => exact ⟨(congrArg pendingSleeperCommand rows).trans holds.1, carried.trans holds.1⟩

theorem Phase.Holds.congr {phase : Phase} (holds : phase.Holds store) (rows : after.rows = store.rows)
    (records : after.records = store.records) : phase.Holds after := by
  cases phase with
  | idle => trivial
  | chosen pending => exact (congrArg pendingSleeperCommand rows).trans holds
  | listed found pending => cases found <;> simpa [Holds, Store.carried, rows, records] using holds
  | written queued => simpa [Holds, Store.carried, rows, records] using holds

/-- What a publication has seen stays true under the calls of the others, as long as the rows do not change. -/
theorem Phase.Holds.other {phase own : Phase} (holds : phase.Holds store) (called : publishing.allowed own command)
    (held : own.Holds store) (sole : choice.delivery ≠ .refused → command.writesRows = true → phase = .idle)
    (executed : exec command choice store = some (after, reply)) : phase.Holds after := by
  rcases exec_store executed with rfl | ⟨taken, rfl⟩
  · exact holds
  cases command with
  | insertCommand queued | markConsumed =>
    obtain rfl := sole taken rfl
    trivial
  | putTxtRecord beacon =>
    exact holds.rewrite rfl (carried_of_put called held) fun present => by simpa [effect, Store.publish] using present
  | postTxtRecord beacon =>
    exact holds.rewrite rfl (carried_of_post called held) fun _ => by simp [effect, Store.publish]
  | resolveBeacon =>
    rw [effect]
    split <;> exact holds.congr rfl rfl
  | _ => exact holds.congr rfl rfl

/-- An answer shows the publication what is there. -/
theorem Phase.Holds.next {phase : Phase} (holds : phase.Holds store) (called : publishing.allowed phase command)
    (executed : exec command choice store = some (after, reply)) :
    (publishing.next phase command reply).Holds after := by
  cases phase with
  | idle =>
    cases command with
    | selectPending =>
      cases reply with
      | error error => trivial
      | ok pending =>
        obtain ⟨answered, rfl⟩ := exec_answered executed
        exact answered.symm
    | _ => trivial
  | chosen pending =>
    cases command with
    | listTxtRecords =>
      cases reply with
      | error error => trivial
      | ok present =>
        obtain ⟨answered, rfl⟩ := exec_answered executed
        have found : present = !after.records.isEmpty := answered
        cases present with
        | true => exact ⟨holds, by simpa using found⟩
        | false => exact ⟨holds, .inl (by simpa using found)⟩
    | _ => trivial
  | listed present pending =>
    cases reply with
    | error error => cases pending <;> trivial
    | ok value =>
      cases pending with
      | none => trivial
      | some queued =>
        obtain ⟨-, rfl⟩ := exec_answered executed
        cases command with
        | putTxtRecord beacon =>
          have carried : Store.carried (effect choice store (.putTxtRecord beacon)) = _ := carried_of_put called holds
          cases present with
          | true => exact ⟨holds.1, carried.trans holds.1⟩
          | false => exact called.elim
        | postTxtRecord beacon =>
          have carried : Store.carried (effect choice store (.postTxtRecord beacon)) = _ := carried_of_post called holds
          cases present with
          | true => exact called.elim
          | false => exact ⟨holds.1, carried.trans holds.1⟩
        | _ => cases present <;> exact called.elim
  | written queued => trivial

theorem Kept.step {world : World} {position : ℕ} {phase : Phase} (kept : Kept world.store)
    (called : publishing.allowed phase command) (holds : phase.Holds world.store)
    (timely : choice.delivery ≠ .refused → Timely world position (some command))
    (executed : exec command choice world.store = some (after, reply)) : Kept after := by
  rcases exec_store executed with rfl | ⟨taken, rfl⟩
  · exact kept
  replace timely := timely taken
  cases command with
  | insertCommand queued => exact kept.insert timely.2
  | markConsumed =>
    obtain ⟨queued, rfl⟩ := written_of_mark called
    exact kept.mark timely.2 holds
  | resolveBeacon => exact kept.resolve
  | putTxtRecord beacon | postTxtRecord beacon => exact kept.publish _
  | _ => exact ⟨kept.waiting, kept.caughtUp, kept.logged⟩

/-- No operation removes the deployment. -/
theorem deployment_stays (executed : exec command choice store = some (after, reply))
    (present : store.deployment.isSome) : after.deployment.isSome := by
  rcases exec_store executed with rfl | ⟨-, rfl⟩
  · exact present
  · cases command with
    | resolveBeacon =>
      rw [effect]
      split <;> exact present
    | updateRole role anchorHour => simpa [effect] using present
    | updateConnection id => simpa [effect] using present
    | _ => exact present

/-! ## Runs -/

/-- What a run keeps of each task: it follows the protocol, and what it has seen is there. -/
def InPhase (store : Store) (task : Async Outcome) : Prop :=
  ∃ phase : Phase, task.Follows publishing Phase.ends phase ∧ phase.Holds store

theorem kept_run {world : World} {deployment : DeploymentRow} {records : List Beacon} {events : List Event}
    (run : host.machine.Run Heard (initial deployment records) events world) :
    Kept world.store ∧ world.store.deployment.isSome := by
  refine (Host.preserves (fun store => Kept store ∧ store.deployment.isSome) InPhase ?_ ?_ run ?_).1
  · intro world operation _ _
    exact ⟨.idle, program_follows operation, trivial⟩
  · intro world position choice command next after reply kept inPhase heard atPosition executed
    obtain ⟨own, follows, held⟩ := inPhase _ (List.mem_of_getElem? atPosition)
    have timely : choice.delivery ≠ .refused → Timely world position (some command) := by
      rw [Heard, atPosition] at heard
      exact heard
    refine ⟨⟨kept.1.step follows.1 held timely executed, deployment_stays executed kept.2⟩,
      ⟨_, follows.2 reply, held.next follows.1 executed⟩, nofun, ?_⟩
    intro other task different atOther
    obtain ⟨phase, going, holds⟩ := inPhase task (List.mem_of_getElem? atOther)
    refine ⟨phase, going, holds.other follows.1 held (fun taken writes => ?_) executed⟩
    by_contra underWay
    have sole : Sole world position := by
      cases command with
      | insertCommand queued | markConsumed => exact (timely taken).1
      | _ => contradiction
    have among := List.mem_eraseIdx_iff_getElem?.mpr ⟨other, different, atOther⟩
    have calm := List.all_eq_true.mp sole task among
    rw [publishes_of_follows going underWay] at calm
    contradiction
  · exact ⟨⟨⟨nofun, nofun, nofun⟩, rfl⟩, nofun⟩

/-- A step that leaves the rows alone meets the condition. -/
theorem heard_of_calm (world : World) (event : Event)
    (calm : Host.Acting (fun command _ _ => command.writesRows = false) world event) : Heard world event := by
  cases event with
  | start operation => trivial
  | act position choice =>
    intro _
    cases found : world.tasks[position]? with
    | none => trivial
    | some task =>
      cases task with
      | done value | fail error => trivial
      | call command next =>
        have unwritten : command.writesRows = false := calm command next found
        cases command with
        | insertCommand | markConsumed => contradiction
        | _ => trivial

/-- An operation starts and moves alone. -/
theorem alone_run {cond : (command : Command) → Choice → Store → Prop} (operation : Operation)
    {before after : Store} {choices : List Choice} {ended : Async Outcome}
    (alone : Host.Alone host cond (program operation) before choices ended after) (tasks : List (Async Outcome)) :
    host.machine.Run (Host.Acting cond) ⟨before, tasks⟩
      (.start operation :: choices.map (.act tasks.length)) ⟨after, tasks ++ [ended]⟩ := by
  have run := Host.Alone.run (fun _ _ => rfl) alone (tasks ++ [program operation]) List.getElem?_concat_length
  rw [List.set_append_right _ _ le_rfl, Nat.sub_self, List.set_cons_zero] at run
  exact .cons trivial (Host.step?_start operation) run

theorem wake_alone (store : Store) (cond : (command : Command) → Choice → Store → Prop)
    (met : cond .resolveBeacon {} store) : ∃ ended,
    Host.Alone host cond (program .wake) store [{}] ended (effect {} store .resolveBeacon) :=
  ⟨_, .cons met rfl (.nil _ _)⟩

/-- The choices of a publication whose connection is there, up to the write of the record. -/
def publication (deployment : DeploymentRow) : List Choice :=
  [{}, { connection := some ⟨some deployment.zoneId⟩ }, {}, {}, {}, {}, {}]

/-- With the connection there, `publishSleeperBeacon` comes to the publication itself. -/
theorem connected_alone {cond : (command : Command) → Choice → Store → Prop} {deployment : DeploymentRow}
    {choices : List Choice} {ended : Async Outcome}
    (met : ∀ choice, cond .selectDeployment choice store ∧ ∀ id, cond (.selectConnection id) choice store)
    (present : store.deployment = some deployment)
    (rest : Host.Alone host cond (publishRecord deployment) store choices ended after) :
    Host.Alone host cond (program .publishSleeperBeacon) store
      ({} :: { connection := some ⟨some deployment.zoneId⟩ } :: choices) ended after := by
  have loaded : exec .selectDeployment {} store = some (store, .ok (some deployment)) := by
    rw [← present]
    rfl
  refine .cons (met _).1 loaded (.cons ((met _).2 _) rfl ?_)
  change Host.Alone host cond (throwIf (some deployment.zoneId ≠ some deployment.zoneId) _ >>= fun _ =>
    publishRecord deployment) store choices ended after
  rw [throwIf_kept (not_not.mpr rfl)]
  exact rest

/-- Up to its write a publication replaces the record by one that carries the pending command. -/
theorem publication_alone {cond : (command : Command) → Choice → Store → Prop} {deployment : DeploymentRow}
    (met : ∀ command choice, command.writesRows = false → cond command choice store)
    (present : store.deployment = some deployment) : ∃ records,
    Host.Alone host cond (program .publishSleeperBeacon) store (publication deployment)
      (concludePublication deployment (pendingSleeperCommand store.rows)) (store.publish records) ∧
    (store.publish records).carried = pendingSleeperCommand store.rows := by
  have loads (choice : Choice) : cond .selectDeployment choice store ∧
      ∀ id, cond (.selectConnection id) choice store := ⟨met _ _ rfl, fun _ => met _ _ rfl⟩
  cases records : store.records with
  | nil =>
    have listed : exec .listTxtRecords {} store = some (store, .ok false) := by
      simp [exec, Delivery.deliver, effect, answer, records]
    refine ⟨store.records ++ [⟨_, pendingSleeperCommand store.rows⟩], connected_alone loads present
      (.cons (met _ _ rfl) rfl (.cons (met _ _ rfl) rfl (.cons (met _ _ rfl) rfl
        (.cons (met _ _ rfl) listed (.cons (met _ _ rfl) rfl (.nil _ _)))))), ?_⟩
    simp [Store.publish, Store.carried, records]
  | cons first rest =>
    have listed : exec .listTxtRecords {} store = some (store, .ok true) := by
      simp [exec, Delivery.deliver, effect, answer, records]
    refine ⟨store.records.set 0 ⟨_, pendingSleeperCommand store.rows⟩, connected_alone loads present
      (.cons (met _ _ rfl) rfl (.cons (met _ _ rfl) rfl (.cons (met _ _ rfl) rfl
        (.cons (met _ _ rfl) listed (.cons (met _ _ rfl) rfl (.nil _ _)))))), ?_⟩
    simp [Store.publish, Store.carried, records]

end

/-! ## No command is lost -/

/-- In a run whose calls meet the condition the agent has read every consumed command since it was
queued, and from each state one publication between two reads has it read every command. -/
theorem sleeper_command_read (deployment : DeploymentRow) (records : List Beacon) {events : List Event}
    {world : World} (reached : host.machine.Run Heard (initial deployment records) events world) :
    (∀ row ∈ world.store.rows, row.consumedAt.isSome → row.Read world.store.log) ∧
    ∃ further world', host.machine.Run Heard world further world' ∧
      world'.store.rows = world.store.rows ∧ ∀ row ∈ world.store.rows, row.Read world'.store.log := by
  obtain ⟨kept, present⟩ := kept_run reached
  refine ⟨fun row member consumed => ?_, ?_⟩
  · by_contra fresh
    simp [(kept.waiting row member fresh).1] at consumed
  · obtain ⟨deployment, present⟩ := Option.isSome_iff_exists.mp present
    let calm (command : Command) (_ : Choice) (_ : Store) : Prop := command.writesRows = false
    let caughtUp := effect {} world.store .resolveBeacon
    obtain ⟨_, first⟩ := wake_alone world.store calm rfl
    obtain ⟨records, publishes, carries⟩ : ∃ records, Host.Alone host calm _ caughtUp _ _ _ ∧ _ :=
      publication_alone (fun _ _ unwritten => unwritten) present
    obtain ⟨_, second⟩ := wake_alone (caughtUp.publish records) calm rfl
    have published := ((alone_run .wake first world.tasks).append (alone_run .publishSleeperBeacon publishes _)).mono
      heard_of_calm
    have keptAfter := (kept_run (reached.append published)).1
    refine ⟨_, _, published.append ((alone_run .wake second _).mono heard_of_calm), rfl, fun row member => ?_⟩
    by_contra fresh
    have waits := (keptAfter.waiting row member fun read => fresh (read.append _)).2
    exact fresh (keptAfter.resolve_reads member (carries.trans waits))

/-- A publication of a pending command that no read interrupts consumes every row, read or not. -/
theorem publication_consumes {world : World} {deployment : DeploymentRow} {queued : SleeperCommand}
    (present : world.store.deployment = some deployment)
    (pending : pendingSleeperCommand world.store.rows = some queued) : ∃ events world',
    host.machine.Run (Host.Acting fun _ _ _ => True) world events world' ∧
    world'.store.log = world.store.log ∧ ∀ row ∈ world'.store.rows, row.consumedAt.isSome := by
  obtain ⟨records, publishes, -⟩ : ∃ records, Host.Alone host (fun _ _ _ => True) _ _ _ _ _ ∧ _ :=
    publication_alone (fun _ _ _ => trivial) present
  rw [pending] at publishes
  have concludes : ∃ ended, Host.Alone host (fun _ _ _ => True) (concludePublication deployment (some queued))
      (world.store.publish records) [{}, {}, {}] ended (effect {} (world.store.publish records) .markConsumed) :=
    ⟨_, .cons trivial rfl (.cons trivial rfl (.cons trivial rfl (.nil _ _)))⟩
  obtain ⟨_, concludes⟩ := concludes
  refine ⟨_, _, alone_run .publishSleeperBeacon (publishes.append concludes) world.tasks, rfl, fun row member => ?_⟩
  obtain ⟨old, -, rfl⟩ := List.mem_map.mp member
  cases old.consumedAt <;> rfl

namespace Sample

def deployment : DeploymentRow where
  id := deploymentId
  zoneId := "023e105f4ecef8ad9ca31a8372d0c353"
  oauthConnectionId := "1f3c9a52-7f0a-4a53-9a0b-53a1a24c6e11"
  workerHostname := "vpn.example.org"
  role := .sleeper
  sleeperAnchorHour := some 3

/-- A task receives that many answers at one moment of the day. -/
def answers (position now count : ℕ) : List Event := List.replicate count (.act position
  { now := now, day := "2026-09-12", connection := some ⟨some deployment.zoneId⟩ })

/-- The owner queues a command, and the agent reads between the write of the record and the mark. The mark of a
second command, task 2, fails, and a refresh, task 4, publishes it again. -/
def heard : List Event :=
  .start (.queueSleeperCommand .wake) :: answers 0 1 9 ++ .start .wake :: answers 1 2 1 ++ answers 0 3 3 ++
    .start (.queueSleeperCommand .reportNow) :: answers 2 4 9 ++ .act 2 { delivery := .refused } ::
    .start .publishSleeperBeacon :: answers 3 5 7 ++ .start .wake :: answers 4 6 1 ++ answers 3 7 3

/-- The owner queues a command, refreshes the beacon, and the agent reads. -/
def refreshed : List Event :=
  .start (.queueSleeperCommand .wake) :: answers 0 1 12 ++ .start .publishSleeperBeacon :: answers 1 2 9 ++
    .start .wake :: answers 2 3 1

end Sample

/-- Both commands are consumed after they were read. -/
theorem sleeper_command_read_sample : ∃ world,
    host.machine.Run Heard (initial Sample.deployment []) Sample.heard world ∧
    (world.store.rows.map (·.consumedAt.isSome) = [true, true]) ∧
    ∀ row ∈ world.store.rows, row.consumedAt.isSome → row.Read world.store.log := by
  obtain ⟨world, replayed, consumed⟩ : ∃ world,
      host.machine.checked? (fun world event => decide (Heard world event)) (initial Sample.deployment [])
        Sample.heard = some world ∧ world.store.rows.map (·.consumedAt.isSome) = [true, true] := ⟨_, rfl, rfl⟩
  have reached : host.machine.Run Heard (initial Sample.deployment []) Sample.heard world :=
    .of_checked (fun _ _ => of_decide_eq_true) replayed
  exact ⟨world, reached, consumed, (sleeper_command_read Sample.deployment [] reached).1⟩

/-- The refresh writes `none` over a command that the agent never read and that is marked consumed. -/
theorem sleeper_command_lost : ∃ world,
    host.machine.Run Machine.Free (initial Sample.deployment []) Sample.refreshed world ∧ world.Quiet ∧
    world.store.log.map (·.command) = [none] ∧ pendingSleeperCommand world.store.rows = none ∧
    ∃ row ∈ world.store.rows, row.consumedAt.isSome ∧ ¬ row.Read world.store.log := by
  refine ⟨_, Machine.Run.free_iff_replay.mpr rfl, World.quiet_of_all rfl, rfl, rfl, _,
    List.mem_cons_self, rfl, ?_⟩
  decide +kernel

end OmniControlPlane.Sleeper
