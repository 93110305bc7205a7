import OmniControlPlane.Deployment.Connections

/-! # Credentials outlive the work that needs them

A disconnect erases a connection two statements after it has counted the deployments at work, and it
counts by status. A workflow that starts between the two, or for a deployment whose status does not say
so, is left without its credentials.

What a task may do next is a protocol: it stands in no disconnect, or it has counted none for a
connection and may read and erase that one.
-/

namespace OmniControlPlane.Deployment.Connections

open Lib Machine Task

/-! ## What a disconnect must leave alone -/

def Store.Erased (store : Store) (connectionId : String) : Prop :=
  ∃ connection ∈ store.connections.get? connectionId, connection.revoked = true

/-- No instance but the caller's is at work for a deployment bound to the connection. -/
def Store.Clear (store : Store) (connectionId : String) (caller : Option String) : Prop :=
  ∀ entry ∈ store.instances.entries, store.Works connectionId entry.1 → some entry.1 = caller

/-- A disconnect that takes effect finds the connection clear. -/
def Spared : Command → Choice → Store → Prop
  | .scrub connectionId caller, choice, store => choice.delivery ≠ .refused →
      ∀ connection ∈ store.connections.get? connectionId, connection.revoked = false →
        store.Clear connectionId caller
  | _, _, _ => True

/-! ## The condition on a step -/

/-- The connection that a disconnect has found idle and is about to read or erase. -/
def Command.disconnects : Command → Option String
  | .selectConnection connectionId _ .disconnect | .scrub connectionId _ => some connectionId
  | _ => none

/-- No task stands in a disconnect of the connection, unless that is erased already. -/
def Untouched (world : World) (connectionId : String) : Prop :=
  ¬ world.store.Erased connectionId →
    ∀ other ∈ world.tasks, other.awaits.bind Command.disconnects ≠ some connectionId

/-- The status of the deployment tells of work under way. -/
def Row.busy (row : Row) : Bool :=
  match row.status with
  | .queued | .preparing | .awaitingAgent | .agentReady | .finalizing | .revoking => true
  | .ready | .failed | .revoked => false

/-- An instance shows: its deployment is not the one that is left out, and has a status that tells of work. -/
def Store.Shows (store : Store) (excluding : Option String) (run : Instance) : Prop :=
  some run.deploymentId ≠ excluding ∧ ∀ row ∈ store.deployments.get? run.deploymentId, row.busy = true

/-- While a disconnect counts, every instance at work with the connection shows, but for its caller. From the count on no
instance is started for a deployment bound to the connection, and no deployment at work is bound to it. -/
def Orderly (world : World) : Event → Prop
  | .start _ => True
  | .act position choice => ∀ task ∈ world.tasks[position]?, ∀ command ∈ task.awaits, match command with
    | .countActive connectionId excluding caller => ¬ world.store.Erased connectionId →
        ∀ entry ∈ world.store.instances.entries, world.store.Works connectionId entry.1 → some entry.1 ≠ caller →
          world.store.Shows excluding entry.2
    | .createWorkflow _ deploymentId => choice.delivery ≠ .refused →
        ∀ row ∈ world.store.deployments.get? deploymentId, Untouched world row.oauthConnectionId
    | .rebind deploymentId _ connectionId => choice.delivery ≠ .refused →
        ∀ entry ∈ world.store.instances.entries, entry.2.deploymentId = deploymentId → entry.2.ended = false →
          Untouched world connectionId
    | _ => True

instance (store : Store) (connectionId instanceId : String) : Decidable (store.Works connectionId instanceId) :=
  decidable_of_iff ((store.instances.get? instanceId).any (fun run => !run.ended &&
      (store.deployments.get? run.deploymentId).any (·.oauthConnectionId = connectionId)) = true) (by
    simp [Store.Works, Option.any_eq_true])

instance (store : Store) (connectionId : String) : Decidable (store.Erased connectionId) :=
  decidable_of_iff ((store.connections.get? connectionId).any (·.revoked) = true) (by
    simp [Store.Erased, Option.any_eq_true])

instance (store : Store) (connectionId : String) (caller : Option String) :
    Decidable (store.Clear connectionId caller) :=
  List.decidableBAll _ _

instance (store : Store) (excluding : Option String) (run : Instance) : Decidable (store.Shows excluding run) :=
  @instDecidableAnd _ _ _ (Option.decidableForallMem _)

instance (world : World) (connectionId : String) : Decidable (Untouched world connectionId) :=
  @instDecidableForall _ _ _ (List.decidableBAll _ _)

instance (world : World) (event : Event) : Decidable (Orderly world event) :=
  match event with
  | .start _ => .isTrue trivial
  | .act _ _ => @Option.decidableForallMem _ _ (fun _ => @Option.decidableForallMem _ _ (fun command =>
      match command with
      | .countActive _ _ _ => @instDecidableForall _ _ _ (List.decidableBAll _ _)
      | .createWorkflow _ _ => @instDecidableForall _ _ _ (Option.decidableForallMem _)
      | .rebind _ _ _ => @instDecidableForall _ _ _ (List.decidableBAll _ _)
      | .insertConnection _ | .eraseExpired _ | .selectConnection .. | .scrub .. | .selectDeployment .. |
        .insertDeployment .. | .updateStatus .. | .markRevoked _ | .storeAgent .. | .deleteDeployment .. |
        .endInstance _ | .external _ => .isTrue trivial) _) _

/-! ## The protocol -/

inductive Standing where
  | idle
  | checked (connectionId : String) (caller : Option String)
deriving DecidableEq, Repr

namespace Standing

def allowed : Standing → Command → Prop
  | .checked connectionId _, .selectConnection called _ .disconnect => called = connectionId
  | .checked connectionId caller, .scrub called by_ => called = connectionId ∧ by_ = caller
  | .checked _ _, _ => False
  | .idle, .selectConnection _ _ .disconnect | .idle, .scrub _ _ => False
  | .idle, _ => True

def next : Standing → (command : Command) → Except Failure (Answer command) → Standing
  | .idle, .countActive connectionId _ caller, .ok active => if active = 0 then .checked connectionId caller else .idle
  | .checked connectionId caller, .selectConnection .., .ok (some connection) =>
    if connection.revoked then .idle else .checked connectionId caller
  | _, _, _ => .idle

end Standing

def disconnecting : Protocol Failure Answer Standing := ⟨Standing.allowed, Standing.next⟩

/-- The calls that neither count nor disconnect. -/
def Command.plain : Command → Bool
  | .countActive .. | .scrub .. | .selectConnection _ _ .disconnect => false
  | _ => true

section

variable {command : Command} {connectionId tenantId deploymentId instanceId : String} {caller : Option String}

theorem calls (plain : command.plain = true) : Stays disconnecting .idle (await command) := by
  refine .performing ?_ fun answer => ?_
  · cases command with
    | selectConnection _ _ use => cases use with
      | work => trivial
      | disconnect => contradiction
    | countActive _ _ _ | scrub _ _ => contradiction
    | _ => trivial
  · cases command with
    | countActive _ _ _ => contradiction
    | _ => rfl

theorem externals (call : External) : Stays disconnecting .idle (external call) := calls rfl

theorem getConnection_stays (tenant : Option String) :
    Stays disconnecting .idle (getConnection connectionId tenant .work) := by
  refine .seq (calls rfl) fun found => ?_
  cases found <;> rfl

/-- What follows the count of none: the connection is read, and erased where it stands. -/
theorem revokeConnectionGrant_follows {connection : Connection} (tenant : Option String) :
    (revokeConnectionGrant connectionId connection caller).Follows disconnecting (fun after _ => after = .idle)
      (disconnecting.next (.checked connectionId caller) (.selectConnection connectionId tenant .disconnect)
        (.ok (some connection))) := by
  change Follows disconnecting _ (if connection.revoked then Standing.idle else .checked connectionId caller) _
  rw [revokeConnectionGrant]
  split
  · rfl
  · exact (follows_perform _).mpr ⟨⟨rfl, rfl⟩, fun _ => rfl⟩

/-- A count, and what is done where it is none. -/
theorem counting_stays {α : Type} {excluding : Option String} {rest : ℕ → Async α}
    (busy : ∀ active, 0 < active → Stays disconnecting .idle (rest active))
    (none : (rest 0).Follows disconnecting (fun after _ => after = .idle) (.checked connectionId caller)) :
    Stays disconnecting .idle (await (.countActive connectionId excluding caller) >>= rest) := by
  refine .after trivial (fun active => ?_) fun _ => rfl
  change Follows disconnecting _ (if active = 0 then Standing.checked connectionId caller else .idle) _
  split
  · next zero => exact zero ▸ none
  · next some => exact busy active (Nat.pos_of_ne_zero some)

theorem disconnectConnectionIfIdle_stays (excluding : String) :
    Stays disconnecting .idle (disconnectConnectionIfIdle connectionId excluding caller) := by
  refine counting_stays (fun active positive => ?_) ?_
  · rw [if_pos positive]
    rfl
  · rw [if_neg (Nat.lt_irrefl 0)]
    refine .after rfl (fun found => ?_) fun _ => rfl
    cases found with
    | none => rfl
    | some connection =>
      refine (follows_bind _ _).mpr ((revokeConnectionGrant_follows none).mono ?_)
      rintro _ (error | value) rfl <;> rfl

theorem disconnectCloudflareConnection_stays :
    Stays disconnecting .idle (disconnectCloudflareConnection tenantId connectionId) := by
  refine counting_stays (fun active positive => ?_) ?_
  · rw [throwIf, if_pos positive]
    rfl
  · rw [throwIf_kept (Nat.lt_irrefl 0)]
    refine (follows_bind _ _).mpr (.after rfl (fun found => ?_) fun _ => rfl)
    cases found with
    | none => rfl
    | some connection =>
      refine (follows_bind (revokeConnectionGrant connectionId connection none) _).mpr
        ((revokeConnectionGrant_follows (some tenantId)).mono ?_)
      rintro _ (error | value) rfl
      · rfl
      · exact externals _

theorem quietDisconnect_stays (excluding : String) : Stays disconnecting .idle
    (tryCatch (discard (disconnectConnectionIfIdle connectionId excluding caller)) fun _ => pure ()) :=
  .catching (.seq (disconnectConnectionIfIdle_stays excluding) fun _ => rfl) fun _ => rfl

theorem startWorkflow_stays (action : WorkflowAction) : Stays disconnecting .idle (startWorkflow action deploymentId) :=
  .seq (calls rfl) fun _ => externals _

theorem createDeployment_stays : Stays disconnecting .idle (createDeployment tenantId connectionId) := by
  refine .seq (externals _) fun _ => .seq (.seq (getConnection_stays _) fun _ => rfl) fun _ => ?_
  refine .seq (externals _) fun _ => .seq (externals _) fun _ => .seq (calls rfl) fun deploymentId => ?_
  refine .seq (.catching (startWorkflow_stays _) fun error => ?_) fun _ => externals _
  exact .seq (calls rfl) fun _ => .seq (quietDisconnect_stays _) fun _ => rfl

theorem ownedDeployment_stays : Stays disconnecting .idle (ownedDeployment tenantId deploymentId) := by
  refine .seq (calls rfl) fun found => ?_
  cases found <;> rfl

theorem ensureActiveDeploymentConnection_stays (deployment : Row) (replacement : Option String) :
    Stays disconnecting .idle (ensureActiveDeploymentConnection tenantId deploymentId deployment replacement) := by
  refine .seq (.catching (.seq (.seq (getConnection_stays _) fun _ => rfl) fun _ => rfl) fun _ => rfl) fun standing => ?_
  cases standing with
  | true => rfl
  | false =>
    cases replacement with
    | none => rfl
    | some replacementId =>
      refine .seq (.catching (.seq (getConnection_stays _) fun _ => rfl) fun _ => rfl) fun _ => ?_
      exact .seq (externals _) fun _ => calls rfl

theorem rotateSubscriptionToken_stays (replacement : Option String) :
    Stays disconnecting .idle (rotateSubscriptionToken tenantId deploymentId replacement) := by
  refine .seq ownedDeployment_stays fun deployment => .seq .throwIf fun _ => ?_
  refine .seq (ensureActiveDeploymentConnection_stays _ _) fun _ => .seq ownedDeployment_stays fun current => ?_
  refine .seq (externals _) fun _ => .seq (.seq (getConnection_stays _) fun _ => rfl) fun _ => ?_
  refine .seq (externals _) fun _ => .seq (externals _) fun _ => .seq (externals _) fun _ => ?_
  exact quietDisconnect_stays _

theorem retryDeployment_stays (replacement : Option String) :
    Stays disconnecting .idle (retryDeployment tenantId deploymentId replacement) := by
  refine .seq ownedDeployment_stays fun deployment => .seq .throwIf fun _ => ?_
  refine .seq (ensureActiveDeploymentConnection_stays _ _) fun _ => ?_
  exact .seq (startWorkflow_stays _) fun _ => externals _

theorem revokeDeployment_stays (replacement : Option String) :
    Stays disconnecting .idle (revokeDeployment tenantId deploymentId replacement) := by
  refine .seq ownedDeployment_stays fun deployment => ?_
  split
  · rfl
  · refine .seq .throwIf fun _ => .seq (ensureActiveDeploymentConnection_stays _ _) fun _ => ?_
    refine .seq (calls rfl) fun _ => .seq (.catching (startWorkflow_stays _) fun error => ?_) fun _ => externals _
    exact .seq (calls rfl) fun _ => rfl

theorem completeBootstrap_stays (agentTokenHash : String) :
    Stays disconnecting .idle (completeBootstrap deploymentId agentTokenHash) := by
  refine .seq (externals _) fun _ => .seq (externals _) fun _ => .seq (externals _) fun _ => ?_
  exact .seq (calls rfl) fun _ => .seq (startWorkflow_stays _) fun _ => externals _

theorem deleteDeployment_stays : Stays disconnecting .idle (deleteDeployment tenantId deploymentId) := by
  refine .seq ownedDeployment_stays fun deployment => .seq .throwIf fun _ => ?_
  exact .seq (calls rfl) fun _ => externals _

namespace ProvisionWorkflow

theorem loadDeployment_stays : Stays disconnecting .idle (loadDeployment deploymentId) := by
  refine .seq (calls rfl) fun found => ?_
  cases found <;> rfl

/-- A step that reads the connection and calls Cloudflare with it. -/
theorem worked_stays (call : External) : Stays disconnecting .idle (step do
    discard (getConnection connectionId none .work)
    external call) := by
  refine .retrying ?_ 5
  exact .seq (.seq (getConnection_stays none) fun _ => rfl) fun _ => externals call

/-- A step that records a status and tells about it. -/
theorem recorded_stays (status : Status) : Stays disconnecting .idle (step do
    await (.updateStatus deploymentId status)
    external .audit
    external .notify) := by
  refine .retrying ?_ 5
  exact .seq (calls rfl) fun _ => .seq (externals _) fun _ => externals _

theorem prepare_stays (deployment : Row) : Stays disconnecting .idle (prepare deploymentId deployment) := by
  refine .seq (.retrying (calls rfl) 5) fun _ => .seq (worked_stays _) fun _ => ?_
  exact .seq (worked_stays _) fun _ => recorded_stays _

theorem publish_stays : Stays disconnecting .idle (publish deploymentId) := by
  refine .seq loadDeployment_stays fun current => .seq .throwIf fun _ => .seq (externals _) fun _ => ?_
  exact .seq (.seq (getConnection_stays _) fun _ => rfl) fun _ => externals _

theorem finalize_stays (deployment : Row) : Stays disconnecting .idle (finalize instanceId deploymentId deployment) := by
  refine .seq (.retrying (calls rfl) 5) fun _ => .seq (.retrying publish_stays 5) fun _ => ?_
  refine .seq (recorded_stays _) fun _ => .catching (.seq (.retrying (disconnectConnectionIfIdle_stays _) 5) ?_) ?_
  · intro disconnected
    cases disconnected with
    | false => rfl
    | true => exact externals _
  · exact fun _ => .seq (externals _) fun _ => externals _

theorem revoke_stays (deployment : Row) : Stays disconnecting .idle (revoke instanceId deploymentId deployment) := by
  refine .seq (worked_stays _) fun _ => .seq (.retrying ?_ 5) fun _ => ?_
  · exact .seq (calls rfl) fun _ => .seq (externals _) fun _ => .seq (externals _) fun _ => externals _
  · exact .catching (.seq (.retrying (disconnectConnectionIfIdle_stays _) 5) fun _ => rfl) fun _ => externals _

theorem failed_stays {α : Type} (loaded : Option Row) (error : Failure) :
    Stays disconnecting .idle (failed instanceId deploymentId loaded error : Async α) := by
  refine .seq (calls rfl) fun _ => .seq (externals _) fun _ => ?_
  cases loaded with
  | none => rfl
  | some deployment =>
    refine .seq (quietDisconnect_stays _) fun _ => .seq (.catching (externals _) fun _ => rfl) fun _ => ?_
    rfl

theorem instance_stays (action : WorkflowAction) : Stays disconnecting .idle (instance_ instanceId action deploymentId) := by
  refine .seq (.catching ?_ fun _ => rfl) fun _ => calls rfl
  refine .seq (.catching (.retrying loadDeployment_stays 5) fun error => failed_stays none error) fun deployment => ?_
  refine .catching ?_ fun error => failed_stays _ error
  cases action with
  | prepare => exact prepare_stays deployment
  | finalize => exact finalize_stays deployment
  | revoke => exact revoke_stays deployment

end ProvisionWorkflow

end

/-- A task ends outside every disconnect. -/
abbrev Ends : Standing → Except Failure Unit → Prop := fun after _ => after = .idle

/-- A started instance stands in no disconnect. -/
def spawnedStandings (command : Command) (choice : Choice) : List Standing :=
  match command with
  | .createWorkflow _ _ => if choice.delivery = .refused then [] else [.idle]
  | _ => []

theorem host_plays : host.Plays disconnecting Ends (fun _ => .idle) spawnedStandings where
  program operation := by
    cases operation with
    | createTemporaryApiTokenConnection tenantId => exact Stays.seq (externals _) fun _ => calls rfl
    | eraseExpiredApiTokens connectionIds => exact calls rfl
    | disconnectCloudflareConnection tenantId connectionId => exact disconnectCloudflareConnection_stays
    | createDeployment tenantId connectionId => exact createDeployment_stays
    | rotateSubscriptionToken tenantId deploymentId connectionId => exact rotateSubscriptionToken_stays _
    | retryDeployment tenantId deploymentId connectionId => exact retryDeployment_stays _
    | revokeDeployment tenantId deploymentId connectionId => exact revokeDeployment_stays _
    | completeBootstrap deploymentId agentTokenHash => exact completeBootstrap_stays _
    | deleteDeployment tenantId deploymentId => exact deleteDeployment_stays
  spawns command choice := by
    cases command with
    | createWorkflow action deploymentId =>
      simp only [spawnedStandings, host, spawns]
      split
      · exact .nil
      · exact .cons (ProvisionWorkflow.instance_stays action) .nil
    | _ => exact .nil

/-! ## What a call changes -/

section

variable {command : Command} {choice : Choice} {store store' : Store} {reply : Except Failure (Answer command)}
  {connectionId instanceId : String} {caller : Option String}

/-- A call of an impossible choice has no result; any other is refused or takes effect. -/
theorem exec_cases (executed : exec command choice store = some (store', reply)) :
    ¬ drawsUsed choice store command ∧
      (store' = effect choice store command ∧ (choice.delivery ≠ .refused ∨ ∃ ended, command = .endInstance ended) ∧
          (∀ value, reply = .ok value → value = answer choice store command) ∨
        store' = store ∧ ∃ error, reply = .error error) := by
  unfold exec at executed
  split at executed
  · contradiction
  · next possible =>
    refine ⟨possible, ?_⟩
    split at executed
    · obtain ⟨rfl, rfl⟩ := Prod.mk.inj (Option.some.inj executed)
      exact .inl ⟨rfl, .inr ⟨_, rfl⟩, fun value same => (Except.ok.inj same).symm⟩
    · cases delivery : choice.delivery with
      | answered =>
        rw [delivery] at executed
        obtain ⟨rfl, rfl⟩ := Prod.mk.inj (Option.some.inj executed)
        exact .inl ⟨rfl, .inl nofun, fun value same => (Except.ok.inj same).symm⟩
      | lost =>
        rw [delivery] at executed
        obtain ⟨rfl, rfl⟩ := Prod.mk.inj (Option.some.inj executed)
        exact .inl ⟨rfl, .inl nofun, nofun⟩
      | refused =>
        rw [delivery] at executed
        obtain ⟨rfl, rfl⟩ := Prod.mk.inj (Option.some.inj executed)
        exact .inr ⟨rfl, _, rfl⟩

theorem Store.Works.listed (works : store.Works connectionId instanceId) :
    ∃ run, (instanceId, run) ∈ store.instances.entries ∧ run.ended = false := by
  obtain ⟨run, found, standing, -⟩ := works
  exact ⟨run, OrderedMap.mem_entries_iff.mpr found, standing⟩

theorem Store.Clear.is_caller (clear : store.Clear connectionId caller) (works : store.Works connectionId instanceId) :
    some instanceId = caller := by
  obtain ⟨run, member, -⟩ := works.listed
  exact clear _ member works

/-- A count of none says that nothing is at work, where all that is at work shows. -/
theorem Store.Clear.of_count {excluding : Option String} (none : store.active connectionId excluding = 0)
    (shows' : ∀ entry ∈ store.instances.entries, store.Works connectionId entry.1 → some entry.1 ≠ caller →
      store.Shows excluding entry.2) : store.Clear connectionId caller := by
  intro entry listed works
  by_contra other
  obtain ⟨included, busy⟩ := shows' entry listed works other
  obtain ⟨run, found, -, row, bound, same⟩ := works
  obtain rfl : run = entry.2 := Option.some.inj (found.symm.trans (OrderedMap.mem_entries_iff.mp listed))
  have active : row.status ∈ activeStatuses := by
    have tells := busy row bound
    rw [Row.busy] at tells
    cases status : row.status with
    | queued | preparing | awaitingAgent | agentReady | finalizing | revoking => decide
    | ready | failed | revoked => simp [status] at tells
  refine absurd none (Nat.pos_iff_ne_zero.mp (List.countP_pos_iff.mpr ⟨_, OrderedMap.mem_entries_iff.mpr bound, ?_⟩))
  simp [same, included, active]

/-- Erased connections stay erased. -/
theorem erased_kept (erased : store.Erased connectionId) (possible : ¬ drawsUsed choice store command) :
    (effect choice store command).Erased connectionId := by
  obtain ⟨connection, found, revoked⟩ := erased
  have found : store.connections.get? connectionId = some connection := found
  cases command with
  | insertConnection tenantId =>
    refine ⟨connection, ?_, revoked⟩
    simp only [effect, Option.mem_def, OrderedMap.get?_alter]
    split
    · next same => exact absurd (by simp [drawsUsed, ← same, found]) possible
    · exact found
  | eraseExpired connectionIds =>
    simp only [Store.Erased, effect, Option.mem_def, OrderedMap.get?_mapValues, found, Option.map_some,
      Option.some.injEq, exists_eq_left']
    split
    · rfl
    · exact revoked
  | scrub scrubbed by_ =>
    simp only [Store.Erased, effect, Option.mem_def, OrderedMap.get?_modify]
    split
    · next same => exact ⟨_, by rw [← same, found, Option.map_some], rfl⟩
    · exact ⟨connection, found, revoked⟩
  | _ => exact ⟨connection, found, revoked⟩

/-- The connection that a deployment is bound to. -/
def Store.binding (store : Store) (deploymentId : String) : Option String :=
  (store.deployments.get? deploymentId).map (·.oauthConnectionId)

theorem works_iff : store.Works connectionId instanceId ↔ ∃ run, store.instances.get? instanceId = some run ∧
    run.ended = false ∧ store.binding run.deploymentId = some connectionId := by
  refine exists_congr fun run => and_congr_right fun _ => and_congr_right fun _ => ?_
  rw [Store.binding, Option.map_eq_some_iff]
  rfl

/-- A write to the rows of a deployment that keeps its connection keeps all bindings. -/
theorem binding_modify {deploymentId other : String} {f : Row → Row}
    (same : ∀ row, (f row).oauthConnectionId = row.oauthConnectionId) :
    Store.binding { store with deployments := store.deployments.modify deploymentId f } other = store.binding other := by
  simp only [Store.binding, OrderedMap.get?_modify]
  split
  · next equal => simp [equal, Function.comp_def, same]
  · rfl

/-- How a deployment can come to be bound to a connection. -/
theorem binding_cases {deploymentId : String}
    (bound : (effect choice store command).binding deploymentId = some connectionId) :
    store.binding deploymentId = some connectionId ∨
      (∃ tenantId, command = .insertDeployment tenantId connectionId ∧ deploymentId = choice.id) ∨
      ∃ tenantId, command = .rebind deploymentId tenantId connectionId := by
  cases command with
  | insertDeployment tenantId inserted =>
    simp only [Store.binding, effect, OrderedMap.get?_alter] at bound
    split at bound
    · next same =>
      obtain rfl : inserted = connectionId := by simpa using bound
      exact .inr (.inl ⟨tenantId, rfl, same⟩)
    · exact .inl bound
  | rebind rebound tenantId new =>
    simp only [Store.binding, effect, OrderedMap.get?_modify] at bound
    split at bound
    · next same =>
      subst same
      obtain ⟨row', found', rfl⟩ := Option.map_eq_some_iff.mp bound
      obtain ⟨row, found, rfl⟩ := Option.map_eq_some_iff.mp found'
      split
      · exact .inr (.inr ⟨tenantId, rfl⟩)
      · exact .inl (by rw [Store.binding, found, Option.map_some])
    · exact .inl bound
  | deleteDeployment deleted tenantId =>
    obtain ⟨row, found, rfl⟩ := Option.map_eq_some_iff.mp bound
    exact .inl (by rw [Store.binding, (OrderedMap.get?_filter_eq_some_iff.mp found).1, Option.map_some])
  | updateStatus updated status =>
    rw [effect, binding_modify] at bound
    · exact .inl bound
    · exact fun _ => rfl
  | markRevoked updated =>
    rw [effect, binding_modify] at bound
    · exact .inl bound
    · exact fun _ => rfl
  | storeAgent updated agentTokenHash =>
    rw [effect, binding_modify] at bound
    · exact .inl bound
    · exact fun _ => rfl
  | _ => exact .inl bound

/-- An instance that is at work after a call was so before, or the call has created it. -/
theorem instance_cases {run : Instance} (found : (effect choice store command).instances.get? instanceId = some run)
    (standing : run.ended = false) :
    store.instances.get? instanceId = some run ∨
      ∃ action, command = .createWorkflow action run.deploymentId ∧ instanceId = choice.id := by
  cases command with
  | createWorkflow action deploymentId =>
    simp only [effect, OrderedMap.get?_alter] at found
    split at found
    · next same =>
      obtain rfl := Option.some.inj found
      exact .inr ⟨action, rfl, same⟩
    · exact .inl found
  | endInstance ended =>
    simp only [effect, OrderedMap.get?_modify] at found
    split at found
    · obtain ⟨old, -, rfl⟩ := Option.map_eq_some_iff.mp found
      contradiction
    · exact .inl found
  | _ => exact .inl found

/-- An instance comes to be at work for a connection where it is created, or its deployment is bound. -/
theorem works_cases (works : (effect choice store command).Works connectionId instanceId)
    (possible : ¬ drawsUsed choice store command) :
    store.Works connectionId instanceId ∨
      (∃ action deploymentId, command = .createWorkflow action deploymentId ∧
        store.binding deploymentId = some connectionId) ∨
      ∃ run tenantId, (instanceId, run) ∈ store.instances.entries ∧ run.ended = false ∧
        command = .rebind run.deploymentId tenantId connectionId := by
  obtain ⟨run, found, standing, bound⟩ := works_iff.mp works
  rcases instance_cases found standing with old | ⟨action, rfl, rfl⟩
  · have listed := OrderedMap.mem_entries_iff.mpr old
    rcases binding_cases bound with before | ⟨tenantId, rfl, fresh⟩ | ⟨tenantId, rfl⟩
    · exact .inl (works_iff.mpr ⟨run, old, standing, before⟩)
    · exact absurd (.inr ⟨_, listed, fresh⟩) possible
    · exact .inr (.inr ⟨run, tenantId, listed, standing, rfl⟩)
  · exact .inr (.inl ⟨action, run.deploymentId, rfl, bound⟩)

end

/-! ## The invariant -/

/-- Where a disconnect goes on, the connection is clear. -/
def Kept (store : Store) (held : List Standing) : Prop :=
  ∀ connectionId caller, .checked connectionId caller ∈ held → ¬ store.Erased connectionId →
    store.Clear connectionId caller

section

variable {world : World} {held : List Standing} {position : ℕ} {choice : Choice} {command : Command}
  {store : Store} {reply : Except Failure (Answer command)} {standing : Standing}
  {connectionId : String} {caller : Option String}

/-- A task that has counted none stands in the disconnect. -/
theorem Host.Held.disconnects (holds : Host.Held disconnecting Ends held world)
    (member : .checked connectionId caller ∈ held) :
    ∃ other ∈ world.tasks, other.awaits.bind Command.disconnects = some connectionId := by
  obtain ⟨position, atPosition⟩ := List.mem_iff_getElem?.mp member
  obtain ⟨task, command, atTask, awaited, called⟩ := holds.awaiting atPosition nofun
  refine ⟨task, List.mem_of_getElem? atTask, ?_⟩
  rw [awaited, Option.bind_some]
  cases command with
  | selectConnection id tenant use =>
    cases use with
    | work => exact called.elim
    | disconnect => exact congrArg some called
  | scrub id by_ => exact congrArg some called.1
  | _ => exact called.elim

/-- Where a disconnect goes on, it has counted none or has read its connection. -/
theorem checked_next (called : disconnecting.allowed standing command)
    (executed : exec command choice world.store = some (store, reply))
    (new : disconnecting.next standing command reply = .checked connectionId caller) :
    standing = .checked connectionId caller ∧ store = world.store ∨
      ∃ excluding, command = .countActive connectionId excluding caller ∧
        world.store.active connectionId excluding = 0 ∧ store = world.store := by
  have read (changes : effect choice world.store command = world.store) : store = world.store := by
    obtain ⟨-, ⟨rfl, -⟩ | ⟨rfl, -⟩⟩ := exec_cases executed
    · exact changes
    · rfl
  cases standing with
  | idle =>
    cases command with
    | countActive counted excluding by_ =>
      cases reply with
      | error error => contradiction
      | ok active =>
        change (if active = 0 then Standing.checked counted by_ else .idle) = _ at new
        split at new
        · next none =>
          cases new
          obtain ⟨-, ⟨-, -, answered⟩ | ⟨-, error, lost⟩⟩ := exec_cases executed
          · exact .inr ⟨excluding, rfl, (answered active rfl).symm.trans none, read rfl⟩
          · contradiction
        · contradiction
    | _ => contradiction
  | checked checked by_ =>
    cases command with
    | selectConnection selected tenant use =>
      cases reply with
      | error error => contradiction
      | ok found =>
        cases found with
        | none => contradiction
        | some connection =>
          change (if connection.revoked then Standing.idle else .checked checked by_) = _ at new
          split at new
          · contradiction
          · exact .inl ⟨new, read rfl⟩
    | _ => contradiction

/-- While a disconnect goes on, an orderly call puts no other instance to work for its connection. -/
theorem Kept.stays_clear (kept : Kept world.store held) (holds : Host.Held disconnecting Ends held world)
    (orderly : Orderly world (.act position choice)) {task : Async Unit} (atPosition : world.tasks[position]? = some task)
    (awaited : task.awaits = some command) (executed : exec command choice world.store = some (store, reply))
    (member : .checked connectionId caller ∈ held) (standing : ¬ store.Erased connectionId) :
    store.Clear connectionId caller := by
  have orderly := orderly task atPosition command awaited
  obtain ⟨possible, ⟨rfl, effective, -⟩ | ⟨rfl, -⟩⟩ := exec_cases executed
  · have before : ¬ world.store.Erased connectionId := fun erased => standing (erased_kept erased possible)
    obtain ⟨other, listed, disconnects⟩ := Host.Held.disconnects holds member
    intro entry _ works
    rcases works_cases works possible with old | ⟨action, deploymentId, rfl, bound⟩ | ⟨run, tenantId, inTable, running, rfl⟩
    · exact (kept connectionId caller member before).is_caller old
    · have applied : choice.delivery ≠ .refused := by simpa using effective
      obtain ⟨row, found, rfl⟩ := Option.map_eq_some_iff.mp bound
      exact absurd disconnects (orderly applied row found before other listed)
    · have applied : choice.delivery ≠ .refused := by simpa using effective
      exact absurd disconnects (orderly applied _ inTable rfl running before other listed)
  · exact kept connectionId caller member standing

theorem kept_run {events : List Event} {world : World} (run : host.machine.Run Orderly initial events world) :
    ∃ held, Host.Held disconnecting Ends held world ∧ Kept world.store held := by
  refine host_plays.preserves Kept ?_ ?_ run ⟨[], .nil, nofun⟩
  · intro world held operation holds kept _ connectionId caller member
    rcases List.mem_append.mp member with old | new
    · exact kept connectionId caller old
    · exact absurd (List.mem_singleton.mp new) nofun
  · intro world held position choice task command store reply state holds kept orderly atPosition awaited atHeld called
      executed connectionId caller member standing
    rcases Host.mem_set_append member with new | old | spawned
    · rcases checked_next called executed new.symm with ⟨rfl, rfl⟩ | ⟨excluding, rfl, none, rfl⟩
      · exact kept connectionId caller (List.mem_of_getElem? atHeld) standing
      · exact .of_count none (orderly task atPosition _ awaited standing)
    · exact kept.stays_clear holds orderly atPosition awaited executed old standing
    · exfalso
      cases command with
      | createWorkflow action deploymentId =>
        simp only [spawnedStandings] at spawned
        split at spawned
        · contradiction
        · exact absurd (List.mem_singleton.mp spawned) nofun
      | _ => contradiction

end

/-! ## Every disconnect spares the work under way -/

/-- Along a run whose steps are orderly, no disconnect erases a connection that an instance other than
its caller is at work with. -/
theorem work_spared {events : List Event} {world : World} (run : host.machine.Run Orderly initial events world) :
    host.machine.Run (Host.Acting Spared) initial events world := by
  apply run.mono_reached
  intro before reached event after prior _ _
  cases event with
  | start operation => trivial
  | act position choice =>
    intro command next atPosition
    obtain ⟨held, holds, kept⟩ := kept_run prior
    obtain ⟨state, atHeld, called, -⟩ := holds.at atPosition
    cases command with
    | scrub connectionId caller =>
      intro _ connection found standing
      cases state with
      | idle => exact called.elim
      | checked checked by_ =>
        obtain ⟨rfl, rfl⟩ := called
        refine kept _ _ (List.mem_of_getElem? atHeld) ?_
        rintro ⟨other, found', revoked⟩
        cases found.symm.trans found'
        exact absurd revoked (by simp [standing])
    | _ => trivial

namespace Sample

/-- This many answered calls of one task. -/
def answers (position count : ℕ) : List Event := List.replicate count (.act position {})

def connected : List Event :=
  [.start (.createTemporaryApiTokenConnection "tenant"), .act 0 {}, .act 0 { id := "connection" }]

/-- A deployment is created, and a disconnect is refused while it is prepared. Its node completes the bootstrap, and the
finalizing instance disconnects at its end. -/
def finalized : List Event :=
  connected ++ .start (.createDeployment "tenant" "connection") :: answers 1 4 ++
    .act 1 { id := "deployment" } :: .act 1 { id := "preparation" } :: answers 1 2 ++
    .start (.disconnectCloudflareConnection "tenant" "connection") :: .act 3 {} :: answers 2 10 ++
    .start (.completeBootstrap "deployment" "hash") :: answers 4 4 ++ .act 4 { id := "finalization" } ::
    answers 4 2 ++ answers 5 14

/-- The connection is erased. -/
def erased (world : World) : Bool := decide (world.store.Erased "connection")

/-- The disconnect counts none before the deployment is inserted, and its erasure comes next. -/
def overtaken : List Event :=
  connected ++ .start (.createDeployment "tenant" "connection") :: answers 1 4 ++
    .start (.disconnectCloudflareConnection "tenant" "connection") :: answers 2 2 ++
    ([.act 1 { id := "deployment" }, .act 1 { id := "preparation" }] : List Event)

/-- The first instance fails at once, the retry starts another, and a disconnect comes to its erasure. -/
def retried : List Event :=
  connected ++ .start (.createDeployment "tenant" "connection") :: answers 1 4 ++
    .act 1 { id := "deployment" } :: .act 1 { id := "preparation" } :: answers 1 2 ++
    List.replicate 6 (.act 2 { delivery := .refused }) ++ answers 2 3 ++
    .start (.retryDeployment "tenant" "deployment" none) :: answers 3 2 ++ .act 3 { id := "again" } ::
    .start (.disconnectCloudflareConnection "tenant" "connection") :: answers 5 2

/-- The task at the position is about to erase the connection, and the instance is at work with it. -/
def endangers (position : ℕ) (instanceId : String) (world : World) : Bool :=
  world.tasks[position]?.any (·.awaits = some (.scrub "connection" none)) ∧
    (world.store.connections.get? "connection").any (!·.revoked) ∧ world.store.Works "connection" instanceId

theorem not_acting {position : ℕ} {instanceId : String} {world : World}
    (endangered : endangers position instanceId world = true) :
    ¬ Host.Acting Spared world (.act position {} : Event) := by
  obtain ⟨awaiting, standing, works⟩ := of_decide_eq_true endangered
  obtain ⟨task, atPosition, awaited⟩ := (Option.any_eq_true _ _).mp awaiting
  obtain ⟨connection, found, unrevoked⟩ := (Option.any_eq_true _ _).mp standing
  cases task with
  | call command next =>
    obtain rfl := Option.some.inj (of_decide_eq_true awaited)
    intro acting
    have clear := (Host.acting_iff atPosition).mp acting nofun connection found (by simpa using unrevoked)
    exact absurd (clear.is_caller works) nofun
  | done _ => simp at awaited
  | fail _ => simp at awaited

end Sample

theorem work_spared_finalized : ∃ world, host.machine.Run Orderly initial Sample.finalized world ∧
    Sample.erased world = true ∧ host.machine.Run (Host.Acting Spared) initial Sample.finalized world := by
  have evaluated : (host.machine.checked? (fun world event => decide (Orderly world event)) initial
      Sample.finalized).any Sample.erased = true := by
    decide +kernel
  obtain ⟨world, replayed, erased⟩ := (Option.any_eq_true _ _).mp evaluated
  have run := Run.of_checked (fun _ _ => of_decide_eq_true) replayed
  exact ⟨world, run, erased, work_spared run⟩

/-- The next step erases the connection of an instance that has been started after the count, and of one
that a retry has started for a deployment whose status is still `failed`. -/
theorem work_cut_off :
    (∃ world, host.machine.Run Free initial Sample.overtaken world ∧ (host.machine.step? world (.act 2 {})).isSome ∧
      ¬ Host.Acting Spared world (.act 2 {} : Event)) ∧
    ∃ world, host.machine.Run Free initial Sample.retried world ∧ (host.machine.step? world (.act 5 {})).isSome ∧
      ¬ Host.Acting Spared world (.act 5 {} : Event) := by
  have overtaken : (host.machine.replay? initial Sample.overtaken).any (fun world =>
      (host.machine.step? world (.act 2 {})).isSome && Sample.endangers 2 "preparation" world) = true := by
    decide +kernel
  have retried : (host.machine.replay? initial Sample.retried).any (fun world =>
      (host.machine.step? world (.act 5 {})).isSome && Sample.endangers 5 "again" world) = true := by
    decide +kernel
  obtain ⟨world, replayed, checked⟩ := (Option.any_eq_true _ _).mp overtaken
  obtain ⟨world', replayed', checked'⟩ := (Option.any_eq_true _ _).mp retried
  obtain ⟨possible, endangered⟩ := Bool.and_eq_true_iff.mp checked
  obtain ⟨possible', endangered'⟩ := Bool.and_eq_true_iff.mp checked'
  exact ⟨⟨world, Run.free_iff_replay.mpr replayed, possible, Sample.not_acting endangered⟩,
    ⟨world', Run.free_iff_replay.mpr replayed', possible', Sample.not_acting endangered'⟩⟩

end OmniControlPlane.Deployment.Connections
