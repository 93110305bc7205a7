import OmniControlPlane.Deployment.Store
import OmniControlPlane.Lib.OrderedMap
import OmniControlPlane.Lib.Typestate

/-! # Cloudflare connections and the deployments bound to them

Many deployments share the connections of their tenants. What the requests and the workflow instances
do to a connection, to the binding and the status of a deployment, and to the engine's table of
instances is modelled statement by statement; secrets, scripts and tokens are left out here.

A disconnect counts the deployments at work, reads the connection and erases it, in three statements.
-/

namespace OmniControlPlane.Deployment.Connections

open Lib Task

/-! ## The tables -/

/-- A row of `deployments`. -/
structure Row where
  tenantId : String
  oauthConnectionId : String
  status : Status
  agentTokenHash : Option String := none
deriving DecidableEq, Repr

/-- A row of `oauth_connections`; `revoked` stands for `revoked_at IS NOT NULL`. -/
structure Connection where
  tenantId : String
  revoked : Bool := false
deriving DecidableEq, Repr

/-- A workflow instance, as the engine records it. -/
structure Instance where
  deploymentId : String
  ended : Bool := false
deriving DecidableEq, Repr

structure Store where
  deployments : OrderedMap String Row := .empty
  connections : OrderedMap String Connection := .empty
  instances : OrderedMap String Instance := .empty

/-- The statuses with work under way, in both `COUNT` queries. -/
def activeStatuses : List Status := [.queued, .preparing, .awaitingAgent, .agentReady, .finalizing, .revoking]

/-- `SELECT COUNT(*) FROM deployments WHERE oauth_connection_id = ? AND id != ? AND status IN (…)` -/
def Store.active (store : Store) (connectionId : String) (excluding : Option String) : ℕ :=
  store.deployments.entries.countP fun entry =>
    entry.2.oauthConnectionId = connectionId && some entry.1 ≠ excluding && entry.2.status ∈ activeStatuses

/-- An instance that is at work for a deployment bound to the connection. -/
def Store.Works (store : Store) (connectionId instanceId : String) : Prop :=
  ∃ run ∈ store.instances.get? instanceId, run.ended = false ∧
    ∃ row ∈ store.deployments.get? run.deploymentId, row.oauthConnectionId = connectionId

/-! ## The calls -/

/-- Why a connection is read; no part of the query. -/
inductive Use where
  | work | disconnect
deriving DecidableEq, Repr

/-- Awaited calls that no column of the model depends on. -/
inductive External where
  | validateRequest | selectConflict | cloudflare | uploadWorkerScript | selectSecret | storeRotation
  | selectBootstrap | consumeBootstrapToken | deleteBootstrapTokens | updateWorkflowInstanceId | audit | notify
deriving DecidableEq, Repr

/-- The calls. A disconnect carries the instance that makes it, if one does; no statement has it. -/
inductive Command where
  | insertConnection (tenantId : String)
  | eraseExpired (connectionIds : List String)
  | selectConnection (connectionId : String) (tenantId : Option String) (use : Use)
  | countActive (connectionId : String) (excluding caller : Option String)
  | scrub (connectionId : String) (caller : Option String)
  | selectDeployment (deploymentId : String) (tenantId : Option String)
  | insertDeployment (tenantId connectionId : String)
  | updateStatus (deploymentId : String) (status : Status)
  | markRevoked (deploymentId : String)
  | storeAgent (deploymentId agentTokenHash : String)
  | rebind (deploymentId tenantId connectionId : String)
  | deleteDeployment (deploymentId tenantId : String)
  | createWorkflow (action : WorkflowAction) (deploymentId : String)
  | endInstance (instanceId : String)
  | external (call : External)
deriving DecidableEq, Repr

abbrev Answer : Command → Type
  | .selectConnection .. => Option Connection
  | .countActive .. => ℕ
  | .selectDeployment .. => Option Row
  | .insertDeployment .. => String
  | _ => Unit

/-- The outside choices of one step: the delivery, and the id drawn. -/
structure Choice where
  delivery : Delivery := .answered
  id : String := ""
deriving DecidableEq, Repr

def effect (choice : Choice) (store : Store) : Command → Store
  | .insertConnection tenantId =>
    { store with connections := store.connections.alter choice.id fun _ => { tenantId := tenantId } }
  | .eraseExpired connectionIds =>
    { store with connections := store.connections.mapValues fun id connection =>
        if id ∈ connectionIds then { connection with revoked := true } else connection }
  | .scrub connectionId _ =>
    { store with connections := store.connections.modify connectionId fun connection =>
        { connection with revoked := true } }
  | .insertDeployment tenantId connectionId =>
    { store with deployments := store.deployments.alter choice.id fun _ =>
        { tenantId := tenantId, oauthConnectionId := connectionId, status := .queued } }
  | .updateStatus deploymentId status =>
    { store with deployments := store.deployments.modify deploymentId fun row => { row with status := status } }
  | .markRevoked deploymentId =>
    { store with deployments := store.deployments.modify deploymentId fun row =>
        { row with status := .revoked, agentTokenHash := none } }
  | .storeAgent deploymentId agentTokenHash =>
    { store with deployments := store.deployments.modify deploymentId fun row =>
        { row with status := .agentReady, agentTokenHash := some agentTokenHash } }
  | .rebind deploymentId tenantId connectionId =>
    { store with deployments := store.deployments.modify deploymentId fun row =>
        if row.tenantId = tenantId then { row with oauthConnectionId := connectionId } else row }
  | .deleteDeployment deploymentId tenantId =>
    { store with deployments := store.deployments.filter fun id row => !(id = deploymentId && row.tenantId = tenantId) }
  | .createWorkflow _ deploymentId =>
    { store with instances := store.instances.alter choice.id fun _ => { deploymentId := deploymentId } }
  | .endInstance instanceId =>
    { store with instances := store.instances.modify instanceId fun run => { run with ended := true } }
  | _ => store

def answer (choice : Choice) (store : Store) : (command : Command) → Answer command
  | .selectConnection connectionId tenantId _ => (store.connections.get? connectionId).filter fun connection =>
      !connection.revoked && tenantId.all (connection.tenantId = ·)
  | .countActive connectionId excluding _ => store.active connectionId excluding
  | .selectDeployment deploymentId tenantId =>
    (store.deployments.get? deploymentId).filter fun row => tenantId.all (row.tenantId = ·)
  | .insertDeployment .. => choice.id
  | .insertConnection _ | .eraseExpired _ | .scrub .. | .updateStatus .. | .markRevoked _ | .storeAgent ..
  | .rebind .. | .deleteDeployment .. | .createWorkflow .. | .endInstance _ | .external _ => ()

/-- A drawn id is a new one, to the instances as well. -/
def drawsUsed (choice : Choice) (store : Store) : Command → Prop
  | .insertConnection _ => (store.connections.get? choice.id).isSome
  | .insertDeployment .. => (store.deployments.get? choice.id).isSome ∨
      ∃ entry ∈ store.instances.entries, entry.2.deploymentId = choice.id
  | .createWorkflow .. => (store.instances.get? choice.id).isSome
  | _ => False

instance (choice : Choice) (store : Store) (command : Command) : Decidable (drawsUsed choice store command) := by
  cases command <;> unfold drawsUsed <;> infer_instance

/-- The engine's own record of an end is local; every other call is remote. -/
def exec (command : Command) (choice : Choice) (store : Store) : Option (Store × Except Failure (Answer command)) :=
  if drawsUsed choice store command then none
  else match command with
    | .endInstance instanceId => some (effect choice store (.endInstance instanceId), .ok ())
    | command => some (choice.delivery.deliver .remote store (effect choice store command) (answer choice store command))

/-! ## The programs -/

abbrev Async := Task Failure Answer

/-- Await one command. -/
abbrev await (command : Command) : Async (Answer command) := perform command

def external (call : External) : Async Unit := await (.external call)

/-- `step.do` -/
def step {α : Type} (body : Async α) : Async α := body.retrying 5

def getConnection (connectionId : String) (tenantId : Option String) (use : Use) : Async Connection := do
  match ← await (.selectConnection connectionId tenantId use) with
  | some connection => pure connection
  | none => throw (.http 409 "cloudflare_reconnect_required" "Cloudflare connection not found")

def revokeConnectionGrant (connectionId : String) (connection : Connection) (caller : Option String) : Async Unit :=
  if connection.revoked then pure () else await (.scrub connectionId caller)

def disconnectConnectionIfIdle (connectionId excludingDeploymentId : String) (caller : Option String) : Async Bool := do
  let active ← await (.countActive connectionId (some excludingDeploymentId) caller)
  if 0 < active then return false
  match ← await (.selectConnection connectionId none .disconnect) with
  | none => return false
  | some connection => do
    revokeConnectionGrant connectionId connection caller
    return true

def disconnectCloudflareConnection (tenantId connectionId : String) : Async Unit := do
  let active ← await (.countActive connectionId none none)
  throwIf (0 < active) (.http 409 "cloudflare_connection_busy" "Cloudflare access is still required by an active deployment")
  let connection ← getConnection connectionId (some tenantId) .disconnect
  revokeConnectionGrant connectionId connection none
  external .audit

/-- A connection by API token; its checks before the write are one external call. -/
def createTemporaryApiTokenConnection (tenantId : String) : Async Unit := do
  external .validateRequest
  await (.insertConnection tenantId)

def startWorkflow (action : WorkflowAction) (deploymentId : String) : Async Unit := do
  await (.createWorkflow action deploymentId)
  external .updateWorkflowInstanceId

def createDeployment (tenantId connectionId : String) : Async Unit := do
  external .validateRequest
  discard (getConnection connectionId (some tenantId) .work)
  external .cloudflare
  external .selectConflict
  let deploymentId ← await (.insertDeployment tenantId connectionId)
  tryCatch (startWorkflow .prepare deploymentId) fun error => do
    await (.updateStatus deploymentId .failed)
    tryCatch (discard (disconnectConnectionIfIdle connectionId deploymentId none)) fun _ => pure ()
    throw error
  external .audit

def ownedDeployment (tenantId deploymentId : String) : Async Row := do
  match ← await (.selectDeployment deploymentId (some tenantId)) with
  | some deployment => pure deployment
  | none => throw (.http 404 "deployment_not_found" "Deployment not found")

def ensureActiveDeploymentConnection (tenantId deploymentId : String) (deployment : Row)
    (replacementConnectionId : Option String) : Async Unit := do
  let standing ← tryCatch (do
      discard (getConnection deployment.oauthConnectionId (some tenantId) .work)
      pure true)
    fun _ => pure false
  if standing then pure ()
  else match replacementConnectionId with
    | none => throw (.http 409 "cloudflare_reconnect_required" "Reconnect Cloudflare and select the new connection first")
    | some replacementId => do
      tryCatch (discard (getConnection replacementId (some tenantId) .work)) fun _ =>
        throw (.http 400 "invalid_connection" "The selected Cloudflare connection is unavailable")
      external .cloudflare
      await (.rebind deploymentId tenantId replacementId)

def rotateSubscriptionToken (tenantId deploymentId : String) (connectionId : Option String) : Async Unit := do
  let deployment ← ownedDeployment tenantId deploymentId
  throwIf (deployment.status ≠ .ready ∨ deployment.agentTokenHash.getD "" = "")
    (.http 409 "invalid_deployment_state" "Subscription credentials can only be rotated for a ready deployment")
  ensureActiveDeploymentConnection tenantId deploymentId deployment connectionId
  let current ← ownedDeployment tenantId deploymentId
  external .selectSecret
  discard (getConnection current.oauthConnectionId (some tenantId) .work)
  external .uploadWorkerScript
  external .storeRotation
  external .audit
  tryCatch (discard (disconnectConnectionIfIdle current.oauthConnectionId deploymentId none)) fun _ => pure ()

def retryDeployment (tenantId deploymentId : String) (connectionId : Option String) : Async Unit := do
  let deployment ← ownedDeployment tenantId deploymentId
  throwIf (deployment.status ∉ [.agentReady, .failed])
    (.http 409 "invalid_deployment_state" "This deployment is not in a retryable state")
  ensureActiveDeploymentConnection tenantId deploymentId deployment connectionId
  startWorkflow (if deployment.agentTokenHash.getD "" = "" then .prepare else .finalize) deploymentId
  external .audit

def revokeDeployment (tenantId deploymentId : String) (connectionId : Option String) : Async Unit := do
  let deployment ← ownedDeployment tenantId deploymentId
  if deployment.status = .revoked then pure ()
  else do
    throwIf (deployment.status = .revoking)
      (.http 409 "invalid_deployment_state" "Revocation is already running")
    ensureActiveDeploymentConnection tenantId deploymentId deployment connectionId
    await (.updateStatus deploymentId .revoking)
    tryCatch (startWorkflow .revoke deploymentId) fun error => do
      await (.updateStatus deploymentId deployment.status)
      throw error
    external .audit

/-- `completeBootstrap`, from the record of the token on. -/
def completeBootstrap (deploymentId agentTokenHash : String) : Async Unit := do
  external .selectBootstrap
  external .selectSecret
  external .consumeBootstrapToken
  await (.storeAgent deploymentId agentTokenHash)
  startWorkflow .finalize deploymentId
  external .audit

def deleteDeployment (tenantId deploymentId : String) : Async Unit := do
  let deployment ← ownedDeployment tenantId deploymentId
  throwIf (deployment.status ∉ [.failed, .revoked])
    (.http 409 "deployment_not_deletable" "Only failed or revoked deployments can be deleted")
  await (.deleteDeployment deploymentId tenantId)
  external .audit

namespace ProvisionWorkflow

def loadDeployment (deploymentId : String) : Async Row := do
  match ← await (.selectDeployment deploymentId none) with
  | some deployment => pure deployment
  | none => throw (.error "Deployment not found")

def prepare (deploymentId : String) (deployment : Row) : Async Unit := do
  step (await (.updateStatus deploymentId .preparing))
  step do
    discard (getConnection deployment.oauthConnectionId none .work)
    external .cloudflare
  step do
    discard (getConnection deployment.oauthConnectionId none .work)
    external .uploadWorkerScript
  step do
    await (.updateStatus deploymentId .awaitingAgent)
    external .audit
    external .notify

/-- The step "publish validated protocol profiles". -/
def publish (deploymentId : String) : Async Unit := do
  let current ← loadDeployment deploymentId
  throwIf (current.agentTokenHash.getD "" = "") (.error "Agent bootstrap has not completed")
  external .selectSecret
  discard (getConnection current.oauthConnectionId none .work)
  external .uploadWorkerScript

def finalize (instanceId deploymentId : String) (deployment : Row) : Async Unit := do
  step (await (.updateStatus deploymentId .finalizing))
  step (publish deploymentId)
  step do
    await (.updateStatus deploymentId .ready)
    external .audit
    external .notify
  tryCatch (do
      let disconnected ← step (disconnectConnectionIfIdle deployment.oauthConnectionId deploymentId (some instanceId))
      if disconnected then external .notify)
    fun _ => do
      external .audit
      external .notify

def revoke (instanceId deploymentId : String) (deployment : Row) : Async Unit := do
  step do
    discard (getConnection deployment.oauthConnectionId none .work)
    external .uploadWorkerScript
  step do
    await (.markRevoked deploymentId)
    external .deleteBootstrapTokens
    external .audit
    external .notify
  tryCatch (discard (step (disconnectConnectionIfIdle deployment.oauthConnectionId deploymentId (some instanceId))))
    fun _ => external .audit

/-- The handler around a run: record the failure, clean up if a row was loaded, fail. -/
def failed {α : Type} (instanceId deploymentId : String) (loaded : Option Row) (error : Failure) : Async α := do
  await (.updateStatus deploymentId .failed)
  external .audit
  match loaded with
  | none => throw error
  | some deployment => do
    tryCatch (discard (disconnectConnectionIfIdle deployment.oauthConnectionId deploymentId (some instanceId)))
      fun _ => pure ()
    tryCatch (external .notify) fun _ => pure ()
    throw error

def run (instanceId : String) (action : WorkflowAction) (deploymentId : String) : Async Unit := do
  let deployment ← tryCatch (step (loadDeployment deploymentId)) (failed instanceId deploymentId none)
  tryCatch
    (match action with
      | .prepare => prepare deploymentId deployment
      | .finalize => finalize instanceId deploymentId deployment
      | .revoke => revoke instanceId deploymentId deployment)
    (failed instanceId deploymentId (some deployment))

/-- The engine records the end of a run, whichever it is. -/
def instance_ (instanceId : String) (action : WorkflowAction) (deploymentId : String) : Async Unit := do
  tryCatch (run instanceId action deploymentId) fun _ => pure ()
  await (.endInstance instanceId)

end ProvisionWorkflow

/-! ## The system -/

inductive Operation where
  | createTemporaryApiTokenConnection (tenantId : String)
  | eraseExpiredApiTokens (connectionIds : List String)
  | disconnectCloudflareConnection (tenantId connectionId : String)
  | createDeployment (tenantId connectionId : String)
  | rotateSubscriptionToken (tenantId deploymentId : String) (connectionId : Option String)
  | retryDeployment (tenantId deploymentId : String) (connectionId : Option String)
  | revokeDeployment (tenantId deploymentId : String) (connectionId : Option String)
  | completeBootstrap (deploymentId agentTokenHash : String)
  | deleteDeployment (tenantId deploymentId : String)
deriving DecidableEq, Repr

def program : Operation → Async Unit
  | .createTemporaryApiTokenConnection tenantId => createTemporaryApiTokenConnection tenantId
  | .eraseExpiredApiTokens connectionIds => await (.eraseExpired connectionIds)
  | .disconnectCloudflareConnection tenantId connectionId => disconnectCloudflareConnection tenantId connectionId
  | .createDeployment tenantId connectionId => createDeployment tenantId connectionId
  | .rotateSubscriptionToken tenantId deploymentId connectionId =>
    rotateSubscriptionToken tenantId deploymentId connectionId
  | .retryDeployment tenantId deploymentId connectionId => retryDeployment tenantId deploymentId connectionId
  | .revokeDeployment tenantId deploymentId connectionId => revokeDeployment tenantId deploymentId connectionId
  | .completeBootstrap deploymentId agentTokenHash => completeBootstrap deploymentId agentTokenHash
  | .deleteDeployment tenantId deploymentId => deleteDeployment tenantId deploymentId

/-- Creating a workflow instance starts its run, unless the call was refused. -/
def spawns (command : Command) (choice : Choice) : List (Async Unit) :=
  match command with
  | .createWorkflow action deploymentId =>
    if choice.delivery = .refused then [] else [ProvisionWorkflow.instance_ choice.id action deploymentId]
  | _ => []

def host : Host Failure Answer Unit Store Choice Operation where
  program := program
  exec := exec
  spawns := spawns

abbrev World := Lib.World Failure Answer Unit Store

abbrev Event := Lib.Event Operation Choice

def initial : World := ⟨{}, []⟩

end OmniControlPlane.Deployment.Connections
