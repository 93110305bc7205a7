import OmniControlPlane.Deployment.Operations
import OmniControlPlane.Lib.OrderedMap
import OmniControlPlane.Lib.TwoRun
import OmniControlPlane.Portal.Http

/-! # Requests over the tables of all tenants

The handlers that a tenant reaches with the id of a connection or a deployment, each as a program over
the rows of every tenant. What is asked of Cloudflare, of the workflow engine and of the random number
generator is the same function in every run: it depends on what is asked alone.
-/

namespace OmniControlPlane.Portal

open Lib

namespace Tenancy

open Deployment (Status SecretBundle WorkflowAction)

/-- A row of `oauth_connections`. -/
structure ConnectionRow where
  id : String
  tenant_id : String
  auth_type : String
  access_token_enc : String
  expires_at : Option ℕ
  revoked_at : Option ℕ
  resource_account_id : Option String
  resource_account_name : Option String
  resource_zone_id : Option String
  resource_zone_name : Option String
deriving DecidableEq, Repr

/-- A row of `deployments`. -/
structure DeploymentRow where
  id : String
  tenant_id : String
  oauth_connection_id : String
  account_id : String
  zone_id : String
  worker_name : String
  worker_hostname : String
  node_hostname : String
  vps_ipv4 : String
  acme_email : String
  reality_server_name : String
  enable_ufw : Bool
  status : Status
  status_detail : Option String
  workflow_instance_id : Option String
  subscription_token_hash : String
  agent_token_hash : Option String
deriving DecidableEq, Repr

/-- Secrets, decrypted, and bootstrap tokens are kept by the id of their deployment. -/
structure Db where
  oauth_connections : List ConnectionRow := []
  deployments : List DeploymentRow := []
  deployment_secrets : OrderedMap String SecretBundle := .empty
  bootstrap_tokens : OrderedMap String String := .empty

structure Zone where
  name : String
  status : String
  account_id : String
deriving DecidableEq, Repr

/-- The world outside the tables. -/
structure Env where
  now : ℕ
  sha256 : String → String
  toLowerCase : String → String
  deploymentId : String
  subscriptionToken : String
  bootstrapToken : String
  decryptToken : ConnectionRow → Except Thrown String
  zone : String → String → Except Thrown Zone
  uploadWorkerScript : String → DeploymentRow → String → SecretBundle → Except Thrown Unit
  createWorkflow : WorkflowAction → String → Except Thrown String
  audit : String → Except Thrown Unit

/-- Tenants have an id. -/
structure SessionPrincipal where
  tenantId : String
  identified : tenantId ≠ ""

inductive Response where
  | disconnected
  | zones (id name : String)
  | deployment (row : DeploymentRow) (subscriptionToken : Option String)
  | bootstrap (token : String)
  | rotated (subscriptionToken : String)
  | retried (action : WorkflowAction) (workflowInstanceId : String)
  | deleted (id : String)
  | revoked
  | revoking (workflowInstanceId : String)
  | created (id workflowInstanceId bootstrapToken : String)
deriving DecidableEq, Repr

abbrev Handler := Program Thrown Db

/-- `throw new HttpError` -/
def refuse {α : Type} (status : ℕ) (code message : String) : Handler α := throw (.http ⟨status, code, message⟩)

def refuseIf (refused : Prop) [Decidable refused] (status : ℕ) (code message : String) : Handler Unit :=
  if refused then refuse status code message else pure ()

/-- `throw new Error` -/
def failWith {α : Type} (message : String) : Handler α := throw (.other message)

def failIf (failed : Prop) [Decidable failed] (message : String) : Handler Unit :=
  if failed then failWith message else pure ()

/-- A step whose outcome is ignored. -/
def bestEffort {α : Type} (body : Handler α) : Handler Unit :=
  tryCatch (do
    let _ ← body
    return ()) fun _ => pure ()

/-! ## Statements -/

/-- `UPDATE deployments ... WHERE id = ?` -/
def updateDeployment (deploymentId : String) (update : DeploymentRow → DeploymentRow) : Handler Unit :=
  .writes fun db => { db with
    deployments := db.deployments.map fun row => if row.id = deploymentId then update row else row }

/-- The statuses that count as work on a connection. -/
def busyStatuses : List Status := [.queued, .preparing, .awaitingAgent, .agentReady, .finalizing, .revoking]

/-- The deployments that need a connection, of whatever tenant. -/
def Db.active (db : Db) (connectionId excludingDeploymentId : String) : ℕ :=
  db.deployments.countP fun row =>
    row.oauth_connection_id = connectionId ∧ row.id ≠ excludingDeploymentId ∧ row.status ∈ busyStatuses

/-- `SELECT COUNT(*)` of `disconnectCloudflareConnection` -/
def Db.required (db : Db) (connectionId : String) : ℕ :=
  db.deployments.countP fun row => row.oauth_connection_id = connectionId ∧ row.status ∈ busyStatuses

def Db.connection (db : Db) (connectionId : String) (tenantId : String) : Option ConnectionRow :=
  db.oauth_connections.find? fun row =>
    row.id = connectionId ∧ (tenantId = "" ∨ row.tenant_id = tenantId) ∧ row.revoked_at = none

def getConnection (connectionId tenantId : String) : Handler ConnectionRow := do
  match ← .reads (·.connection connectionId tenantId) with
  | some connection => return connection
  | none => refuse 409 "cloudflare_reconnect_required" "Cloudflare connection not found"

def scrubConnection (env : Env) (connectionId : String) : Handler Unit :=
  .writes fun db => { db with
    oauth_connections := db.oauth_connections.map fun row =>
      if row.id = connectionId ∧ row.revoked_at = none then
        { row with access_token_enc := "erased", expires_at := none, revoked_at := some env.now }
      else row }

def revokeConnectionGrant (env : Env) (connection : ConnectionRow) : Handler Unit :=
  if connection.revoked_at.isSome then pure () else scrubConnection env connection.id

def disconnectConnectionIfIdle (env : Env) (connectionId excludingDeploymentId : String) : Handler Bool := do
  if 0 < (← .reads (·.active connectionId excludingDeploymentId)) then return false
  match ← .reads (·.connection connectionId "") with
  | none => return false
  | some connection => do
    revokeConnectionGrant env connection
    return true

def getValidCloudflareAuth (env : Env) (connection : ConnectionRow) : Handler String := do
  failIf connection.revoked_at.isSome "Cloudflare connection is revoked"
  failIf (connection.auth_type ≠ "api_token")
    "OAuth-based Cloudflare connections are no longer supported; reconnect with a scoped API token"
  failIf (connection.expires_at.any (· ≤ env.now)) "Temporary Cloudflare API token expired; reconnect required"
  .lift (env.decryptToken connection)

def assertConnectionResourceBoundary (connection : ConnectionRow) (accountId zoneId : String) : Handler Unit :=
  refuseIf (connection.auth_type = "api_token" ∧
      (connection.resource_account_id ≠ some accountId ∨ connection.resource_zone_id ≠ some zoneId))
    403 "cloudflare_resource_mismatch" "Selected resources are outside this token's stored boundary"

def audit (env : Env) (action : String) : Handler Unit := .lift (env.audit action)

def startWorkflow (env : Env) (action : WorkflowAction) (deploymentId : String) : Handler String := do
  let instanceId ← .lift (env.createWorkflow action deploymentId)
  updateDeployment deploymentId fun row => { row with workflow_instance_id := some instanceId }
  return instanceId

/-! ## Handlers of connections -/

section

variable (env : Env) (principal : SessionPrincipal)

def disconnectCloudflareConnection (connectionId : String) : Handler Response := do
  let active ← .reads (·.required connectionId)
  refuseIf (0 < active) 409 "cloudflare_connection_busy" "Cloudflare access is still required by an active deployment"
  let connection ← getConnection connectionId principal.tenantId
  revokeConnectionGrant env connection
  audit env "cloudflare.connection.disconnect"
  return .disconnected

def listCloudflareZones (connectionId accountId : String) : Handler Response := do
  let connection ← getConnection connectionId principal.tenantId
  refuseIf (connection.auth_type ≠ "api_token") 410 "oauth_connection_unsupported"
    "OAuth-based Cloudflare connections are no longer supported; reconnect with a scoped API token"
  refuseIf (connection.resource_account_id ≠ some accountId) 403 "cloudflare_resource_mismatch"
    "Account is outside this token's stored resource boundary"
  refuseIf (connection.resource_zone_id.getD "" = "" ∨ connection.resource_zone_name.getD "" = "")
    500 "connection_resource_missing" "Cloudflare connection resource binding is unavailable"
  return .zones (connection.resource_zone_id.getD "") (connection.resource_zone_name.getD "")

/-! ## Handlers of deployments -/

def Db.owned (db : Db) (deploymentId tenantId : String) : Option DeploymentRow :=
  db.deployments.find? fun row => row.id = deploymentId ∧ row.tenant_id = tenantId

def ownedDeployment (deploymentId : String) : Handler DeploymentRow := do
  match ← .reads (·.owned deploymentId principal.tenantId) with
  | some deployment => return deployment
  | none => refuse 404 "deployment_not_found" "Deployment not found"

/-- A field of a JSON body. -/
inductive Field where
  | undefined | null | text (value : String) | other
deriving DecidableEq, Repr

structure Body where
  connectionId : Field := .undefined
  oauthConnectionId : Field := .undefined
deriving DecidableEq, Repr

/-- `/^[0-9a-f-]{36}$/u` -/
def isConnectionId (value : String) : Bool :=
  value.length = 36 && value.toList.all fun char => char.isDigit || ('a' ≤ char && char ≤ 'f') || char = '-'

/-- The body is what `readJson` makes of the request; `null` has no fields to be read. -/
def requestedConnectionId (body : Except HttpError (Option Body)) : Except Thrown (Option String) :=
  let invalid := .error (.http ⟨400, "invalid_connection", "Cloudflare connection ID is invalid"⟩)
  match body with
  | .error error => .error (.http error)
  | .ok none => .error (.other "Cannot read properties of null (reading 'connectionId')")
  | .ok (some body) =>
    match if body.connectionId ∈ [.undefined, .null] then body.oauthConnectionId else body.connectionId with
    | .undefined => .ok none
    | .text value =>
      if value = "" then .ok none else if isConnectionId value then .ok (some value) else invalid
    | .null | .other => invalid

/-- The part of `ensureActiveDeploymentConnection` that takes the replacement. -/
def replaceConnection (deployment : DeploymentRow) (replacementConnectionId : String) : Handler Unit := do
  let replacement ← tryCatch (getConnection replacementConnectionId principal.tenantId) fun _ =>
    refuse 400 "invalid_connection" "The selected Cloudflare connection is unavailable"
  assertConnectionResourceBoundary replacement deployment.account_id deployment.zone_id
  let auth ← getValidCloudflareAuth env replacement
  let zone ← .lift (env.zone auth deployment.zone_id)
  refuseIf (zone.status ≠ "active" ∨ zone.account_id ≠ deployment.account_id) 403 "cloudflare_resource_mismatch"
    "The new Cloudflare connection cannot manage this deployment's zone"
  .writes fun db => { db with
    deployments := db.deployments.map fun row =>
      if row.id = deployment.id ∧ row.tenant_id = principal.tenantId then
        { row with oauth_connection_id := replacement.id }
      else row }

def ensureActiveDeploymentConnection (deployment : DeploymentRow) (replacementConnectionId : Option String) :
    Handler Unit := do
  let active ← tryCatch (do
    let _ ← getConnection deployment.oauth_connection_id principal.tenantId
    return true) fun _ => pure false
  if active then return ()
  match replacementConnectionId with
  | none => refuse 409 "cloudflare_reconnect_required" "Reconnect Cloudflare and select the new connection first"
  | some connectionId => replaceConnection env principal deployment connectionId

def getDeployment (deploymentId : String) : Handler Response := do
  let deployment ← ownedDeployment principal deploymentId
  if deployment.status ≠ .ready then return .deployment deployment none
  let secrets ← .reads (·.deployment_secrets.get? deployment.id)
  return .deployment deployment (secrets.map (·.subscriptionToken))

def rotateBootstrapToken (deploymentId : String) : Handler Response := do
  let deployment ← ownedDeployment principal deploymentId
  refuseIf (deployment.status ∉ [.queued, .preparing, .awaitingAgent, .failed]) 409 "invalid_deployment_state"
    "A bootstrap token cannot be issued in this state"
  .writes fun db => { db with
    bootstrap_tokens := db.bootstrap_tokens.alter deployment.id fun _ => env.sha256 env.bootstrapToken }
  audit env "bootstrap.rotate"
  return .bootstrap env.bootstrapToken

/-- `buildReadyBundle` refuses credentials that are not complete. -/
def buildReadyBundle (secrets : SecretBundle) : Except Thrown SecretBundle :=
  let credentials := [secrets.vlessUuid, secrets.realityPublicKey, secrets.realityShortId, secrets.hysteria2Password,
    secrets.hysteria2CertSha256, secrets.hysteria2SpkiSha256]
  if credentials.all Deployment.ProvisionWorkflow.truthy then .ok secrets
  else .error (.other "Agent credentials are incomplete")

def rotateSubscriptionToken (deploymentId : String) (body : Except HttpError (Option Body)) : Handler Response := do
  let deployment ← ownedDeployment principal deploymentId
  refuseIf (deployment.status ≠ .ready ∨ deployment.agent_token_hash.getD "" = "") 409 "invalid_deployment_state"
    "Subscription credentials can only be rotated for a ready deployment"
  ensureActiveDeploymentConnection env principal deployment (← .lift (requestedConnectionId body))
  let current ← ownedDeployment principal deploymentId
  match ← .reads (·.deployment_secrets.get? current.id) with
  | none => failWith "Deployment secret bundle is missing"
  | some secrets => do
    let rotated := { secrets with subscriptionToken := env.subscriptionToken }
    let connection ← getConnection current.oauth_connection_id principal.tenantId
    let auth ← getValidCloudflareAuth env connection
    let bundle ← .lift (buildReadyBundle rotated)
    .lift (env.uploadWorkerScript auth current (env.sha256 env.subscriptionToken) bundle)
    .writes fun db => { db with
      deployment_secrets := db.deployment_secrets.modify current.id fun _ => rotated }
    updateDeployment current.id fun row =>
      { row with subscription_token_hash := env.sha256 env.subscriptionToken }
    audit env "subscription.rotate"
    bestEffort (disconnectConnectionIfIdle env current.oauth_connection_id current.id)
    return .rotated env.subscriptionToken

def retryDeployment (deploymentId : String) (body : Except HttpError (Option Body)) : Handler Response := do
  let deployment ← ownedDeployment principal deploymentId
  refuseIf (deployment.status ∉ [.agentReady, .failed]) 409 "invalid_deployment_state"
    "This deployment is not in a retryable state"
  ensureActiveDeploymentConnection env principal deployment (← .lift (requestedConnectionId body))
  let action := if deployment.agent_token_hash.getD "" = "" then .prepare else .finalize
  let workflowInstanceId ← startWorkflow env action deployment.id
  audit env ("deployment." ++ Deployment.ProvisionWorkflow.actionName action ++ ".retry")
  return .retried action workflowInstanceId

def deleteDeployment (deploymentId : String) : Handler Response := do
  let deployment ← ownedDeployment principal deploymentId
  refuseIf (deployment.status ∉ [.failed, .revoked]) 409 "deployment_not_deletable"
    "Only failed or revoked deployments can be deleted"
  .writes fun db => { db with
    bootstrap_tokens := db.bootstrap_tokens.filter fun id _ => id ≠ deployment.id
    deployment_secrets := db.deployment_secrets.filter fun id _ => id ≠ deployment.id
    deployments := db.deployments.filter fun row => ¬ (row.id = deployment.id ∧ row.tenant_id = principal.tenantId) }
  audit env "deployment.delete"
  return .deleted deployment.id

def revokeDeployment (deploymentId : String) (body : Except HttpError (Option Body)) : Handler Response := do
  let deployment ← ownedDeployment principal deploymentId
  if deployment.status = .revoked then return .revoked
  refuseIf (deployment.status = .revoking) 409 "invalid_deployment_state" "Revocation is already running"
  ensureActiveDeploymentConnection env principal deployment (← .lift (requestedConnectionId body))
  updateDeployment deployment.id fun row => { row with status := .revoking, status_detail := none }
  let workflowInstanceId ← tryCatch (startWorkflow env .revoke deployment.id) fun error => do
    updateDeployment deployment.id fun row =>
      { row with status := deployment.status, status_detail := some "revoke_workflow_start_failed" }
    throw error
  audit env "deployment.revoke.request"
  return .revoking workflowInstanceId

/-! ## Creating a deployment -/

/-- What `validateCreateDeployment` accepts. -/
structure CreateDeploymentInput where
  connectionId : String
  accountId : String
  zoneId : String
  workerName : String
  workerHostname : String
  nodeHostname : String
  vpsIpv4 : String
  acmeEmail : String
  realityServerName : String
  enableUfw : Bool
deriving DecidableEq, Repr

/-- The checks of `createDeployment` before it looks for a conflict. -/
def checkCreate (input : CreateDeploymentInput) : Handler ConnectionRow := do
  let connection ← getConnection input.connectionId principal.tenantId
  assertConnectionResourceBoundary connection input.accountId input.zoneId
  let auth ← getValidCloudflareAuth env connection
  let zone ← .lift (env.zone auth input.zoneId)
  refuseIf (zone.status ≠ "active" ∨ zone.account_id ≠ input.accountId) 400 "zone_mismatch"
    "Zone is not active in the selected account"
  let zoneSuffix := "." ++ env.toLowerCase zone.name
  refuseIf (¬ zoneSuffix.toList <:+ input.workerHostname.toList ∨ ¬ zoneSuffix.toList <:+ input.nodeHostname.toList)
    400 "hostname_zone_mismatch" "Both hostnames must be subdomains of the selected zone"
  refuseIf (input.realityServerName = input.nodeHostname) 400 "invalid_reality_target"
    "Reality handshake target must not point back to this VPS"
  return connection

/-- The deployment, of whatever tenant, that has a name the request asks for. The query asks for one row in no order;
here it is the first of the table. -/
def Db.conflict (db : Db) (input : CreateDeploymentInput) : Option DeploymentRow :=
  db.deployments.find? fun row =>
    (row.account_id = input.accountId ∧ row.worker_name = input.workerName) ∨
      row.worker_hostname = input.workerHostname ∨ row.node_hostname = input.nodeHostname

def statusName : Status → String
  | .queued => "queued"
  | .preparing => "preparing"
  | .awaitingAgent => "awaiting_agent"
  | .agentReady => "agent_ready"
  | .finalizing => "finalizing"
  | .ready => "ready"
  | .revoking => "revoking"
  | .failed => "failed"
  | .revoked => "revoked"

def conflictMessage (status : Status) : String :=
  "Worker name or hostname is already assigned to an existing " ++ statusName status ++ " deployment"

/-- `createDeployment` behind its checks. -/
def insertDeployment (input : CreateDeploymentInput) (connection : ConnectionRow) : Handler Response := do
  .writes fun db => { db with
    deployments := db.deployments ++ [{
      id := env.deploymentId
      tenant_id := principal.tenantId
      oauth_connection_id := connection.id
      account_id := input.accountId
      zone_id := input.zoneId
      worker_name := input.workerName
      worker_hostname := input.workerHostname
      node_hostname := input.nodeHostname
      vps_ipv4 := input.vpsIpv4
      acme_email := input.acmeEmail
      reality_server_name := input.realityServerName
      enable_ufw := input.enableUfw
      status := .queued
      status_detail := none
      workflow_instance_id := none
      subscription_token_hash := env.sha256 env.subscriptionToken
      agent_token_hash := none }]
    deployment_secrets := db.deployment_secrets.alter env.deploymentId fun _ =>
      { subscriptionToken := env.subscriptionToken }
    bootstrap_tokens := db.bootstrap_tokens.alter env.deploymentId fun _ => env.sha256 env.bootstrapToken }
  let workflowInstanceId ← tryCatch (startWorkflow env .prepare env.deploymentId) fun error => do
    updateDeployment env.deploymentId fun row =>
      { row with status := .failed, status_detail := some "workflow_start_failed" }
    bestEffort (disconnectConnectionIfIdle env connection.id env.deploymentId)
    throw error
  audit env "deployment.create"
  return .created env.deploymentId workflowInstanceId env.bootstrapToken

def createDeployment (input : CreateDeploymentInput) : Handler Response := do
  let connection ← checkCreate env principal input
  match ← .reads (·.conflict input) with
  | some conflict => refuse 409 "deployment_resource_conflict" (conflictMessage conflict.status)
  | none => insertDeployment env principal input connection

end

end Tenancy

end OmniControlPlane.Portal
