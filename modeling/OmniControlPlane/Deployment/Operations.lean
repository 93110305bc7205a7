import OmniControlPlane.Deployment.Store

/-! # The operations on one deployment

`ProvisionWorkflow` and the request handlers, each as the async function it is, one awaited call
after the other. A workflow step starts over after an error, five times at most; the error of the
last attempt ends the run, whose handler records it in the row. Requests are those of the owner:
another tenant's request ends at the ownership test, before anything is written.
-/

namespace OmniControlPlane.Deployment

open Lib

/-- What a finished operation hands back: a workflow's status, or a response. -/
inductive Outcome where
  | workflow (status : Status)
  | response (httpStatus : ℕ) (status : String) (subscriptionToken : Option String)
deriving DecidableEq, Repr

abbrev Async := Task Failure Answer

open Task

/-- Await one command. -/
abbrev await (command : Command) : Async (Answer command) := perform command

def external (call : External) : Async Unit := await (.external call)

def updateStatus (status : Status) (detail : Option String := none) : Async Unit :=
  await (.updateStatus status detail)

def uploadWorkerScript (script : WorkerScript) : Async Unit := await (.uploadWorkerScript script)

def disconnectConnectionIfIdle : Async Bool := await .disconnectConnectionIfIdle

def randomToken (purpose : Purpose) : Async String := await (.randomToken purpose)

/-- `step.do`: the retry limit of `STEP_CONFIG`, which is also the engine's default. -/
def step {α : Type} (body : Async α) : Async α := body.retrying 5

/-! ## ProvisionWorkflow -/

namespace ProvisionWorkflow

def loadDeployment : Async DeploymentRow := do
  match ← await .selectDeployment with
  | some deployment => pure deployment
  | none => throw (.error "Deployment not found")

def prepare (deployment : DeploymentRow) : Async Outcome := do
  step (updateStatus .preparing)
  step do
    external .cloudflareAuth
    external .configureDns
  step do
    external .cloudflareAuth
    uploadWorkerScript ⟨deployment.subscriptionTokenHash, .pending⟩
    external .attachWorkerDomain
  step do
    updateStatus .awaitingAgent
    external .audit
    external .notify
  pure (.workflow .awaitingAgent)

/-- JavaScript truthiness of an optional string. -/
def truthy (value : Option String) : Bool := value.getD "" != ""

/-- `buildReadyBundle`: the agent's credentials must be there. -/
def buildReadyBundle (secrets : SecretBundle) : Async DataPlaneBundle :=
  if truthy secrets.vlessUuid && truthy secrets.realityPublicKey && truthy secrets.realityShortId &&
      truthy secrets.hysteria2Password && truthy secrets.hysteria2CertSha256 &&
      truthy secrets.hysteria2SpkiSha256 then
    pure (.ready secrets)
  else throw (.error "Agent credentials are incomplete")

/-- The step "publish validated protocol profiles". -/
def publish : Async Unit := do
  let current ← loadDeployment
  throwIf (current.agentTokenHash.getD "" = "") (.error "Agent bootstrap has not completed")
  match ← await .selectSecret with
  | none => throw (.error "Deployment secrets not found")
  | some secrets =>
    external .cloudflareAuth
    let bundle ← buildReadyBundle secrets
    uploadWorkerScript ⟨current.subscriptionTokenHash, bundle⟩

def finalize : Async Outcome := do
  step (updateStatus .finalizing)
  step publish
  step do
    updateStatus .ready
    external .audit
    external .notify
  try
    let disconnected ← step disconnectConnectionIfIdle
    if disconnected then external .notify
  catch _ =>
    external .audit
    external .notify
  pure (.workflow .ready)

def revoke (env : Env) : Async Outcome := do
  let replacementHash ← step (do return env.sha256 (← randomToken .replacement))
  step do
    external .cloudflareAuth
    uploadWorkerScript ⟨replacementHash, .pending⟩
  step do
    await (.markRevoked replacementHash)
    await .deleteBootstrapTokens
    external .audit
    external .notify
  try
    discard (step disconnectConnectionIfIdle)
  catch _ =>
    external .audit
  pure (.workflow .revoked)

def actionName : WorkflowAction → String
  | .prepare => "prepare"
  | .finalize => "finalize"
  | .revoke => "revoke"

/-- The handler around a run: record the failure, clean up if a row was loaded, fail. -/
def failed {α : Type} (action : WorkflowAction) (loaded : Bool) (error : Failure) : Async α := do
  updateStatus .failed (some s!"workflow_{actionName action}_failed")
  external .audit
  if loaded then
    try discard disconnectConnectionIfIdle catch _ => pure ()
    try external .notify catch _ => pure ()
  throw error

def run (env : Env) (action : WorkflowAction) : Async Outcome := do
  let deployment ← tryCatch (step loadDeployment) (failed action false)
  tryCatch
    (match action with
      | .prepare => prepare deployment
      | .finalize => finalize
      | .revoke => revoke env)
    (failed action true)

end ProvisionWorkflow

/-! ## Request handlers -/

def startWorkflow (action : WorkflowAction) : Async Unit := do
  await (.createWorkflow action)
  external .updateWorkflowInstanceId

/-- `createDeployment`; its checks before the first write are one external call. -/
def createDeployment (env : Env) : Async Outcome := do
  external .validateRequest
  let subscriptionToken ← randomToken .subscription
  let bootstrapToken ← randomToken .bootstrap
  await (.insertDeployment ⟨.queued, none, env.sha256 subscriptionToken, none⟩
    { subscriptionToken := subscriptionToken } (env.sha256 bootstrapToken))
  tryCatch (startWorkflow .prepare) fun error => do
    updateStatus .failed (some "workflow_start_failed")
    try discard disconnectConnectionIfIdle catch _ => pure ()
    throw error
  external .audit
  pure (.response 202 "queued" none)

def ownedDeployment : Async DeploymentRow := do
  match ← await .selectDeployment with
  | some deployment => pure deployment
  | none => throw (.http 404 "deployment_not_found" "Deployment not found")

def ensureActiveDeploymentConnection : Async Unit := external .ensureActiveDeploymentConnection

def rotateBootstrapToken (env : Env) : Async Outcome := do
  let deployment ← ownedDeployment
  throwIf (deployment.status ∉ [.queued, .preparing, .awaitingAgent, .failed])
    (.http 409 "invalid_deployment_state" "A bootstrap token cannot be issued in this state")
  let rawToken ← randomToken .bootstrap
  await (.upsertBootstrapToken (env.sha256 rawToken))
  external .audit
  pure (.response 200 "bootstrap" none)

/-- The fields of a payload that `assertAgentCompletePayload` accepts. -/
structure AgentCompletePayload where
  deploymentId : String
  agentToken : String
  singBoxVersion : String
  vlessPort : ℕ
  vlessUuid : String
  realityPublicKey : String
  realityShortId : String
  hysteria2Password : String
  hysteria2CertSha256 : String
  hysteria2SpkiSha256 : String
  configSha256 : String
deriving DecidableEq, Repr

def getBootstrapRecord (env : Env) (token : String) : Async DeploymentRow := do
  throwIf (token.length < 43 ∨ 128 < token.length) (.http 401 "invalid_bootstrap_token" "Unauthorized")
  match ← await (.selectBootstrap (env.sha256 token)) with
  | some deployment => pure deployment
  | none => throw (.http 401 "invalid_bootstrap_token" "Unauthorized")

/-- The bundle with the agent's fields replaced by the payload's. -/
def SecretBundle.merge (bundle : SecretBundle) (payload : AgentCompletePayload) : SecretBundle :=
  { bundle with
    vlessPort := some payload.vlessPort
    vlessUuid := some payload.vlessUuid
    realityPublicKey := some payload.realityPublicKey
    realityShortId := some payload.realityShortId
    hysteria2Password := some payload.hysteria2Password
    hysteria2CertSha256 := some payload.hysteria2CertSha256
    hysteria2SpkiSha256 := some payload.hysteria2SpkiSha256
    nodeConfigSha256 := some payload.configSha256 }

def completeBootstrap (env : Env) (token : String) (payload : AgentCompletePayload) : Async Outcome := do
  discard (getBootstrapRecord env token)
  throwIf (payload.deploymentId ≠ env.deploymentId ∨ payload.singBoxVersion ≠ env.singBoxVersion)
    (.http 400 "deployment_mismatch" "Bootstrap payload does not match this deployment")
  match ← await .selectSecret with
  | none => throw (.error "Deployment secret bundle is missing")
  | some bundle =>
    let consumed ← await (.consumeBootstrapToken (env.sha256 token))
    throwIf (consumed ≠ (1 : ℕ)) (.http 409 "bootstrap_used" "Bootstrap token was already consumed")
    await (.storeAgent (bundle.merge payload) (env.sha256 payload.agentToken))
    startWorkflow .finalize
    external .audit
    pure (.response 200 "finalizing" none)

def rotateSubscriptionToken (env : Env) : Async Outcome := do
  let deployment ← ownedDeployment
  throwIf (deployment.status ≠ .ready ∨ deployment.agentTokenHash.getD "" = "")
    (.http 409 "invalid_deployment_state"
      "Subscription credentials can only be rotated for a ready deployment")
  ensureActiveDeploymentConnection
  discard ownedDeployment
  match ← await .selectSecret with
  | none => throw (.error "Deployment secret bundle is missing")
  | some secrets =>
    let subscriptionToken ← randomToken .subscription
    let rotatedSecrets := { secrets with subscriptionToken := subscriptionToken }
    external .cloudflareAuth
    let bundle ← ProvisionWorkflow.buildReadyBundle rotatedSecrets
    uploadWorkerScript ⟨env.sha256 subscriptionToken, bundle⟩
    await (.storeRotation rotatedSecrets (env.sha256 subscriptionToken))
    external .audit
    try discard disconnectConnectionIfIdle catch _ => pure ()
    pure (.response 200 "ok" (some subscriptionToken))

def retryDeployment : Async Outcome := do
  let deployment ← ownedDeployment
  throwIf (deployment.status ∉ [.agentReady, .failed])
    (.http 409 "invalid_deployment_state" "This deployment is not in a retryable state")
  ensureActiveDeploymentConnection
  startWorkflow (if deployment.agentTokenHash.getD "" = "" then .prepare else .finalize)
  external .audit
  pure (.response 202 "ok" none)

def DELETABLE_DEPLOYMENT_STATUSES : List Status := [.failed, .revoked]

def deleteDeployment : Async Outcome := do
  let deployment ← ownedDeployment
  throwIf (deployment.status ∉ DELETABLE_DEPLOYMENT_STATUSES)
    (.http 409 "deployment_not_deletable" "Only failed or revoked deployments can be deleted")
  await .deleteDeployment
  external .audit
  pure (.response 200 "deleted" none)

def revokeDeployment : Async Outcome := do
  let deployment ← ownedDeployment
  if deployment.status = .revoked then pure (.response 200 "revoked" none)
  else
    throwIf (deployment.status = .revoking)
      (.http 409 "invalid_deployment_state" "Revocation is already running")
    ensureActiveDeploymentConnection
    updateStatus .revoking
    tryCatch (startWorkflow .revoke) fun error => do
      updateStatus deployment.status (some "revoke_workflow_start_failed")
      throw error
    external .audit
    pure (.response 202 "revoking" none)

/-! ## The system -/

/-- What may begin at any time on an existing deployment. -/
inductive Operation where
  | rotateBootstrapToken
  | completeBootstrap (token : String) (payload : AgentCompletePayload)
  | rotateSubscriptionToken
  | retryDeployment
  | revokeDeployment
  | deleteDeployment
deriving DecidableEq, Repr

def program (env : Env) : Operation → Async Outcome
  | .rotateBootstrapToken => rotateBootstrapToken env
  | .completeBootstrap token payload => completeBootstrap env token payload
  | .rotateSubscriptionToken => rotateSubscriptionToken env
  | .retryDeployment => retryDeployment
  | .revokeDeployment => revokeDeployment
  | .deleteDeployment => deleteDeployment

/-- Creating a workflow instance starts its run, unless the call was refused. -/
def spawns (env : Env) : Command → Choice → List (Async Outcome)
  | .createWorkflow action, choice =>
    if choice.delivery = .refused then [] else [ProvisionWorkflow.run env action]
  | _, _ => []

def host (env : Env) : Host Failure Answer Outcome Store Choice Operation where
  program := program env
  exec := exec env
  spawns := spawns env

abbrev World := Lib.World Failure Answer Outcome Store

abbrev Event := Lib.Event Operation Choice

/-- A deployment begins with the request that creates it. -/
def initial (env : Env) : World := ⟨{}, [createDeployment env]⟩

/-! ## A sample deployment -/

namespace Sample

def subscriptionToken : String := "pU3KGCUwux1tEyze1iN7LtkeP3IfyxlxF0SU1kk8nVw"
def rotatedToken : String := "zMk19s0fYSJq4VM4rho0AE0zug0kasBMgbG68j47-e4"
def replacementToken : String := "J6Cus_7pIy-K8iEfnuSRxbEL7LVWO_web5NCfsvI_ik"
def bootstrapToken : String := "NGC-MSAeaf7aoO7ouZl_XHwpmf2v5ZMlPNZUr0361xQ"
def agentToken : String := "VeXNjkbcjtS3wnZNKlpNdncG-F2GkAJK1r2jQBvpyMs"

/-- The SHA-256 digests of the sample tokens, in base64url. -/
def sha256 (token : String) : String :=
  if token = subscriptionToken then "KAmc_6NpP_JP8OccALEAFZLf5jJwlZWk4h6L9RNPOJk"
  else if token = rotatedToken then "AATbTIaHQazWeGb92NL4w5_FhvpOHABilrRKmC22OIE"
  else if token = replacementToken then "upQygUxNJWJvhH1e7Owkm2b9AsEN_9OjnQ9bWUmQkcg"
  else if token = bootstrapToken then "-v91snMCsXioUhAknUQ93uqKvI1yX70ax9AXW8VZS0M"
  else "jOOJSnS1eq2LXcAPHuSOL_H-V8BR7pe3z7PHk0UkU_g"

def env : Env where
  sha256 := sha256
  deploymentId := "5f1c2f8e-3d4b-4c6a-9e0f-7a8b9c0d1e2f"
  singBoxVersion := "1.14.0"

def payload : AgentCompletePayload where
  deploymentId := env.deploymentId
  agentToken := agentToken
  singBoxVersion := env.singBoxVersion
  vlessPort := 443
  vlessUuid := "0b6f2c1e-8a4d-4f7b-9c3e-2d1a0f9b8c7d"
  realityPublicKey := "Zr3nq0bT5xw1kCYvS8mJ2uHdLe7gPfA9oRiXtQ4BN6E"
  realityShortId := "0123456789abcdef"
  hysteria2Password := "q7Vd2nXk9TzLw4RbYc6HfJm8PsGa1Ue3"
  hysteria2CertSha256 := "9f86d081884c7d659a2feaa0c55ad015a3bf4f1b2b0b822cd15d6c15b0f00a08"
  hysteria2SpkiSha256 := "n4bQgYhMfWWaL+qgxVrQFaO/TxsrC4Is0V1sFbDwCgg="
  configSha256 := "2c26b46b68ffc68ff99b453c1d30413413422d706483bfa0f98a5e886266e7ae"

/-- A task receives that many plain answers. -/
def answers (position count : ℕ) : List Event := List.replicate count (.act position {})

/-- The request creates the deployment, task 0, and its prepare run, task 1, succeeds. -/
def prepared : List Event :=
  .act 0 {} :: .act 0 { drawn := subscriptionToken } :: .act 0 { drawn := bootstrapToken } ::
    answers 0 4 ++ answers 1 10

/-- The agent reports, task 2, which starts the finalize run, task 3. -/
def bootstrapped : List Event :=
  prepared ++ .start (.completeBootstrap bootstrapToken payload) :: answers 2 7

end Sample

end OmniControlPlane.Deployment
