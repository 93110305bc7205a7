import OmniControlPlane.Lib.Interleaving

/-! # One deployment as D1 and Cloudflare store it

The store holds the rows of one deployment (`deployments`, `deployment_secrets` and its single
`bootstrap_tokens` row) and the script that was last uploaded to its Worker. Columns that no
status or credential depends on are left out, and the secret bundle is kept decrypted. Each D1
statement or batch and each remote call is one command; a command is atomic and may fail before
or after it took effect, so that its answer is lost.

`tokens` remembers what `randomToken` handed out and for what. Thirty-two random bytes are fresh:
their digest is none of the earlier ones.
-/

namespace OmniControlPlane.Deployment

open Lib

/-- The `status` column. -/
inductive Status where
  | queued | preparing | awaitingAgent | agentReady | finalizing | ready | revoking | failed | revoked
deriving DecidableEq, Repr

structure DeploymentRow where
  status : Status
  statusDetail : Option String
  subscriptionTokenHash : String
  agentTokenHash : Option String
deriving DecidableEq, Repr

/-- The decrypted `bundle_enc` column; all but the first field come from the agent. -/
structure SecretBundle where
  subscriptionToken : String
  vlessPort : Option ℕ := none
  vlessUuid : Option String := none
  realityPublicKey : Option String := none
  realityShortId : Option String := none
  hysteria2Password : Option String := none
  hysteria2CertSha256 : Option String := none
  hysteria2SpkiSha256 : Option String := none
  nodeConfigSha256 : Option String := none
deriving DecidableEq, Repr

structure BootstrapToken where
  tokenHash : String
  consumed : Bool
deriving DecidableEq, Repr

/-- A ready bundle is a function of the secrets it was built from, so it is represented by them. -/
inductive DataPlaneBundle where
  | pending
  | ready (secrets : SecretBundle)
deriving DecidableEq, Repr

/-- The secret bindings of an uploaded Worker script. -/
structure WorkerScript where
  subTokenHash : String
  configBundle : DataPlaneBundle
deriving DecidableEq, Repr

/-- The script serves the subscription of a ready deployment. -/
def WorkerScript.servesReady (script : WorkerScript) : Bool :=
  match script.configBundle with
  | .pending => false
  | .ready _ => true

/-- What a random token is drawn for; only a subscription token is shown to the user. -/
inductive Purpose where
  | subscription | replacement | bootstrap
deriving DecidableEq, Repr

structure Store where
  deployment : Option DeploymentRow := none
  secret : Option SecretBundle := none
  bootstrap : Option BootstrapToken := none
  worker : Option WorkerScript := none
  tokens : List (String × Purpose) := []
deriving DecidableEq, Repr

def Store.status (store : Store) : Option Status := store.deployment.map (·.status)

inductive Failure where
  | http (status : ℕ) (code message : String)
  | error (message : String)
  | remote
deriving DecidableEq, Repr

inductive WorkflowAction where
  | prepare | finalize | revoke
deriving DecidableEq, Repr

/-- Awaited calls that neither read nor write the modelled columns. -/
inductive External where
  | validateRequest | audit | notify | cloudflareAuth | configureDns | attachWorkerDomain
  | ensureActiveDeploymentConnection | updateWorkflowInstanceId
deriving DecidableEq, Repr

inductive Command where
  | selectDeployment
  | selectSecret
  | selectBootstrap (tokenHash : String)
  | insertDeployment (row : DeploymentRow) (bundle : SecretBundle) (bootstrapHash : String)
  | updateStatus (status : Status) (detail : Option String)
  | markRevoked (replacementHash : String)
  | deleteBootstrapTokens
  | upsertBootstrapToken (tokenHash : String)
  | consumeBootstrapToken (tokenHash : String)
  | storeAgent (bundle : SecretBundle) (agentHash : String)
  | storeRotation (bundle : SecretBundle) (subscriptionTokenHash : String)
  | deleteDeployment
  | uploadWorkerScript (script : WorkerScript)
  | createWorkflow (action : WorkflowAction)
  | disconnectConnectionIfIdle
  | randomToken (purpose : Purpose)
  | external (call : External)
deriving DecidableEq, Repr

/-- The type of a command's answer. -/
abbrev Answer : Command → Type
  | .selectDeployment => Option DeploymentRow
  | .selectSecret => Option SecretBundle
  | .selectBootstrap _ => Option DeploymentRow
  | .consumeBootstrapToken _ => ℕ
  | .disconnectConnectionIfIdle => Bool
  | .randomToken _ => String
  | _ => Unit

/-- The outside choices of one step. -/
structure Choice where
  delivery : Delivery := .answered
  drawn : String := ""
  disconnected : Bool := true
  expired : Bool := false
deriving DecidableEq, Repr

/-- What the control plane is configured with and computes outside the model. -/
structure Env where
  sha256 : String → String
  deploymentId : String
  singBoxVersion : String

variable (env : Env)

/-- The effect of a command on the store. An `UPDATE` of a missing row changes nothing. -/
def effect (choice : Choice) (store : Store) : Command → Store
  | .insertDeployment row bundle bootstrapHash =>
    { store with deployment := some row, secret := some bundle, bootstrap := some ⟨bootstrapHash, false⟩ }
  | .updateStatus status detail =>
    { store with deployment := store.deployment.map fun row =>
        { row with status := status, statusDetail := detail } }
  | .markRevoked replacementHash =>
    { store with deployment := store.deployment.map fun row =>
        { row with status := .revoked, statusDetail := none,
                   subscriptionTokenHash := replacementHash, agentTokenHash := none } }
  | .deleteBootstrapTokens => { store with bootstrap := none }
  | .upsertBootstrapToken tokenHash => { store with bootstrap := some ⟨tokenHash, false⟩ }
  | .consumeBootstrapToken tokenHash =>
    { store with bootstrap := store.bootstrap.map fun token =>
        if token.tokenHash = tokenHash then { token with consumed := true } else token }
  | .storeAgent bundle agentHash =>
    { store with secret := store.secret.map fun _ => bundle
                 deployment := store.deployment.map fun row =>
        { row with agentTokenHash := some agentHash, status := .agentReady, statusDetail := none } }
  | .storeRotation bundle subscriptionTokenHash =>
    { store with secret := store.secret.map fun _ => bundle
                 deployment := store.deployment.map fun row =>
        { row with subscriptionTokenHash := subscriptionTokenHash } }
  | .deleteDeployment => { store with deployment := none, secret := none, bootstrap := none }
  | .uploadWorkerScript script => { store with worker := some script }
  | .randomToken purpose => { store with tokens := (choice.drawn, purpose) :: store.tokens }
  | _ => store

/-- The bootstrap row that a digest still opens. -/
def Store.openBootstrap (store : Store) (tokenHash : String) : Bool :=
  match store.bootstrap with
  | some token => token.tokenHash == tokenHash && !token.consumed
  | none => false

/-- The answer of a command, read from the store before its effect. -/
def answer (choice : Choice) (store : Store) : (command : Command) → Answer command
  | .selectDeployment => store.deployment
  | .selectSecret => store.secret
  | .selectBootstrap tokenHash =>
    if store.openBootstrap tokenHash && !choice.expired then store.deployment else none
  | .consumeBootstrapToken tokenHash => if store.openBootstrap tokenHash then 1 else 0
  | .disconnectConnectionIfIdle => choice.disconnected
  | .randomToken _ => choice.drawn
  | .insertDeployment .. | .updateStatus .. | .markRevoked _ | .deleteBootstrapTokens
  | .upsertBootstrapToken _ | .storeAgent .. | .storeRotation .. | .deleteDeployment
  | .uploadWorkerScript _ | .createWorkflow _ | .external _ => ()

/-- A drawn token is fresh when no earlier one has its digest. -/
def Store.fresh (store : Store) (token : String) : Prop :=
  ∀ earlier ∈ store.tokens, env.sha256 earlier.1 ≠ env.sha256 token

instance (store : Store) (token : String) : Decidable (store.fresh env token) :=
  inferInstanceAs (Decidable (∀ earlier ∈ store.tokens, _))

/-- Every command but a local one is a remote call. -/
def deliver (command : Command) (choice : Choice) (store : Store) : Store × Except Failure (Answer command) :=
  choice.delivery.deliver .remote store (effect choice store command) (answer choice store command)

/-- Execute one command. `crypto.getRandomValues` is local: it always answers, with a fresh token.
The primary key of `deployments` refuses a second row. -/
def exec (command : Command) (choice : Choice) (store : Store) :
    Option (Store × Except Failure (Answer command)) :=
  match command with
  | .randomToken purpose =>
    if store.fresh env choice.drawn then
      some (effect choice store (.randomToken purpose), .ok choice.drawn)
    else none
  | .insertDeployment row bundle bootstrapHash =>
    if store.deployment.isSome then some (store, .error .remote)
    else some (deliver (.insertDeployment row bundle bootstrapHash) choice store)
  | command => some (deliver command choice store)

/-! ## What one command can do -/

section

variable {env} {command : Command} {choice : Choice} {store after : Store}
  {reply : Except Failure (Answer command)}

private theorem deliver_cases (delivered : deliver command choice store = (after, reply)) :
    (after = store ∧ reply = .error .remote) ∨
    (after = effect choice store command ∧ reply = .error .remote) ∨
    (after = effect choice store command ∧ reply = .ok (answer choice store command)) := by
  unfold deliver Delivery.deliver at delivered
  cases delivery : choice.delivery <;> simp only [delivery, Prod.mk.injEq] at delivered <;>
    simp only [← delivered.1, ← delivered.2, true_and, reduceCtorEq, and_false, or_true, true_or]

/-- A command is refused, takes effect with its answer lost, or takes effect and is answered. -/
theorem exec_cases (executed : exec env command choice store = some (after, reply)) :
    (after = store ∧ reply = .error .remote) ∨
    (after = effect choice store command ∧ reply = .error .remote) ∨
    (after = effect choice store command ∧ reply = .ok (answer choice store command)) := by
  unfold exec at executed
  split at executed
  · split at executed
    · cases executed
      exact .inr (.inr ⟨rfl, rfl⟩)
    · contradiction
  · split at executed
    · cases executed
      exact .inl ⟨rfl, rfl⟩
    · exact deliver_cases (Option.some.inj executed)
  · exact deliver_cases (Option.some.inj executed)

/-- A refused command changes nothing. -/
theorem exec_refused (executed : exec env command choice store = some (after, reply))
    (refused : choice.delivery = .refused) (remote : ∀ purpose, command ≠ .randomToken purpose) :
    after = store := by
  unfold exec at executed
  split at executed
  · exact absurd rfl (remote _)
  · split at executed
    · exact (Prod.ext_iff.mp (Option.some.inj executed)).1.symm
    · simp only [deliver, Delivery.deliver, refused, Option.some.injEq, Prod.mk.injEq] at executed
      exact executed.1.symm
  · simp only [deliver, Delivery.deliver, refused, Option.some.injEq, Prod.mk.injEq] at executed
    exact executed.1.symm

/-- A command that is not refused takes effect; an insertion also needs the row to be absent. -/
theorem exec_taken (executed : exec env command choice store = some (after, reply))
    (taken : choice.delivery ≠ .refused)
    (noInsertion : ∀ row bundle bootstrapHash, command ≠ .insertDeployment row bundle bootstrapHash) :
    after = effect choice store command := by
  unfold exec at executed
  split at executed
  · split at executed
    · cases executed
      rfl
    · contradiction
  · exact absurd rfl (noInsertion _ _ _)
  · unfold deliver Delivery.deliver at executed
    split at executed
    · cases executed
      rfl
    · cases executed
      rfl
    · contradiction

/-- A row is inserted only where there is none. -/
theorem exec_inserts {row : DeploymentRow} {bundle : SecretBundle} {bootstrapHash : String}
    {reply : Except Failure Unit}
    (executed : exec env (.insertDeployment row bundle bootstrapHash) choice store = some (after, reply)) :
    after = store ∨ store.deployment = none := by
  cases present : store.deployment with
  | none => exact .inr rfl
  | some found =>
    simp only [exec, present, Option.isSome_some, if_true, Option.some.injEq, Prod.mk.injEq] at executed
    exact .inl executed.1.symm

/-- An answer is the one read from the store before, and the effect took place. -/
theorem exec_answered {value : Answer command}
    (executed : exec env command choice store = some (after, .ok value)) :
    value = answer choice store command ∧ after = effect choice store command := by
  rcases exec_cases executed with ⟨-, error⟩ | ⟨-, error⟩ | ⟨applied, answered⟩
  · contradiction
  · contradiction
  · exact ⟨Except.ok.inj answered, applied⟩

/-- A command takes effect or leaves the store alone. -/
theorem exec_store (executed : exec env command choice store = some (after, reply)) :
    after = store ∨ after = effect choice store command := by
  rcases exec_cases executed with ⟨same, -⟩ | ⟨applied, -⟩ | ⟨applied, -⟩
  · exact .inl same
  · exact .inr applied
  · exact .inr applied

theorem exec_fresh {purpose : Purpose} {reply : Except Failure String}
    (executed : exec env (.randomToken purpose) choice store = some (after, reply)) :
    store.fresh env choice.drawn := by
  by_contra stale
  simp only [exec, stale, if_false, reduceCtorEq] at executed

end

end OmniControlPlane.Deployment
