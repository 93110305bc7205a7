import OmniControlPlane.Deployment.Operations
import OmniControlPlane.Lib.Typestate

/-! # Who may issue which command

A task belongs to one party: the request that creates the deployment, a workflow run, or a later
request. `Issues` is the table of the commands that a party ever issues, whatever is answered,
and `code_issues` says that the programs keep to it. `course` is the protocol of a revocation:
which call comes after which answer. Every invariant over interleavings reads the table and the
protocol instead of the programs.
-/

namespace OmniControlPlane.Deployment

open Lib Task

/-- The origin of a task. -/
inductive Party where
  | creation
  | workflow (action : WorkflowAction)
  | request (operation : Operation)

variable (env : Env)

def code : Party → Async Outcome
  | .creation => createDeployment env
  | .workflow action => ProvisionWorkflow.run env action
  | .request operation => program env operation

/-- The statuses that a party writes on their own. -/
def Party.writes : Party → Status → Prop
  | .creation, status => status = .failed
  | .workflow .prepare, status => status = .preparing ∨ status = .awaitingAgent ∨ status = .failed
  | .workflow .finalize, status => status = .finalizing ∨ status = .ready ∨ status = .failed
  | .workflow .revoke, status => status = .failed
  | .request .revokeDeployment, status => status ≠ .revoked
  | .request _, _ => False

/-- `revoked` is written by `markRevoked` alone. -/
theorem Party.writes_ne_revoked {party : Party} {status : Status} (written : party.writes status) :
    status ≠ .revoked := by
  rintro rfl
  cases party with
  | creation => cases written
  | workflow action => cases action <;> simp [Party.writes] at written
  | request operation => cases operation <;> simp [Party.writes] at written

/-- The workflow that a party creates. -/
def Party.starts : Party → WorkflowAction → Prop
  | .creation, action => action = .prepare
  | .request (.completeBootstrap ..), action => action = .finalize
  | .request .retryDeployment, action => action = .prepare ∨ action = .finalize
  | .request .revokeDeployment, action => action = .revoke
  | _, _ => False

/-- The scripts that a party uploads. -/
def Party.uploads : Party → WorkerScript → Prop
  | .workflow .prepare, script => script.configBundle = .pending
  | .workflow .finalize, script => script.servesReady
  | .workflow .revoke, script => script.configBundle = .pending
  | .request .rotateSubscriptionToken, script => script.servesReady
  | _, _ => False

/-- The commands that a party may issue. -/
def Issues (party : Party) : Command → Prop
  | .selectDeployment | .selectSecret | .selectBootstrap _ | .randomToken _ | .external _
  | .disconnectConnectionIfIdle => True
  | .insertDeployment row bundle _ => party = .creation ∧ row.status = .queued ∧
      row.subscriptionTokenHash = env.sha256 bundle.subscriptionToken
  | .updateStatus status _ => party.writes status
  | .markRevoked _ | .deleteBootstrapTokens => party = .workflow .revoke
  | .upsertBootstrapToken _ => party = .request .rotateBootstrapToken
  | .consumeBootstrapToken _ | .storeAgent .. =>
      ∃ token payload, party = .request (.completeBootstrap token payload)
  | .storeRotation bundle tokenHash => party = .request .rotateSubscriptionToken ∧
      tokenHash = env.sha256 bundle.subscriptionToken
  | .deleteDeployment => party = .request .deleteDeployment
  | .uploadWorkerScript script => party.uploads script
  | .createWorkflow action => party.starts action

/-! ## The helpers -/

section

variable {rely : (command : Command) → Except Failure (Answer command) → Prop}
  {guarantee : Command → Prop} {α : Type} {body : Async α}

theorem await_calls {command : Command} (called : guarantee command) :
    (await command).Obeys rely guarantee AnyOutcome :=
  .performing called

theorem external_calls {call : External} (called : guarantee (.external call)) :
    (external call).Obeys rely guarantee AnyOutcome :=
  .performing called

theorem updateStatus_calls {status : Status} {detail : Option String}
    (called : guarantee (.updateStatus status detail)) :
    (updateStatus status detail).Obeys rely guarantee AnyOutcome :=
  .performing called

theorem uploadWorkerScript_calls {script : WorkerScript}
    (called : guarantee (.uploadWorkerScript script)) :
    (uploadWorkerScript script).Obeys rely guarantee AnyOutcome :=
  .performing called

theorem disconnectConnectionIfIdle_calls (called : guarantee .disconnectConnectionIfIdle) :
    disconnectConnectionIfIdle.Obeys rely guarantee AnyOutcome :=
  .performing called

theorem randomToken_calls {purpose : Purpose} (called : guarantee (.randomToken purpose)) :
    (randomToken purpose).Obeys rely guarantee AnyOutcome :=
  .performing called

theorem step_calls (called : body.Obeys rely guarantee AnyOutcome) :
    (step body).Obeys rely guarantee AnyOutcome :=
  called.retrying 5

theorem discard_calls (called : body.Obeys rely guarantee AnyOutcome) :
    (discard body : Async Unit).Obeys rely guarantee AnyOutcome :=
  .seq called fun _ => trivial

theorem startWorkflow_calls {action : WorkflowAction} (created : guarantee (.createWorkflow action))
    (recorded : guarantee (.external .updateWorkflowInstanceId)) :
    (startWorkflow action).Obeys rely guarantee AnyOutcome :=
  .seq (await_calls created) fun _ => external_calls recorded

theorem ownedDeployment_calls (selected : guarantee .selectDeployment) :
    ownedDeployment.Obeys rely guarantee AnyOutcome := by
  refine .seq (await_calls selected) fun row => ?_
  cases row <;> trivial

end

/-! ## The workflow -/

namespace ProvisionWorkflow

variable {env} {rely : (command : Command) → Except Failure (Answer command) → Prop}

theorem loadDeployment_calls {guarantee : Command → Prop} (selected : guarantee .selectDeployment) :
    loadDeployment.Obeys rely guarantee AnyOutcome := by
  refine .seq (await_calls selected) fun row => ?_
  cases row <;> trivial

theorem buildReadyBundle_obeys {guarantee : Command → Prop} {secrets : SecretBundle} :
    (buildReadyBundle secrets).Obeys rely guarantee AnyOutcome := by
  rw [buildReadyBundle]
  split <;> trivial

/-- The rest runs with the ready bundle of the secrets at hand. -/
theorem buildReadyBundle_calls {α : Type} {guarantee : Command → Prop} {secrets : SecretBundle}
    {rest : DataPlaneBundle → Async α}
    (continued : (rest (.ready secrets)).Obeys rely guarantee AnyOutcome) :
    (buildReadyBundle secrets >>= rest).Obeys rely guarantee AnyOutcome := by
  rw [obeys_bind, buildReadyBundle]
  split
  · exact continued
  · trivial

theorem prepare_calls {guarantee : Command → Prop} (deployment : DeploymentRow)
    (preparing : guarantee (.updateStatus .preparing none)) (awaiting : guarantee (.updateStatus .awaitingAgent none))
    (externals : ∀ call, guarantee (.external call))
    (pending : guarantee (.uploadWorkerScript ⟨deployment.subscriptionTokenHash, .pending⟩)) :
    (prepare deployment).Obeys rely guarantee AnyOutcome := by
  apply Obeys.seq (step_calls (updateStatus_calls preparing))
  intro _
  apply Obeys.seq (step_calls (.seq (external_calls (externals _)) fun _ => external_calls (externals _)))
  intro _
  apply Obeys.seq (step_calls (.seq (external_calls (externals _)) fun _ =>
    .seq (uploadWorkerScript_calls pending) fun _ => external_calls (externals _)))
  intro _
  apply Obeys.seq (step_calls (.seq (updateStatus_calls awaiting) fun _ =>
    .seq (external_calls (externals _)) fun _ => external_calls (externals _)))
  intro _
  trivial

theorem prepare_issues (deployment : DeploymentRow) :
    (prepare deployment).Obeys rely (Issues env (.workflow .prepare)) AnyOutcome := by
  have pending : Issues env (.workflow .prepare) (.uploadWorkerScript ⟨deployment.subscriptionTokenHash, .pending⟩) := rfl
  exact prepare_calls deployment (.inl rfl) (.inr (.inl rfl)) (fun _ => trivial) pending

theorem publish_issues : publish.Obeys rely (Issues env (.workflow .finalize)) AnyOutcome := by
  apply Obeys.seq (loadDeployment_calls trivial)
  intro current
  apply throwIf_calls
  intro _
  apply Obeys.seq (await_calls trivial)
  intro secrets
  cases secrets with
  | none => trivial
  | some secrets =>
    apply Obeys.seq (external_calls trivial)
    intro _
    apply buildReadyBundle_calls
    exact uploadWorkerScript_calls rfl

theorem finalize_issues : finalize.Obeys rely (Issues env (.workflow .finalize)) AnyOutcome := by
  have finalizing : Issues env (.workflow .finalize) (.updateStatus .finalizing none) := .inl rfl
  have ready : Issues env (.workflow .finalize) (.updateStatus .ready none) := .inr (.inl rfl)
  apply Obeys.seq (step_calls (updateStatus_calls finalizing))
  intro _
  apply Obeys.seq (step_calls publish_issues)
  intro _
  apply Obeys.seq (step_calls (.seq (updateStatus_calls ready) fun _ =>
    .seq (external_calls trivial) fun _ => external_calls trivial))
  intro _
  refine .seq (.catching (.seq (step_calls (disconnectConnectionIfIdle_calls trivial)) ?_) fun _ =>
    .seq (external_calls trivial) fun _ => external_calls trivial) fun _ => trivial
  rintro (disconnected | disconnected)
  · trivial
  · exact external_calls trivial

theorem revoke_issues : (revoke env).Obeys rely (Issues env (.workflow .revoke)) AnyOutcome := by
  have drawn : (step (do return env.sha256 (← randomToken .replacement))).Obeys rely
      (Issues env (.workflow .revoke)) AnyOutcome :=
    step_calls (.seq (randomToken_calls trivial) fun _ => trivial)
  apply Obeys.seq drawn
  intro replacementHash
  have disabled : Issues env (.workflow .revoke) (.uploadWorkerScript ⟨replacementHash, .pending⟩) := rfl
  apply Obeys.seq (step_calls (.seq (external_calls trivial) fun _ => uploadWorkerScript_calls disabled))
  intro _
  have marked : Issues env (.workflow .revoke) (.markRevoked replacementHash) := rfl
  have deleted : Issues env (.workflow .revoke) .deleteBootstrapTokens := rfl
  apply Obeys.seq (step_calls (.seq (await_calls marked) fun _ => .seq (await_calls deleted) fun _ =>
    .seq (external_calls trivial) fun _ => external_calls trivial))
  intro _
  exact .seq (.catching (discard_calls (step_calls (disconnectConnectionIfIdle_calls trivial))) fun _ =>
    external_calls trivial) fun _ => trivial

/-- After the status, the handler of a run calls what it must and throws. -/
theorem failed_eq (α : Type) (action : WorkflowAction) (loaded : Bool) (error : Failure) :
    ∃ rest : Async α, failed action loaded error =
        updateStatus .failed (some s!"workflow_{actionName action}_failed") >>= (fun _ => rest) ∧
      ∀ rely guarantee, (∀ call, guarantee (.external call)) → guarantee .disconnectConnectionIfIdle →
        rest.Obeys rely guarantee OnlyError := by
  refine ⟨_, rfl, fun rely guarantee external disconnected => ?_⟩
  apply Obeys.seq_onlyError (external_calls (external .audit))
  intro _
  cases loaded with
  | false => trivial
  | true =>
    have cleaned : (tryCatch (discard disconnectConnectionIfIdle) fun _ => pure () : Async Unit).Obeys rely
        guarantee AnyOutcome :=
      .catching (discard_calls (disconnectConnectionIfIdle_calls disconnected)) fun _ => trivial
    have notified : (tryCatch (Deployment.external .notify) fun _ => pure () : Async Unit).Obeys rely
        guarantee AnyOutcome :=
      .catching (external_calls (external .notify)) fun _ => trivial
    exact .seq_onlyError cleaned fun _ => .seq_onlyError notified fun _ => trivial

theorem failed_throws {α : Type} {guarantee : Command → Prop} (action : WorkflowAction) (loaded : Bool)
    (error : Failure) (recorded : ∀ detail, guarantee (.updateStatus .failed detail))
    (external : ∀ call, guarantee (.external call)) (disconnected : guarantee .disconnectConnectionIfIdle) :
    (failed action loaded error : Async α).Obeys rely guarantee OnlyError := by
  obtain ⟨rest, unfolded, throws⟩ := failed_eq α action loaded error
  rw [unfolded]
  exact .seq_onlyError (updateStatus_calls (recorded _)) fun _ => throws rely guarantee external disconnected

theorem run_issues (action : WorkflowAction) :
    (run env action).Obeys rely (Issues env (.workflow action)) AnyOutcome := by
  have fails {α : Type} (loaded : Bool) (error : Failure) :
      (failed action loaded error : Async α).Obeys rely (Issues env (.workflow action)) AnyOutcome := by
    refine (failed_throws action loaded error (fun detail => ?_) (fun _ => trivial) trivial).anyOutcome
    cases action <;> simp [Issues, Party.writes]
  apply Obeys.seq (.catching (step_calls (loadDeployment_calls trivial)) (fails false))
  intro deployment
  refine .catching ?_ (fails true)
  cases action with
  | prepare => exact prepare_issues deployment
  | finalize => exact finalize_issues
  | revoke => exact revoke_issues

end ProvisionWorkflow

/-! ## The requests -/

variable {env} {rely : (command : Command) → Except Failure (Answer command) → Prop}

theorem createDeployment_issues :
    (createDeployment env).Obeys rely (Issues env .creation) AnyOutcome := by
  apply Obeys.seq (external_calls trivial)
  intro _
  apply Obeys.seq (randomToken_calls trivial)
  intro subscriptionToken
  apply Obeys.seq (randomToken_calls trivial)
  intro bootstrapToken
  apply Obeys.seq (await_calls ⟨rfl, rfl, rfl⟩)
  intro _
  refine .seq (.catching (startWorkflow_calls rfl trivial) fun error => ?_) fun _ =>
    .seq (external_calls trivial) fun _ => trivial
  have failed : Issues env .creation (.updateStatus .failed (some "workflow_start_failed")) := rfl
  exact .seq (updateStatus_calls failed) fun _ =>
    .seq (.catching (discard_calls (disconnectConnectionIfIdle_calls trivial)) fun _ => trivial) fun _ =>
      trivial

theorem rotateBootstrapToken_issues :
    (rotateBootstrapToken env).Obeys rely (Issues env (.request .rotateBootstrapToken)) AnyOutcome := by
  apply Obeys.seq (ownedDeployment_calls trivial)
  intro deployment
  apply throwIf_calls
  intro _
  apply Obeys.seq (randomToken_calls trivial)
  intro rawToken
  exact .seq (await_calls rfl) fun _ => .seq (external_calls trivial) fun _ => trivial

theorem getBootstrapRecord_calls {guarantee : Command → Prop} (token : String)
    (selected : guarantee (.selectBootstrap (env.sha256 token))) :
    (getBootstrapRecord env token).Obeys rely guarantee AnyOutcome := by
  apply throwIf_calls
  intro _
  apply Obeys.seq (await_calls selected)
  intro row
  cases row <;> trivial

theorem completeBootstrap_issues (token : String) (payload : AgentCompletePayload) :
    (completeBootstrap env token payload).Obeys rely
      (Issues env (.request (.completeBootstrap token payload))) AnyOutcome := by
  apply Obeys.seq (discard_calls (getBootstrapRecord_calls token trivial))
  intro _
  apply throwIf_calls
  intro _
  apply Obeys.seq (await_calls trivial)
  intro secret
  cases secret with
  | none => trivial
  | some bundle =>
    apply Obeys.seq (await_calls ⟨token, payload, rfl⟩)
    intro consumed
    apply throwIf_calls
    intro _
    exact .seq (await_calls ⟨token, payload, rfl⟩) fun _ =>
      .seq (startWorkflow_calls rfl trivial) fun _ => .seq (external_calls trivial) fun _ => trivial

theorem rotateSubscriptionToken_issues :
    (rotateSubscriptionToken env).Obeys rely (Issues env (.request .rotateSubscriptionToken)) AnyOutcome := by
  apply Obeys.seq (ownedDeployment_calls trivial)
  intro deployment
  apply throwIf_calls
  intro _
  apply Obeys.seq (external_calls trivial)
  intro _
  apply Obeys.seq (discard_calls (ownedDeployment_calls trivial))
  intro _
  apply Obeys.seq (await_calls trivial)
  intro secret
  cases secret with
  | none => trivial
  | some secrets =>
    apply Obeys.seq (randomToken_calls trivial)
    intro subscriptionToken
    apply Obeys.seq (external_calls trivial)
    intro _
    apply ProvisionWorkflow.buildReadyBundle_calls
    refine .seq (uploadWorkerScript_calls ?_) fun _ => ?_
    · rfl
    refine .seq (await_calls ?_) fun _ => ?_
    · exact ⟨rfl, rfl⟩
    exact .seq (external_calls trivial) fun _ =>
      .seq (.catching (discard_calls (disconnectConnectionIfIdle_calls trivial)) fun _ => trivial) fun _ =>
        trivial

theorem retryDeployment_issues :
    retryDeployment.Obeys rely (Issues env (.request .retryDeployment)) AnyOutcome := by
  apply Obeys.seq (ownedDeployment_calls trivial)
  intro deployment
  apply throwIf_calls
  intro _
  have started (action : WorkflowAction) (either : action = .prepare ∨ action = .finalize) :
      (startWorkflow action).Obeys rely (Issues env (.request .retryDeployment)) AnyOutcome :=
    startWorkflow_calls either trivial
  apply Obeys.seq (external_calls trivial)
  intro _
  refine .seq (started _ ?_) fun _ => .seq (external_calls trivial) fun _ => trivial
  split
  · exact .inl rfl
  · exact .inr rfl

theorem deleteDeployment_issues :
    deleteDeployment.Obeys rely (Issues env (.request .deleteDeployment)) AnyOutcome := by
  apply Obeys.seq (ownedDeployment_calls trivial)
  intro deployment
  apply throwIf_calls
  intro _
  exact .seq (await_calls rfl) fun _ => .seq (external_calls trivial) fun _ => trivial

theorem revokeDeployment_issues :
    revokeDeployment.Obeys rely (Issues env (.request .revokeDeployment)) AnyOutcome := by
  apply Obeys.seq (ownedDeployment_calls trivial)
  intro deployment
  split
  · trivial
  · next notRevoked =>
    have revoking : Issues env (.request .revokeDeployment) (.updateStatus .revoking none) := nofun
    have restored : Issues env (.request .revokeDeployment)
        (.updateStatus deployment.status (some "revoke_workflow_start_failed")) := notRevoked
    apply throwIf_calls
    intro _
    apply Obeys.seq (external_calls trivial)
    intro _
    apply Obeys.seq (updateStatus_calls revoking)
    intro _
    exact .seq (.catching (startWorkflow_calls rfl trivial) fun error =>
      .seq (updateStatus_calls restored) fun _ => trivial) fun _ =>
        .seq (external_calls trivial) fun _ => trivial

/-- Every program keeps to the table, whatever its calls answer. -/
theorem code_issues (party : Party) : (code env party).Obeys rely (Issues env party) AnyOutcome := by
  cases party with
  | creation => exact createDeployment_issues
  | workflow action => exact ProvisionWorkflow.run_issues action
  | request operation =>
    cases operation with
    | rotateBootstrapToken => exact rotateBootstrapToken_issues
    | completeBootstrap token payload => exact completeBootstrap_issues token payload
    | rotateSubscriptionToken => exact rotateSubscriptionToken_issues
    | retryDeployment => exact retryDeployment_issues
    | revokeDeployment => exact revokeDeployment_issues
    | deleteDeployment => exact deleteDeployment_issues

/-! ## Every task of a run has a party -/

/-- The task keeps to the table of the party, as what is left of its program does. -/
def Party.Owns (env : Env) (party : Party) (task : Async Outcome) : Prop :=
  task.Obeys AnyAnswer (Issues env party) AnyOutcome

/-! ## The course of a task -/

/-- How far a task is. A revocation loads the row, draws its replacement, disables the Worker, marks the row,
closes the bootstrap tokens and records that it did; an attempt that fails starts the marking over, as long as
there are attempts left. A flag says whether the last call failed. -/
inductive Stage where
  | party (owner : Party)
  | loading (failed : Bool)
  | drawn (token : String) (failed : Bool)
  | marking (token : String) (attempts : ℕ)
  | marked (token : String) (attempts : ℕ)
  | recorded (token : String) (attempts : ℕ)
  | closing (failed : Bool)
  | failing
  | ended
  /-- The task writes nothing as long as it finds the row revoked or gone. -/
  | calm (failed : Bool)
  /-- The task found another row. -/
  | unbound

namespace Stage

/-- The calls that leave a deployment revoked, its Worker disabled and its bootstrap tokens closed. -/
def spares (failed : Bool) : Command → Prop
  | .updateStatus status _ => failed ∧ status = .failed
  | .insertDeployment .. | .markRevoked _ | .deleteBootstrapTokens | .upsertBootstrapToken _ | .storeAgent .. |
    .uploadWorkerScript _ | .createWorkflow _ => False
  | _ => True

def allowed (env : Env) : Stage → Command → Prop
  | .party owner, command => Issues env owner command
  | .loading _, .selectDeployment | .loading _, .randomToken .replacement => True
  | .drawn _ _, .external _ => True
  | .drawn token _, .uploadWorkerScript script => script = ⟨env.sha256 token, .pending⟩
  | .marking token _, .markRevoked hash => hash = env.sha256 token
  | .marked .., .deleteBootstrapTokens => True
  | .recorded .., .external _ => True
  | .closing _, .external _ | .closing _, .disconnectConnectionIfIdle => True
  | .ended, .external _ | .ended, .disconnectConnectionIfIdle => True
  | .loading failed, .updateStatus status _ | .drawn _ failed, .updateStatus status _
  | .closing failed, .updateStatus status _ => failed ∧ status = .failed
  | .failing, .updateStatus status _ => status = .failed
  | .calm failed, command => spares failed command
  | .unbound, _ => True
  | _, _ => False

/-- After a failure in the step that marks the row. -/
def retried (token : String) : ℕ → Stage
  | 0 => .failing
  | attempts + 1 => .marking token attempts

/-- The notification is the last call of that step. -/
def recording (token : String) (attempts : ℕ) : Command → Stage
  | .external .notify => .closing false
  | _ => .recorded token attempts

def next : Stage → (command : Command) → Except Failure (Answer command) → Stage
  | .party owner, _, _ => .party owner
  | .loading _, .randomToken _, .ok token => .drawn token false
  | .loading _, .selectDeployment, .ok none => .loading true
  | .loading _, .updateStatus .., _ | .drawn _ _, .updateStatus .., _ | .closing _, .updateStatus .., _ => .ended
  | .loading _, _, .ok _ => .loading false
  | .loading _, _, .error _ => .loading true
  | .drawn token _, .uploadWorkerScript _, .ok _ => .marking token 5
  | .drawn token _, _, .ok _ => .drawn token false
  | .drawn token _, _, .error _ => .drawn token true
  | .marking token attempts, _, .ok _ => .marked token attempts
  | .marked token attempts, _, .ok _ => .recorded token attempts
  | .recorded token attempts, command, .ok _ => recording token attempts command
  | .marking token attempts, _, .error _ | .marked token attempts, _, .error _
  | .recorded token attempts, _, .error _ => retried token attempts
  | .closing _, _, .ok _ => .closing false
  | .closing _, _, .error _ => .closing true
  | .failing, _, _ | .ended, _, _ => .ended
  | .calm _, .selectDeployment, .ok (some row) => if row.status = .revoked then .calm false else .unbound
  | .calm _, .selectDeployment, .ok none => .calm true
  | .calm _, .consumeBootstrapToken _, .ok changes => if changes = (1 : ℕ) then .unbound else .calm false
  | .calm _, _, .ok _ => .calm false
  | .calm _, _, .error _ => .calm true
  | .unbound, _, _ => .unbound

/-- A task does not end between its upload and the end of the step that marks the row. -/
def ends : Stage → Except Failure Outcome → Prop
  | .marking .., _ | .marked .., _ | .recorded .., _ | .failing, _ => False
  | _, _ => True

/-- A failure here starts the marking over. -/
def returns : Stage → Bool
  | .marking .. | .marked _ (_ + 1) | .recorded _ (_ + 1) => true
  | _ => false

/-- The task does not rely on a revoked row. -/
def plain : Stage → Prop
  | .party (.workflow .revoke) | .calm _ | .unbound => False
  | _ => True

end Stage

/-- The course of every task. -/
def course (env : Env) : Protocol Failure Answer Stage := ⟨Stage.allowed env, Stage.next⟩

/-- The stage in which the program of a party begins. -/
def Party.stage : Party → Stage
  | .workflow .revoke => .loading false
  | party => .party party

/-- The task is in the step that marks the row revoked: it marks the row next, or after a failure. -/
def marks : Async Outcome → Bool
  | .call (.markRevoked _) _ => true
  | .call _ next =>
    match (next (.error .remote)).awaits with
    | some (.markRevoked _) => true
    | _ => false
  | _ => false

namespace ProvisionWorkflow

theorem load_follows {failed : Bool} : (step loadDeployment).Follows (course env) (fun
    | stage, .ok _ => stage = .loading false
    | stage, .error _ => stage = .loading true) (.loading failed) := by
  have loads (failed : Bool) : loadDeployment.Follows (course env) (fun
      | stage, .ok _ => stage = .loading false
      | stage, .error _ => stage = .loading true) (.loading failed) := by
    refine .after trivial (fun row => ?_) fun _ => rfl
    cases row <;> rfl
  refine (loads failed).retrying ?_ 5
  rintro _ _ rfl
  exact loads true

theorem draw_follows : (step (do return env.sha256 (← randomToken .replacement))).Follows (course env) (fun
    | stage, .ok hash => ∃ token, hash = env.sha256 token ∧ stage = .drawn token false
    | stage, .error _ => stage = .loading true) (.loading false) := by
  have draws (failed : Bool) : (do return env.sha256 (← randomToken .replacement) : Async String).Follows
      (course env) (fun
        | stage, .ok hash => ∃ token, hash = env.sha256 token ∧ stage = .drawn token false
        | stage, .error _ => stage = .loading true) (.loading failed) :=
    .after trivial (fun token => ⟨token, rfl, rfl⟩) fun _ => rfl
  refine (draws false).retrying ?_ 5
  rintro _ _ rfl
  exact draws true

theorem disable_follows {token : String} : (step do
      Deployment.external .cloudflareAuth
      uploadWorkerScript ⟨env.sha256 token, .pending⟩).Follows (course env) (fun
    | stage, .ok _ => stage = .marking token 5
    | stage, .error _ => stage = .drawn token true) (.drawn token false) := by
  have disables (failed : Bool) : (do
      Deployment.external .cloudflareAuth
      uploadWorkerScript ⟨env.sha256 token, .pending⟩ : Async Unit).Follows (course env) (fun
        | stage, .ok _ => stage = .marking token 5
        | stage, .error _ => stage = .drawn token true) (.drawn token failed) := by
    refine .after trivial (fun _ => (follows_perform _).mpr ⟨rfl, ?_⟩) fun _ => rfl
    rintro (_ | _) <;> rfl
  refine (disables false).retrying ?_ 5
  rintro _ _ rfl
  exact disables true

/-- The step that marks the row, with this many attempts left after the one at hand. -/
theorem mark_follows {token : String} (attempts : ℕ) : ((do
      await (.markRevoked (env.sha256 token))
      await .deleteBootstrapTokens
      Deployment.external .audit
      Deployment.external .notify : Async Unit).retrying attempts).Follows (course env) (fun
    | stage, .ok _ => stage = .closing false
    | stage, .error _ => stage = .failing) (.marking token attempts) := by
  have attempt (attempts : ℕ) : (do
      await (.markRevoked (env.sha256 token))
      await .deleteBootstrapTokens
      Deployment.external .audit
      Deployment.external .notify : Async Unit).Follows (course env) (fun
        | stage, .ok _ => stage = .closing false
        | stage, .error _ => stage = .retried token attempts) (.marking token attempts) := by
    refine .after rfl (fun _ => .after trivial (fun _ => .after trivial (fun _ => ?_) ?_) ?_) ?_
    · refine (follows_perform _).mpr ⟨trivial, ?_⟩
      rintro (_ | _) <;> rfl
    all_goals exact fun _ => rfl
  induction attempts with
  | zero => exact attempt 0
  | succ attempts ih =>
    refine (follows_tryCatch _ fun _ => retrying attempts _).mpr ((attempt (attempts + 1)).mono ?_)
    rintro stage (error | value) outcome
    · rw [show stage = .marking token attempts from outcome]
      exact ih
    · exact outcome

/-- A run fails only after a failing call. -/
def Failing (stage : Stage) : Prop :=
  stage = .loading true ∨ (∃ token, stage = .drawn token true) ∨ stage = .failing ∨ stage = .closing true

/-- The handler of a run records the failure right after the call that failed. -/
theorem failed_follows {α : Type} {stage : Stage} {action : WorkflowAction} {loaded : Bool} {error : Failure}
    (failing : Failing stage) : (failed action loaded error : Async α).Follows (course env) (fun
      | _, .ok _ => False
      | stage, .error _ => stage = .ended) stage := by
  obtain ⟨rest, unfolded, throws⟩ := failed_eq α action loaded error
  have cleaned : rest.Follows (course env) (fun
      | _, .ok _ => False
      | stage, .error _ => stage = .ended) .ended := by
    have obeys := throws AnyAnswer (Stage.ended.allowed env) (fun _ => trivial) trivial
    refine obeys.follows (fun _ called => called) (fun _ _ _ => rfl) ?_
    rintro (_ | _) only
    · rfl
    · exact only
  rw [unfolded]
  rcases failing with rfl | ⟨token, rfl⟩ | rfl | rfl
  · exact .after ⟨rfl, rfl⟩ (fun _ => cleaned) fun _ => rfl
  · exact .after ⟨rfl, rfl⟩ (fun _ => cleaned) fun _ => rfl
  · exact .after rfl (fun _ => cleaned) fun _ => rfl
  · exact .after ⟨rfl, rfl⟩ (fun _ => cleaned) fun _ => rfl

theorem revoke_follows : (revoke env).Follows (course env) (fun
    | stage, .ok outcome => stage.ends (.ok outcome)
    | stage, .error _ => Failing stage) (.loading false) := by
  rw [revoke]
  refine (follows_bind _ _).mpr (draw_follows.mono ?_)
  rintro _ (error | hash) outcome
  · exact .inl outcome
  obtain ⟨token, rfl, rfl⟩ := outcome
  refine (follows_bind _ _).mpr (disable_follows.mono ?_)
  rintro _ (error | _) rfl
  · exact .inr (.inl ⟨token, rfl⟩)
  refine (follows_bind _ _).mpr ((mark_follows 5).mono ?_)
  rintro _ (error | _) rfl
  · exact .inr (.inr (.inl rfl))
  have erases (failed : Bool) : disconnectConnectionIfIdle.Follows (course env) (fun
      | stage, .ok _ => stage = .closing false
      | stage, .error _ => stage = .closing true) (.closing failed) := by
    refine (follows_perform _).mpr ⟨trivial, ?_⟩
    rintro (_ | _) <;> rfl
  have erased : (step disconnectConnectionIfIdle).Follows (course env) (fun
      | stage, .ok _ => stage = .closing false
      | stage, .error _ => stage = .closing true) (.closing false) := by
    refine (erases false).retrying ?_ 5
    rintro _ _ rfl
    exact erases true
  refine (follows_bind _ _).mpr ((follows_tryCatch _ _).mpr ((follows_bind _ _).mpr (erased.mono ?_)))
  rintro _ (error | _) rfl
  · refine (follows_perform _).mpr ⟨trivial, ?_⟩
    rintro (_ | _)
    · exact .inr (.inr (.inr rfl))
    · trivial
  · trivial

theorem run_follows : (run env .revoke).Follows (course env) Stage.ends (.loading false) := by
  refine (follows_bind _ _).mpr ((follows_tryCatch _ _).mpr (load_follows.mono ?_))
  rintro _ (error | deployment) rfl
  · refine (failed_follows (.inl rfl)).mono ?_
    rintro stage (_ | _) outcome
    · rw [show stage = .ended from outcome]
      trivial
    · exact outcome.elim
  · refine (follows_tryCatch _ _).mpr (revoke_follows.mono ?_)
    rintro stage (error | outcome) ended
    · refine (failed_follows ended).mono ?_
      rintro stage (_ | _) outcome
      · rw [show stage = .ended from outcome]
        trivial
      · exact outcome.elim
    · exact ended

end ProvisionWorkflow

theorem Party.stage_eq {party : Party} (other : party ≠ .workflow .revoke) : party.stage = .party party := by
  rw [stage]
  intro same
  exact other same

theorem Party.stage_plain (party : Party) : party.stage.plain := by
  by_cases revokes : party = .workflow .revoke
  · subst revokes
    trivial
  · rw [stage_eq revokes, Stage.plain]
    · trivial
    · rintro ⟨⟩
      exact revokes rfl
    · nofun
    · nofun

theorem Party.stage_returns (party : Party) : party.stage.returns = false := by
  by_cases revokes : party = .workflow .revoke
  · subst revokes
    rfl
  · rw [stage_eq revokes]
    rfl

/-- Every program keeps its course, whatever its calls answer. -/
theorem code_follows (party : Party) : (code env party).Follows (course env) Stage.ends party.stage := by
  by_cases revokes : party = .workflow .revoke
  · subst revokes
    exact ProvisionWorkflow.run_follows
  · rw [Party.stage_eq revokes]
    exact (code_issues party).follows (fun _ issued => issued) (fun _ _ _ => rfl) fun _ _ => trivial

namespace Stage

variable {stage : Stage} {command : Command} {reply : Except Failure (Answer command)}

theorem plain_next (plain : stage.plain) : ((course env).next stage command reply).plain := by
  cases stage with
  | party party => exact plain
  | calm | unbound => exact plain.elim
  | marking token attempts | marked token attempts =>
    cases attempts <;> cases reply <;> trivial
  | recorded token attempts =>
    cases reply with
    | error error => cases attempts <;> trivial
    | ok value =>
      cases command with
      | external call => cases call <;> trivial
      | _ => trivial
  | loading failed =>
    cases command with
    | selectDeployment => rcases reply with _ | _ | _ <;> trivial
    | _ => cases reply <;> trivial
  | drawn token failed => cases command <;> cases reply <;> trivial
  | closing failed => cases command <;> cases reply <;> trivial
  | failing | ended => trivial

theorem written_ne_revoked {status : Status} {detail : Option String} (plain : stage.plain)
    (called : (course env).allowed stage (.updateStatus status detail)) : status ≠ .revoked := by
  cases stage with
  | party party => exact Party.writes_ne_revoked called
  | loading failed | drawn token failed | closing failed =>
    obtain ⟨-, rfl⟩ := called
    nofun
  | failing =>
    obtain rfl : status = .failed := called
    nofun
  | calm | unbound => exact plain.elim
  | _ => exact called.elim

theorem returns_of_mark {hash : String} (plain : stage.plain)
    (called : (course env).allowed stage (.markRevoked hash)) : stage.returns = true := by
  cases stage with
  | marking token attempts => rfl
  | party party =>
    obtain rfl : party = .workflow .revoke := called
    exact plain.elim
  | calm | unbound => exact plain.elim
  | _ => exact called.elim

theorem inserted_queued {row : DeploymentRow} {bundle : SecretBundle} {hash : String} (plain : stage.plain)
    (called : (course env).allowed stage (.insertDeployment row bundle hash)) : row.status = .queued := by
  cases stage with
  | party party => exact called.2.1
  | calm | unbound => exact plain.elim
  | _ => exact called.elim

/-- The marking is entered by an upload that is answered. -/
theorem returns_next (called : (course env).allowed stage command)
    (returns : ((course env).next stage command reply).returns = true) :
    stage.returns = true ∨ ∃ token, command = .uploadWorkerScript ⟨env.sha256 token, .pending⟩ ∧
      ∃ answer, reply = .ok answer := by
  cases stage with
  | marking token attempts => exact .inl rfl
  | marked token attempts =>
    cases attempts with
    | zero => cases reply <;> contradiction
    | succ attempts => exact .inl rfl
  | recorded token attempts =>
    cases attempts with
    | zero =>
      cases command with
      | external call => cases reply <;> cases call <;> contradiction
      | _ => exact called.elim
    | succ attempts => exact .inl rfl
  | drawn token failed =>
    cases command with
    | uploadWorkerScript script =>
      cases reply with
      | ok answer =>
        obtain rfl : script = ⟨env.sha256 token, .pending⟩ := called
        exact .inr ⟨token, rfl, answer, rfl⟩
      | error error => contradiction
    | external call | updateStatus status detail => cases reply <;> contradiction
    | _ => exact called.elim
  | loading failed =>
    cases command with
    | selectDeployment => rcases reply with _ | _ | _ <;> contradiction
    | randomToken _ | updateStatus _ _ => cases reply <;> contradiction
    | _ => exact called.elim
  | closing failed => cases command <;> cases reply <;> contradiction
  | calm failed =>
    cases command with
    | selectDeployment =>
      rcases reply with _ | _ | row
      · contradiction
      · contradiction
      · simp only [course, next] at returns
        split at returns <;> contradiction
    | consumeBootstrapToken hash =>
      cases reply with
      | error error => contradiction
      | ok changes =>
        simp only [course, next] at returns
        split at returns <;> contradiction
    | _ => cases reply <;> contradiction
  | party _ | failing | ended | unbound => contradiction

end Stage

theorem marks_of_returns {stage : Stage} {task : Async Outcome} (follows : task.Follows (course env) Stage.ends stage)
    (returns : stage.returns = true) : marks task = true := by
  have marking {token : String} {attempts : ℕ} {task : Async Outcome}
      (follows : task.Follows (course env) Stage.ends (.marking token attempts)) :
      ∃ hash next, task = .call (.markRevoked hash) next := by
    cases task with
    | done _ | fail _ => exact follows.elim
    | call command next =>
      cases command with
      | markRevoked hash => exact ⟨hash, next, rfl⟩
      | _ => exact follows.1.elim
  have again {command : Command} {next : Except Failure (Answer command) → Async Outcome} {token : String}
      {attempts : ℕ} (follows : (next (.error .remote)).Follows (course env) Stage.ends (.marking token attempts)) :
      marks (.call command next) = true := by
    obtain ⟨hash, rest, same⟩ := marking follows
    cases command <;> simp [marks, same]
  cases stage with
  | marking token attempts =>
    obtain ⟨hash, next, rfl⟩ := marking follows
    rfl
  | marked token attempts =>
    cases attempts with
    | zero => contradiction
    | succ attempts =>
      cases task with
      | done _ | fail _ => exact follows.elim
      | call command next =>
        cases command with
        | deleteBootstrapTokens => exact again (follows.2 (.error .remote))
        | _ => exact follows.1.elim
  | recorded token attempts =>
    cases attempts with
    | zero => contradiction
    | succ attempts =>
      cases task with
      | done _ | fail _ => exact follows.elim
      | call command next =>
        cases command with
        | external call => exact again (follows.2 (.error .remote))
        | _ => exact follows.1.elim
  | _ => contradiction

/-- A task spawned by a command is the run of the workflow that the command created. -/
theorem mem_spawns {command : Command} {choice : Choice} {task : Async Outcome}
    (member : task ∈ spawns env command choice) :
    ∃ action, command = .createWorkflow action ∧ task = ProvisionWorkflow.run env action := by
  unfold spawns at member
  split at member
  · next action =>
    split at member
    · contradiction
    · exact ⟨action, rfl, List.mem_singleton.mp member⟩
  · contradiction

end OmniControlPlane.Deployment
