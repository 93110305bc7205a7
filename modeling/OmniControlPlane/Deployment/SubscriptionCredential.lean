import OmniControlPlane.Deployment.Calls

/-! # The three copies of the subscription credential

The token is in the encrypted bundle, its digest in the row and in the Worker's last upload. The
creation, `completeBootstrap`, the finalize run and `rotateSubscriptionToken` read some of them and
write others, without a common transaction. `Coordinated` is the condition on the steps under which
the copies agree whenever the deployment is ready and nothing is in flight: nothing else stands
between the read and the write of an operation while a rotation stores, and a rotation does not fail
halfway. What each operation writes follows from what it has read.
-/

namespace OmniControlPlane.Deployment

open Lib Task

/-- The digest in the row. -/
def Store.rowHash (store : Store) : Option String := store.deployment.map (·.subscriptionTokenHash)

/-- The digest in the Worker's last upload. -/
def Store.workerHash (store : Store) : Option String := store.worker.map (·.subTokenHash)

/-! ## What a task has read -/

/-- The digest of the row and the token of the bundle that a task has read last; or the token that a rotation
has drawn, or the digest under which it has uploaded. -/
inductive Sight where
  | seen (row token : Option String)
  | drawn (token : String)
  | uploaded (hash : String)

namespace Sight

/-- Scripts are uploaded under the digest of the row, or of a rotation's own token; the agent's bundle keeps
the token; a rotation stores what it has uploaded. -/
def allowed (env : Env) : Sight → Command → Prop
  | .seen row _, .uploadWorkerScript script => row = some script.subTokenHash
  | .seen _ token, .storeAgent bundle _ => token = some bundle.subscriptionToken
  | .drawn token, .uploadWorkerScript script => script.subTokenHash = env.sha256 token
  | .drawn _, .storeAgent .. | .seen _ _, .storeRotation .. | .drawn _, .storeRotation .. => False
  | .uploaded hash, .storeRotation _ stored => stored = hash
  | .uploaded _, _ => False
  | _, _ => True

def next (env : Env) : Sight → (command : Command) → Except Failure (Answer command) → Sight
  | .seen _ token, .selectDeployment, .ok (some row) => .seen (some row.subscriptionTokenHash) token
  | .seen row _, .selectSecret, .ok (some bundle) => .seen row (some bundle.subscriptionToken)
  | .seen (some _) _, .randomToken .subscription, .ok token => .drawn token
  | .drawn token, .uploadWorkerScript _, .ok _ => .uploaded (env.sha256 token)
  | .drawn _, .uploadWorkerScript _, .error _ | .uploaded _, _, _ => .seen none none
  | sight, _, _ => sight

/-- The task is not between the upload and the batch of a rotation. -/
def settled : Sight → Prop
  | .uploaded _ => False
  | _ => True

/-- A rotation does not end between its upload and its batch. -/
abbrev ends {α : Type} : Sight → Except Failure α → Prop := fun view _ => view.settled

/-- What was read is still stored, and what was uploaded is what the Worker has. -/
def Holds (store : Store) : Sight → Prop
  | .seen row token => (∀ hash ∈ row, store.rowHash = some hash) ∧
      ∀ read ∈ token, store.secret.map (·.subscriptionToken) = some read
  | .drawn _ => store.deployment.isSome
  | .uploaded hash => store.workerHash = some hash

end Sight

def sight (env : Env) : Protocol Failure Answer Sight := ⟨Sight.allowed env, Sight.next env⟩

/-- The task reads the stores again before it writes a copy of the credential. -/
def Rereads (env : Env) (task : Async Outcome) : Prop := task.Follows (sight env) Sight.ends (.seen none none)

/-- The task has uploaded a rotation and is about to store it under this digest. -/
def AwaitsRotation (hash : String) (task : Async Outcome) : Prop :=
  ∃ bundle, task.awaits = some (.storeRotation bundle hash)

/-- The condition on the answer that a task receives. -/
structure CoordinatedAct (env : Env) (world : World) (position : ℕ) (choice : Choice) : Prop where
  /-- No script is uploaded while another task is between the upload and the batch of a rotation. -/
  uploads : ∀ script next, world.tasks[position]? = some (.call (.uploadWorkerScript script) next) →
    choice.delivery ≠ .refused → ∀ other task hash, other ≠ position → world.tasks[other]? = some task →
      ¬ AwaitsRotation hash task
  /-- The upload of a rotation is answered or refused. -/
  answered : ∀ script next hash, world.tasks[position]? = some (.call (.uploadWorkerScript script) next) →
    AwaitsRotation hash (next (.ok ())) → choice.delivery ≠ .lost
  /-- The batch of a rotation is not refused, and finds every other task reading again before it writes. -/
  stores : ∀ bundle hash next, world.tasks[position]? = some (.call (.storeRotation bundle hash) next) →
    choice.delivery ≠ .refused ∧
      ∀ other task, other ≠ position → world.tasks[other]? = some task → Rereads env task

/-- The condition on a step of a run in which neither a revocation nor a deletion is started. -/
def Coordinated (env : Env) (world : World) : Event → Prop
  | .start operation => operation ≠ .revokeDeployment ∧ operation ≠ .deleteDeployment
  | .act position choice => CoordinatedAct env world position choice

section

variable {env : Env} {store after : Store} {command : Command} {choice : Choice}
  {reply : Except Failure (Answer command)} {task : Async Outcome}

/-! ## The programs -/

/-- The parties of a coordinated run. -/
def Party.credential : Party → Prop
  | .workflow .revoke | .request .revokeDeployment | .request .deleteDeployment => False
  | _ => True

/-- The calls that write no copy of the credential to the Worker or over an old one. -/
def Silent : Command → Prop
  | .uploadWorkerScript _ | .storeAgent .. | .storeRotation .. => False
  | _ => True

theorem Sight.settled_next {view : Sight} (settled : view.settled) (silent : Silent command) :
    ((sight env).next view command reply).settled := by
  cases view with
  | uploaded hash => exact settled.elim
  | drawn token =>
    cases command with
    | uploadWorkerScript script => exact silent.elim
    | _ => trivial
  | seen row token =>
    cases command with
    | selectDeployment | selectSecret => rcases reply with _ | _ | _ <;> trivial
    | randomToken purpose => cases row <;> cases purpose <;> cases reply <;> trivial
    | _ => trivial

/-- A task that writes no copy goes on from whatever it has read. -/
theorem silent_obeys {α : Type} {task : Async α} {view : Sight} {post : Except Failure α → Prop}
    (settled : view.settled) (silent : task.Obeys AnyAnswer Silent post) :
    task.Follows (sight env) (fun view outcome => view.settled ∧ post outcome) view := by
  induction task generalizing view with
  | done value | fail error => exact ⟨settled, silent⟩
  | call command next ih =>
    obtain ⟨called, onward⟩ := silent
    refine ⟨?_, fun answer => ih answer (Sight.settled_next settled called) (onward answer trivial)⟩
    cases view with
    | uploaded hash => exact settled.elim
    | _ =>
      cases command with
      | uploadWorkerScript | storeAgent | storeRotation => exact called.elim
      | _ => trivial

theorem silent_follows {α : Type} {task : Async α} {view : Sight} (settled : view.settled)
    (silent : task.Obeys AnyAnswer Silent AnyOutcome) : task.Follows (sight env) Sight.ends view :=
  (silent_obeys settled silent).mono fun _ _ ended => ended.1

theorem silent_of_party {party : Party} (uploads : ∀ script, ¬ party.uploads script)
    (completes : ∀ token payload, party ≠ .request (.completeBootstrap token payload))
    (rotates : party ≠ .request .rotateSubscriptionToken) : (code env party).Obeys AnyAnswer Silent AnyOutcome := by
  refine (code_issues party).mono (fun _ _ given => given) ?_ fun _ ended => ended
  intro command issued
  cases command with
  | uploadWorkerScript script => exact uploads script issued
  | storeAgent bundle hash =>
    obtain ⟨token, payload, same⟩ := issued
    exact completes token payload same
  | storeRotation bundle hash => exact rotates issued.1
  | _ => trivial

namespace ProvisionWorkflow

/-- Loading the row, the task sees its digest. -/
theorem load_sees {row token : Option String} : loadDeployment.Follows (sight env) (fun
    | view, .ok deployment => view = .seen (some deployment.subscriptionTokenHash) token
    | view, .error _ => view = .seen row token) (.seen row token) := by
  refine .after trivial (fun found => ?_) fun _ => rfl
  cases found <;> rfl

theorem failed_silent {α : Type} {action : WorkflowAction} {loaded : Bool} {error : Failure} :
    (failed action loaded error : Async α).Obeys AnyAnswer Silent OnlyError :=
  failed_throws action loaded error (fun _ => trivial) (fun _ => trivial) trivial

theorem publish_follows {row token : Option String} : publish.Follows (sight env) (fun view _ =>
    ∃ row token, view = .seen row token) (.seen row token) := by
  refine (follows_bind _ _).mpr (load_sees.mono ?_)
  rintro _ (error | current) rfl
  · exact ⟨_, _, rfl⟩
  refine .unless (fun _ => ⟨_, _, rfl⟩) fun _ => ?_
  refine .after trivial (fun secret => ?_) fun _ => ⟨_, _, rfl⟩
  cases secret with
  | none => exact ⟨_, _, rfl⟩
  | some secrets =>
    refine .after trivial (fun _ => ?_) fun _ => ⟨_, _, rfl⟩
    rw [buildReadyBundle]
    split
    · exact (follows_perform _).mpr ⟨rfl, fun _ => ⟨_, _, rfl⟩⟩
    · exact ⟨_, _, rfl⟩

theorem finalize_follows {row token : Option String} :
    finalize.Follows (sight env) Sight.ends (.seen row token) := by
  have marked (row token : Option String) : (step (updateStatus .finalizing)).Follows (sight env) (fun view _ =>
      ∃ row token, view = .seen row token) (.seen row token) :=
    ((follows_perform _).mpr ⟨trivial, fun _ => ⟨_, _, rfl⟩⟩).retrying
      (fun _ _ ⟨_, _, same⟩ => same ▸ (follows_perform _).mpr ⟨trivial, fun _ => ⟨_, _, rfl⟩⟩) 5
  have published (row token : Option String) : (step publish).Follows (sight env) (fun view _ =>
      ∃ row token, view = .seen row token) (.seen row token) :=
    publish_follows.retrying (fun _ _ ⟨_, _, same⟩ => same ▸ publish_follows) 5
  refine (follows_bind _ _).mpr ((marked row token).mono ?_)
  rintro _ (error | _) ⟨row, token, rfl⟩
  · trivial
  refine (follows_bind _ _).mpr ((published row token).mono ?_)
  rintro _ (error | _) ⟨row, token, rfl⟩
  · trivial
  refine silent_follows trivial (.seq (step_calls (.seq (updateStatus_calls trivial) fun _ =>
    .seq (external_calls trivial) fun _ => external_calls trivial)) fun _ => ?_)
  refine .seq (.catching (.seq (step_calls (disconnectConnectionIfIdle_calls trivial)) ?_) fun _ =>
    .seq (external_calls trivial) fun _ => external_calls trivial) fun _ => trivial
  rintro (_ | _)
  · trivial
  · exact external_calls trivial

theorem prepare_follows {deployment : DeploymentRow} {token : Option String} :
    (prepare deployment).Follows (sight env) Sight.ends (.seen (some deployment.subscriptionTokenHash) token) := by
  let uploads (command : Command) : Prop :=
    (∃ status detail, command = .updateStatus status detail) ∨ (∃ call, command = .external call) ∨
      ∃ bundle, command = .uploadWorkerScript ⟨deployment.subscriptionTokenHash, bundle⟩
  have calls : (prepare deployment).Obeys AnyAnswer uploads AnyOutcome :=
    prepare_calls deployment (.inl ⟨_, _, rfl⟩) (.inl ⟨_, _, rfl⟩) (fun _ => .inr (.inl ⟨_, rfl⟩))
      (.inr (.inr ⟨_, rfl⟩))
  refine calls.follows ?_ ?_ fun _ _ => trivial
  · rintro command (⟨status, detail, rfl⟩ | ⟨call, rfl⟩ | ⟨bundle, rfl⟩)
    · trivial
    · trivial
    · rfl
  · rintro command answer (⟨status, detail, rfl⟩ | ⟨call, rfl⟩ | ⟨bundle, rfl⟩) <;> rfl

/-- The handler of a run writes no copy. -/
theorem caught_follows {action : WorkflowAction} {body : Async Outcome} {view : Sight}
    (follows : body.Follows (sight env) Sight.ends view) :
    (tryCatch body (failed action true)).Follows (sight env) Sight.ends view := by
  refine (follows_tryCatch _ _).mpr (follows.mono ?_)
  rintro view (error | value) settled
  · exact silent_follows settled failed_silent.anyOutcome
  · exact settled

theorem run_sees {action : WorkflowAction} (credential : action ≠ .revoke) :
    (run env action).Follows (sight env) Sight.ends (.seen none none) := by
  have loads (row token : Option String) : loadDeployment.Follows (sight env) (fun
      | view, .ok deployment => ∃ token, view = .seen (some deployment.subscriptionTokenHash) token
      | view, .error _ => ∃ row token, view = .seen row token) (.seen row token) := by
    refine load_sees.mono ?_
    rintro _ (_ | _) rfl
    · exact ⟨_, _, rfl⟩
    · exact ⟨_, rfl⟩
  have loaded : (step loadDeployment).Follows (sight env) (fun
      | view, .ok deployment => ∃ token, view = .seen (some deployment.subscriptionTokenHash) token
      | view, .error _ => ∃ row token, view = .seen row token) (.seen none none) :=
    (loads none none).retrying (fun _ _ ⟨_, _, same⟩ => same ▸ loads _ _) 5
  refine (follows_bind _ _).mpr ((follows_tryCatch _ _).mpr (loaded.mono ?_))
  rintro _ (error | deployment) outcome
  · obtain ⟨row, token, rfl⟩ := outcome
    have settled : (Sight.seen row token).settled := trivial
    refine (silent_obeys settled failed_silent).mono ?_
    rintro view (_ | _) ⟨settled, failed⟩
    · exact settled
    · exact failed.elim
  · obtain ⟨token, rfl⟩ := outcome
    cases action with
    | prepare => exact caught_follows prepare_follows
    | finalize => exact caught_follows finalize_follows
    | revoke => exact absurd rfl credential

end ProvisionWorkflow

/-- The agent's bundle keeps the token that it was read with. -/
theorem completeBootstrap_follows {token : String} {payload : AgentCompletePayload} :
    (completeBootstrap env token payload).Follows (sight env) Sight.ends (.seen none none) := by
  have checked : (discard (getBootstrapRecord env token) : Async Unit).Follows (sight env)
      (fun view _ => view = .seen none none) (.seen none none) := by
    have selects : (discard (getBootstrapRecord env token) : Async Unit).Obeys AnyAnswer
        (fun command => ∃ hash, command = .selectBootstrap hash) AnyOutcome :=
      discard_calls (getBootstrapRecord_calls token ⟨_, rfl⟩)
    refine selects.follows ?_ ?_ fun _ _ => rfl
    · rintro _ ⟨hash, rfl⟩
      trivial
    · rintro _ answer ⟨hash, rfl⟩
      rfl
  refine (follows_bind _ _).mpr (checked.mono ?_)
  rintro _ (error | _) rfl
  · trivial
  refine .unless (fun _ => trivial) fun _ => ?_
  refine .after trivial (fun secret => ?_) fun _ => trivial
  cases secret with
  | none => trivial
  | some bundle =>
    refine .after trivial (fun consumed => ?_) fun _ => trivial
    refine .unless (fun _ => trivial) fun _ => ?_
    refine .after rfl (fun _ => ?_) fun _ => trivial
    exact silent_follows trivial (.seq (startWorkflow_calls trivial trivial) fun _ =>
      .seq (external_calls trivial) fun _ => trivial)

/-- A rotation uploads under the digest of the token that it draws, and stores what it has uploaded. -/
theorem rotateSubscriptionToken_follows :
    (rotateSubscriptionToken env).Follows (sight env) Sight.ends (.seen none none) := by
  have owned (row : Option String) : ownedDeployment.Follows (sight env) (fun
      | view, .ok _ => ∃ hash, view = .seen (some hash) none
      | view, .error _ => view.settled) (.seen row none) := by
    refine .after trivial (fun found => ?_) fun _ => trivial
    cases found with
    | none => trivial
    | some row => exact ⟨_, rfl⟩
  refine (follows_bind _ _).mpr ((owned none).mono ?_)
  rintro view (error | deployment) outcome
  · exact outcome
  obtain ⟨hash, rfl⟩ := outcome
  refine .unless (fun _ => trivial) fun _ => ?_
  refine .after trivial (fun _ => ?_) fun _ => trivial
  refine (follows_bind _ _).mpr ((follows_bind _ _).mpr ((owned (some hash)).mono ?_))
  rintro view (error | again) outcome
  · exact outcome
  obtain ⟨hash, rfl⟩ := outcome
  refine .after trivial (fun secret => ?_) fun _ => trivial
  cases secret with
  | none => trivial
  | some secrets =>
    refine .after trivial (fun subscriptionToken => ?_) fun _ => trivial
    refine .after trivial (fun _ => ?_) fun _ => trivial
    rw [ProvisionWorkflow.buildReadyBundle]
    split
    · refine .after rfl (fun _ => ?_) fun _ => trivial
      refine .after rfl (fun _ => ?_) fun _ => trivial
      exact silent_follows trivial (.seq (external_calls trivial) fun _ =>
        .seq (.catching (discard_calls (disconnectConnectionIfIdle_calls trivial)) fun _ => trivial) fun _ => trivial)
    · trivial

/-- Every program of a coordinated run reads what it goes by. -/
theorem code_rereads {party : Party} (covered : party.credential) : Rereads env (code env party) := by
  cases party with
  | creation =>
    exact silent_follows trivial (silent_of_party (fun _ => id) nofun nofun)
  | workflow action =>
    cases action with
    | prepare | finalize => exact ProvisionWorkflow.run_sees nofun
    | revoke => exact covered.elim
  | request operation =>
    cases operation with
    | completeBootstrap token payload => exact completeBootstrap_follows
    | rotateSubscriptionToken => exact rotateSubscriptionToken_follows
    | rotateBootstrapToken | retryDeployment =>
      exact silent_follows trivial (silent_of_party (fun _ => id) nofun nofun)
    | revokeDeployment | deleteDeployment => exact covered.elim

/-- No upload is answered. -/
def UploadsFail : (command : Command) → Except Failure (Answer command) → Prop
  | .uploadWorkerScript _, .ok _ => False
  | _, _ => True

/-- While no upload is answered, the task does not write `ready`. -/
def ReadyAfterUpload (task : Async Outcome) : Prop :=
  task.Obeys UploadsFail (fun command => ∀ detail, command ≠ .updateStatus .ready detail) AnyOutcome

theorem publish_uploads : ProvisionWorkflow.publish.Obeys UploadsFail
    (fun command => ∀ detail, command ≠ .updateStatus .ready detail) OnlyError := by
  apply Obeys.seq_onlyError (ProvisionWorkflow.loadDeployment_calls nofun)
  intro current
  apply Obeys.seq_onlyError throwIf_obeys
  intro _
  apply Obeys.seq_onlyError (await_calls nofun)
  intro secrets
  cases secrets with
  | none => trivial
  | some secrets =>
    apply Obeys.seq_onlyError (external_calls nofun)
    intro _
    apply Obeys.seq_onlyError ProvisionWorkflow.buildReadyBundle_obeys
    intro bundle
    refine (obeys_perform (Command.uploadWorkerScript _)).mpr ⟨fun _ => nofun, ?_⟩
    rintro (error | _) given
    · trivial
    · exact given

theorem finalize_readyAfterUpload : ReadyAfterUpload ProvisionWorkflow.finalize := by
  apply Obeys.seq (step_calls (updateStatus_calls nofun))
  intro _
  exact (Obeys.stops (publish_uploads.retrying 5)).anyOutcome

theorem code_readyAfterUpload {party : Party} (covered : party.credential) :
    ReadyAfterUpload (code env party) := by
  by_cases finalizes : party = .workflow .finalize
  · subst finalizes
    have fails {α : Type} (loaded : Bool) (error : Failure) :
        (ProvisionWorkflow.failed .finalize loaded error : Async α).Obeys UploadsFail
          (fun command => ∀ detail, command ≠ .updateStatus .ready detail) AnyOutcome :=
      (ProvisionWorkflow.failed_throws .finalize loaded error (fun _ _ => nofun) (fun _ _ => nofun)
        fun _ => nofun).anyOutcome
    apply Obeys.seq (.catching (step_calls (ProvisionWorkflow.loadDeployment_calls nofun)) (fails false))
    intro _
    exact .catching finalize_readyAfterUpload (fails true)
  · refine (code_issues party).mono (fun _ _ given => given) ?_ fun _ ended => ended
    rintro command issued detail rfl
    have written : party.writes .ready := issued
    cases party with
    | creation => cases written
    | workflow action => cases action <;> simp [Party.writes] at written finalizes
    | request operation => cases operation <;> first | exact covered | exact written

/-! ## The store -/

/-- What a coordinated run keeps of its store. -/
structure Consistent (env : Env) (store : Store) : Prop where
  token : ∀ row, store.deployment = some row → ∃ bundle, store.secret = some bundle ∧
    env.sha256 bundle.subscriptionToken = row.subscriptionTokenHash
  secret : store.deployment = none → store.secret = none
  worker : store.deployment = none → store.worker = none
  ready : store.status = some .ready → store.worker ≠ none

/-- What a coordinated run keeps of each task. -/
structure Credentialed (env : Env) (store : Store) (task : Async Outcome) : Prop where
  owned : ∃ party : Party, party.credential ∧ party.Owns env task
  ready : store.worker = none → ReadyAfterUpload task
  sees : ∃ view : Sight, task.Follows (sight env) Sight.ends view ∧ view.Holds store

/-- A task that reads again sees what any store has. -/
theorem Sight.holds_none (store : Store) : (Sight.seen none none).Holds store := ⟨nofun, nofun⟩

theorem credentialed_code (store : Store) {party : Party} (covered : party.credential) :
    Credentialed env store (code env party) :=
  ⟨⟨party, covered, code_issues party⟩, fun _ => code_readyAfterUpload covered,
    _, code_rereads covered, Sight.holds_none store⟩

/-- Between the upload and the batch of a rotation, the batch comes next. -/
theorem awaits_of_uploaded {hash : String} (follows : task.Follows (sight env) Sight.ends (.uploaded hash)) :
    AwaitsRotation hash task := by
  cases task with
  | done value | fail error => exact follows.elim
  | call command next =>
    cases command with
    | storeRotation bundle stored =>
      obtain rfl : stored = hash := follows.1
      exact ⟨bundle, rfl⟩
    | _ => exact follows.1.elim

/-- The digest under which a script is uploaded. -/
theorem upload_allowed {view : Sight} {script : WorkerScript}
    (called : (sight env).allowed view (.uploadWorkerScript script)) (holds : view.Holds store) :
    store.deployment.isSome ∧ (store.rowHash = some script.subTokenHash ∨
      ∃ token, view = .drawn token ∧ script.subTokenHash = env.sha256 token) := by
  cases view with
  | seen row token =>
    obtain rfl : row = some script.subTokenHash := called
    have current : store.rowHash = some script.subTokenHash := holds.1 _ rfl
    obtain ⟨row, present, -⟩ := Option.map_eq_some_iff.mp current
    exact ⟨by simp [present], .inl current⟩
  | drawn token => exact ⟨holds, .inr ⟨token, rfl, called⟩⟩
  | uploaded hash => exact called.elim

/-- The batch of the agent keeps the token of the bundle. -/
theorem storeAgent_allowed {view : Sight} {bundle : SecretBundle} {hash : String}
    (called : (sight env).allowed view (.storeAgent bundle hash)) (holds : view.Holds store) :
    store.secret.map (·.subscriptionToken) = some bundle.subscriptionToken := by
  cases view with
  | seen row token =>
    obtain rfl : token = some bundle.subscriptionToken := called
    exact holds.2 _ rfl
  | drawn token | uploaded hash => exact called.elim

theorem storeRotation_allowed {view : Sight} {bundle : SecretBundle} {hash : String}
    (called : (sight env).allowed view (.storeRotation bundle hash)) : view = .uploaded hash := by
  cases view with
  | uploaded drawn =>
    obtain rfl : hash = drawn := called
    rfl
  | seen row token | drawn token => exact called.elim

theorem upload_present {view : Sight} {script : WorkerScript}
    (called : (sight env).allowed view (.uploadWorkerScript script)) (holds : view.Holds store) :
    store.deployment ≠ none := fun missing => by
  simpa [missing] using (upload_allowed called holds).1

theorem consistent_step {next : Except Failure (Answer command) → Async Outcome}
    (consistent : Consistent env store) (credentialed : Credentialed env store (.call command next))
    (executed : exec env command choice store = some (after, reply)) : Consistent env after := by
  obtain ⟨⟨party, covered, owned⟩, ready, view, follows, holds⟩ := credentialed
  have issued : Issues env party command := owned.1
  have called : (sight env).allowed view command := follows.1
  rcases exec_store executed with rfl | rfl
  · exact consistent
  cases command with
  | insertDeployment row bundle hash =>
    refine ⟨?_, nofun, nofun, fun queued => ?_⟩
    · rintro _ ⟨⟩
      exact ⟨bundle, rfl, issued.2.2.symm⟩
    · rw [Store.status, effect, Option.map_some, issued.2.1] at queued
      contradiction
  | updateStatus status detail =>
    refine ⟨?_, ?_, ?_, ?_⟩
    · intro updated same
      obtain ⟨row, present, rfl⟩ := Option.map_eq_some_iff.mp same
      exact consistent.token row present
    · intro missing
      exact consistent.secret (Option.map_eq_none_iff.mp missing)
    · intro missing
      exact consistent.worker (Option.map_eq_none_iff.mp missing)
    · intro written down
      have unwritten := (ready down).1 detail
      cases present : store.deployment with
      | none => simp [Store.status, effect, present] at written
      | some row =>
        have same : status = .ready := by simpa [Store.status, effect, present] using written
        exact unwritten (by rw [same])
  | storeAgent bundle hash =>
    have stored := storeAgent_allowed called holds
    refine ⟨?_, ?_, ?_, ?_⟩
    · intro updated same
      obtain ⟨row, present, rfl⟩ := Option.map_eq_some_iff.mp same
      obtain ⟨old, found, agrees⟩ := consistent.token row present
      refine ⟨bundle, by simp [effect, found], ?_⟩
      rw [found, Option.map_some, Option.some.injEq] at stored
      rw [← stored]
      exact agrees
    · intro missing
      exact Option.map_eq_none_iff.mpr (consistent.secret (Option.map_eq_none_iff.mp missing))
    · intro missing
      exact consistent.worker (Option.map_eq_none_iff.mp missing)
    · intro written
      cases present : store.deployment <;> simp [Store.status, effect, present] at written
  | storeRotation bundle hash =>
    refine ⟨?_, ?_, ?_, ?_⟩
    · intro updated same
      obtain ⟨row, present, rfl⟩ := Option.map_eq_some_iff.mp same
      obtain ⟨old, found, -⟩ := consistent.token row present
      exact ⟨bundle, by simp [effect, found], issued.2.symm⟩
    · intro missing
      exact Option.map_eq_none_iff.mpr (consistent.secret (Option.map_eq_none_iff.mp missing))
    · intro missing
      exact consistent.worker (Option.map_eq_none_iff.mp missing)
    · intro written
      apply consistent.ready
      cases present : store.deployment with
      | none => simp [Store.status, effect, present] at written
      | some row => simpa [Store.status, effect, present] using written
  | uploadWorkerScript script =>
    have present := upload_present called holds
    exact ⟨consistent.token, consistent.secret, fun missing => absurd missing present, fun _ => nofun⟩
  | markRevoked hash =>
    obtain rfl : party = .workflow .revoke := issued
    exact covered.elim
  | deleteDeployment =>
    obtain rfl : party = .request .deleteDeployment := issued
    exact covered.elim
  | _ => exact ⟨consistent.token, consistent.secret, consistent.worker, consistent.ready⟩

theorem worker_step (executed : exec env command choice store = some (after, reply))
    (down : after.worker = none) : store.worker = none := by
  rcases exec_store executed with rfl | rfl
  · exact down
  · cases command with
    | uploadWorkerScript script => cases down
    | _ => exact down

/-- The digest and the token that were stored still are. -/
structure Keeps (store after : Store) : Prop where
  row : ∀ hash, store.rowHash = some hash → after.rowHash = some hash
  token : ∀ token, store.secret.map (·.subscriptionToken) = some token →
    after.secret.map (·.subscriptionToken) = some token

theorem Keeps.present (keeps : Keeps store after) (present : store.deployment.isSome) : after.deployment.isSome := by
  obtain ⟨row, found⟩ := Option.isSome_iff_exists.mp present
  have same := keeps.row row.subscriptionTokenHash (by simp [Store.rowHash, found])
  obtain ⟨row, found, -⟩ := Option.map_eq_some_iff.mp same
  simp [found]

/-- The batch of a rotation alone changes the row's digest and the bundle's token. -/
theorem keeps_step {party : Party} {view : Sight} (covered : party.credential) (issued : Issues env party command)
    (consistent : Consistent env store) (called : (sight env).allowed view command) (holds : view.Holds store)
    (other : ∀ bundle hash, command ≠ .storeRotation bundle hash)
    (executed : exec env command choice store = some (after, reply)) : Keeps store after := by
  rcases exec_store executed with rfl | rfl
  · exact ⟨fun _ => id, fun _ => id⟩
  cases command with
  | insertDeployment row bundle hash =>
    rcases exec_inserts executed with same | missing
    · rw [same]
      exact ⟨fun _ => id, fun _ => id⟩
    · exact ⟨fun _ => by simp [Store.rowHash, missing], fun _ => by simp [consistent.secret missing]⟩
  | updateStatus status detail =>
    exact ⟨fun _ => by simp [Store.rowHash, effect, Function.comp_def], fun _ => id⟩
  | storeAgent bundle hash =>
    refine ⟨fun _ => by simp [Store.rowHash, effect, Function.comp_def], fun token read => ?_⟩
    have stored := storeAgent_allowed called holds
    rw [read, Option.some.injEq] at stored
    obtain ⟨old, found, -⟩ := Option.map_eq_some_iff.mp read
    simp [effect, found, stored]
  | storeRotation bundle hash => exact absurd rfl (other bundle hash)
  | markRevoked hash =>
    obtain rfl : party = .workflow .revoke := issued
    exact covered.elim
  | deleteDeployment =>
    obtain rfl : party = .request .deleteDeployment := issued
    exact covered.elim
  | _ => exact ⟨fun _ => id, fun _ => id⟩

/-- What a task has seen stays true while the row and the bundle keep their copies and the Worker its own. -/
theorem Sight.Holds.keeps {view : Sight} (holds : view.Holds store) (keeps : Keeps store after)
    (worker : ∀ hash, view = .uploaded hash → after.worker = store.worker) : view.Holds after := by
  cases view with
  | seen row token =>
    exact ⟨fun hash seen => keeps.row hash (holds.1 hash seen), fun read seen => keeps.token read (holds.2 read seen)⟩
  | drawn token => exact keeps.present holds
  | uploaded hash =>
    rw [Sight.Holds, Store.workerHash, worker hash rfl]
    exact holds

/-- An answer shows what is stored. -/
theorem Sight.Holds.next {party : Party} {view : Sight} (covered : party.credential) (issued : Issues env party command)
    (consistent : Consistent env store) (called : (sight env).allowed view command) (holds : view.Holds store)
    (executed : exec env command choice store = some (after, reply)) :
    ((sight env).next view command reply).Holds after := by
  by_cases rotates : ∃ bundle hash, command = .storeRotation bundle hash
  · obtain ⟨bundle, hash, rfl⟩ := rotates
    obtain rfl := storeRotation_allowed called
    exact Sight.holds_none after
  have kept : Keeps store after :=
    keeps_step covered issued consistent called holds (fun _ _ same => rotates ⟨_, _, same⟩) executed
  cases view with
  | uploaded hash => exact Sight.holds_none after
  | drawn token =>
    have same : (Sight.drawn token).Holds after := kept.present holds
    cases command with
    | uploadWorkerScript script =>
      cases reply with
      | error error => exact Sight.holds_none after
      | ok value =>
        obtain ⟨-, rfl⟩ := exec_answered executed
        exact congrArg some called
    | _ => exact same
  | seen row token =>
    have same : (Sight.seen row token).Holds after := holds.keeps kept nofun
    cases command with
    | selectDeployment =>
      rcases reply with error | _ | found
      · exact same
      · exact same
      · obtain ⟨answered, rfl⟩ := exec_answered executed
        refine ⟨?_, holds.2⟩
        rintro _ ⟨⟩
        exact congrArg (Option.map (·.subscriptionTokenHash)) (show some found = after.deployment from answered).symm
    | selectSecret =>
      rcases reply with error | _ | found
      · exact same
      · exact same
      · obtain ⟨answered, rfl⟩ := exec_answered executed
        refine ⟨holds.1, ?_⟩
        rintro _ ⟨⟩
        exact congrArg (Option.map (·.subscriptionToken)) (show some found = after.secret from answered).symm
    | randomToken purpose =>
      cases reply with
      | error error => cases row <;> cases purpose <;> exact same
      | ok drawn =>
        cases row with
        | none => cases purpose <;> exact same
        | some hash =>
          cases purpose with
          | subscription =>
            obtain ⟨row, present, -⟩ := Option.map_eq_some_iff.mp (holds.1 hash rfl)
            exact kept.present (by simp [present])
          | _ => exact same
    | _ => exact same

theorem Credentialed.next {next : Except Failure (Answer command) → Async Outcome}
    (credentialed : Credentialed env store (.call command next)) (consistent : Consistent env store)
    (executed : exec env command choice store = some (after, reply)) :
    Credentialed env after (next reply) := by
  obtain ⟨⟨party, covered, owned⟩, ready, view, follows, holds⟩ := credentialed
  refine ⟨⟨party, covered, owned.next trivial⟩, fun down => ?_, _, follows.2 reply,
    Sight.Holds.next covered owned.1 consistent follows.1 holds executed⟩
  refine (ready (worker_step executed down)).next ?_
  cases reply with
  | error error => cases command <;> trivial
  | ok value =>
    obtain ⟨-, rfl⟩ := exec_answered executed
    cases command with
    | uploadWorkerScript script => cases down
    | _ => trivial

/-! ## Runs -/

theorem credential_closed (party : Party) (action : WorkflowAction) (covered : party.credential)
    (starts : party.starts action) : (Party.workflow action).credential := by
  cases action with
  | prepare | finalize => trivial
  | revoke =>
    cases party with
    | creation => cases starts
    | workflow action => cases action <;> exact starts
    | request operation => cases operation <;> simp_all [Party.starts, Party.credential]

theorem credential_request {operation : Operation}
    (started : operation ≠ .revokeDeployment ∧ operation ≠ .deleteDeployment) :
    (Party.request operation).credential := by
  cases operation <;> simp_all [Party.credential]

theorem coordinated_run {events : List Event} {world : World}
    (run : (host env).machine.Run (Coordinated env) (initial env) events world) :
    Consistent env world.store ∧ ∀ task ∈ world.tasks, Credentialed env world.store task := by
  refine Host.preserves (Consistent env) (Credentialed env) ?_ ?_ run ?_
  · intro world operation _ started
    exact credentialed_code world.store (credential_request started)
  · intro world position choice command next after reply consistent credentialed coordinated atPosition executed
    have acting := credentialed _ (List.mem_of_getElem? atPosition)
    obtain ⟨party, covered, owned⟩ := acting.owned
    refine ⟨consistent_step consistent acting executed, acting.next consistent executed, ?_, ?_⟩
    · intro task spawned
      obtain ⟨action, rfl, rfl⟩ := mem_spawns spawned
      exact credentialed_code after (credential_closed party action covered owned.1)
    · intro other task different atOther
      obtain ⟨held, ready, view, follows, holds⟩ := credentialed task (List.mem_of_getElem? atOther)
      refine ⟨held, fun down => ready (worker_step executed down), ?_⟩
      by_cases rotates : ∃ bundle hash, command = .storeRotation bundle hash
      · obtain ⟨bundle, hash, rfl⟩ := rotates
        have rereads := (coordinated.stores bundle hash next atPosition).2 other task different atOther
        exact ⟨_, rereads, Sight.holds_none after⟩
      · obtain ⟨own, going, seen⟩ := acting.sees
        have kept := keeps_step covered owned.1 consistent going.1 seen (fun _ _ same => rotates ⟨_, _, same⟩) executed
        refine ⟨view, follows, holds.keeps kept ?_⟩
        rintro hash rfl
        by_cases refused : choice.delivery = .refused ∧ ∀ purpose, command ≠ .randomToken purpose
        · rw [exec_refused executed refused.1 refused.2]
        rcases exec_store executed with rfl | rfl
        · rfl
        cases command with
        | uploadWorkerScript script =>
          have taken : choice.delivery ≠ .refused := fun same => refused ⟨same, nofun⟩
          exact absurd (awaits_of_uploaded follows)
            (coordinated.uploads script next atPosition taken other task hash different atOther)
        | _ => rfl
  · refine ⟨⟨nofun, fun _ => rfl, fun _ => rfl, nofun⟩, fun task member => ?_⟩
    rw [List.mem_singleton.mp member]
    have covered : Party.creation.credential := trivial
    exact credentialed_code _ covered

/-- The Worker has the row's digest, or a rotation is about to bring the row up to the Worker. -/
def Agrees (world : World) : Prop :=
  ∀ script, world.store.worker = some script → world.store.rowHash = some script.subTokenHash ∨
    ∃ task ∈ world.tasks, AwaitsRotation script.subTokenHash task

theorem agrees_step {world world' : World} {position : ℕ} (consistent : Consistent env world.store)
    (credentialed : ∀ task ∈ world.tasks, Credentialed env world.store task) (agrees : Agrees world)
    (coordinated : CoordinatedAct env world position choice)
    (stepped : (host env).machine.step? world (.act position choice) = some world') : Agrees world' := by
  obtain ⟨command, next, after, reply, atPosition, executed, rfl⟩ := Host.step?_act_iff.mp stepped
  obtain ⟨⟨party, covered, owned⟩, -, view, follows, holds⟩ := credentialed _ (List.mem_of_getElem? atPosition)
  replace executed : exec env command choice world.store = some (after, reply) := executed
  by_cases rotates : ∃ bundle hash, command = .storeRotation bundle hash
  -- the row comes up to the Worker
  · obtain ⟨bundle, hash, rfl⟩ := rotates
    obtain rfl := storeRotation_allowed follows.1
    obtain rfl := exec_taken executed (coordinated.stores bundle hash next atPosition).1
      fun _ _ _ => by rintro ⟨⟩
    intro script uploaded
    have before : world.store.worker = some script := uploaded
    obtain ⟨row, present⟩ := Option.ne_none_iff_exists'.mp fun missing : world.store.deployment = none => by
      simp [consistent.worker missing] at before
    have same : world.store.workerHash = some hash := holds
    left
    simpa [Store.rowHash, Store.workerHash, effect, present, before, eq_comm] using same
  have kept : Keeps world.store after :=
    keeps_step covered owned.1 consistent follows.1 holds (fun _ _ same => rotates ⟨_, _, same⟩) executed
  -- a rotation that was about to be stored still is
  have unmoved (worker : after.worker = world.store.worker) :
      Agrees ⟨after, world.tasks.set position (next reply) ++ (host env).spawns command choice⟩ := by
    intro script uploaded
    refine (agrees script (worker ▸ uploaded)).imp (kept.row _) ?_
    rintro ⟨task, member, bundle, awaits⟩
    obtain ⟨index, atIndex⟩ := List.mem_iff_getElem?.mp member
    have different : index ≠ position := by
      rintro rfl
      obtain rfl := Option.some.inj (atPosition.symm.trans atIndex)
      exact rotates ⟨bundle, _, Option.some.inj awaits⟩
    refine ⟨task, List.mem_append_left _ (List.mem_of_getElem? (i := index) ?_), bundle, awaits⟩
    rw [List.getElem?_set_ne different.symm]
    exact atIndex
  by_cases refused : choice.delivery = .refused ∧ ∀ purpose, command ≠ .randomToken purpose
  · obtain rfl := exec_refused executed refused.1 refused.2
    exact unmoved rfl
  rcases exec_store executed with rfl | rfl
  · exact unmoved rfl
  cases command with
  | uploadWorkerScript script =>
    rintro _ ⟨⟩
    rcases (upload_allowed follows.1 holds).2 with same | ⟨token, rfl, drawn⟩
    · exact .inl same
    · have goes : (next (.ok ())).Follows (sight env) Sight.ends (.uploaded script.subTokenHash) :=
        drawn ▸ follows.2 (.ok ())
      have awaits := awaits_of_uploaded goes
      have unlost := coordinated.answered script next _ atPosition awaits
      cases delivery : choice.delivery with
      | lost => exact absurd delivery unlost
      | refused => exact absurd ⟨delivery, fun _ => by rintro ⟨⟩⟩ refused
      | answered =>
        have replied : reply = .ok () := by
          simpa [exec, deliver, Delivery.deliver, delivery, eq_comm] using executed
        have bound := (List.getElem?_eq_some_iff.mp atPosition).1
        refine .inr ⟨next reply, List.mem_append_left _ (List.mem_set bound _), ?_⟩
        rw [replied]
        exact awaits
  | deleteDeployment =>
    obtain rfl : party = .request .deleteDeployment := owned.1
    exact covered.elim
  | _ => exact unmoved rfl

/-- The task is between the upload and the batch of a rotation. -/
def awaitsRotation (task : Async Outcome) : Bool :=
  match task.awaits with
  | some (.storeRotation ..) => true
  | _ => false

/-- A check that is enough for `Coordinated`: a rotation is stored while no other task is in flight. -/
def coordinatedCheck (world : World) : Event → Bool
  | .start operation => decide (operation ≠ .revokeDeployment ∧ operation ≠ .deleteDeployment)
  | .act position choice =>
    match world.tasks[position]? with
    | some (.call (.uploadWorkerScript _) next) =>
      (decide (choice.delivery ≠ .lost) || !awaitsRotation (next (.ok ()))) &&
      (decide (choice.delivery = .refused) || (world.tasks.eraseIdx position).all (!awaitsRotation ·))
    | some (.call (.storeRotation ..) _) =>
      decide (choice.delivery ≠ .refused) && (world.tasks.eraseIdx position).all (!·.inFlight)
    | _ => true

theorem awaitsRotation_of_awaits {hash : String} (awaits : AwaitsRotation hash task) : awaitsRotation task = true := by
  obtain ⟨bundle, awaits⟩ := awaits
  rw [awaitsRotation, awaits]

/-- A task that has ended writes nothing any more. -/
theorem rereads_of_ended (ended : task.inFlight = false) : Rereads env task := by
  cases task with
  | done value | fail error => trivial
  | call command next => contradiction

theorem coordinated_of_check (world : World) (event : Event) (passed : coordinatedCheck world event = true) :
    Coordinated env world event := by
  cases event with
  | start operation =>
    have inScope : operation ≠ .revokeDeployment ∧ operation ≠ .deleteDeployment := of_decide_eq_true passed
    exact inScope
  | act position choice =>
    refine ⟨?_, ?_, ?_⟩
    · intro script next atPosition taken other task hash different atOther awaits
      simp only [coordinatedCheck, atPosition, taken, decide_false, Bool.false_or, Bool.and_eq_true,
        List.all_eq_true] at passed
      have among := List.mem_eraseIdx_iff_getElem?.mpr ⟨other, different, atOther⟩
      simpa [awaitsRotation_of_awaits awaits] using passed.2 task among
    · intro script next hash atPosition awaits lost
      simp [coordinatedCheck, atPosition, lost, awaitsRotation_of_awaits awaits] at passed
    · intro bundle hash next atPosition
      simp only [coordinatedCheck, atPosition, Bool.and_eq_true, decide_eq_true_eq, List.all_eq_true] at passed
      refine ⟨passed.1, fun other task different atOther => rereads_of_ended ?_⟩
      simpa using passed.2 task (List.mem_eraseIdx_iff_getElem?.mpr ⟨other, different, atOther⟩)

end

/-! ## The copies agree -/

/-- In a coordinated run the three copies of the credential agree in every state in which the
deployment is ready and nothing is in flight. -/
theorem subscription_credential_agrees (env : Env) {events : List Event} {world : World}
    (reached : (host env).machine.Run (Coordinated env) (initial env) events world) (quiet : world.Quiet)
    (ready : world.store.status = some .ready) :
    ∃ row bundle script, world.store.deployment = some row ∧ world.store.secret = some bundle ∧
      world.store.worker = some script ∧
      env.sha256 bundle.subscriptionToken = row.subscriptionTokenHash ∧
      row.subscriptionTokenHash = script.subTokenHash := by
  have agrees : Agrees world := by
    have fresh : Agrees (initial env) := fun script uploaded => nomatch uploaded
    refine reached.preserves_reached Agrees ?_ fresh
    intro before world event world' reached agrees coordinated stepped
    obtain ⟨consistent, credentialed⟩ := coordinated_run reached
    cases event with
    | start operation =>
      rw [Host.step?_start, Option.some.injEq] at stepped
      subst stepped
      intro script uploaded
      refine (agrees script uploaded).imp id ?_
      rintro ⟨task, member, awaits⟩
      exact ⟨task, List.mem_append_left _ member, awaits⟩
    | act position choice => exact agrees_step consistent credentialed agrees coordinated stepped
  obtain ⟨consistent, -⟩ := coordinated_run reached
  obtain ⟨row, present, status⟩ := Option.map_eq_some_iff.mp ready
  obtain ⟨bundle, found, token⟩ := consistent.token row present
  obtain ⟨script, uploaded⟩ := Option.ne_none_iff_exists'.mp (consistent.ready ready)
  refine ⟨row, bundle, script, present, found, uploaded, token, ?_⟩
  rcases agrees script uploaded with same | ⟨task, member, bundle, awaits⟩
  · simpa [Store.rowHash, present] using same
  · have finished := quiet task member
    simp [inFlight, awaits] at finished

namespace Sample

/-- The answer to the first upload of the finalize run is lost, and the step is retried. A first rotation,
task 4, fails at its upload; a second one, task 5, is stored, and the answer to its batch is lost. -/
def rotated : List Event :=
  bootstrapped ++ answers 3 5 ++ .act 3 { delivery := .lost } :: answers 3 9 ++
    .start .rotateSubscriptionToken :: answers 4 4 ++ .act 4 { drawn := rotatedToken } :: answers 4 1 ++
    .act 4 { delivery := .refused } ::
    .start .rotateSubscriptionToken :: answers 5 4 ++ .act 5 { drawn := replacementToken } :: answers 5 2 ++
    ([.act 5 { delivery := .lost }] : List Event)

end Sample

set_option maxRecDepth 2000 in
theorem subscription_credential_agrees_sample : ∃ world row bundle script,
    (host Sample.env).machine.Run (Coordinated Sample.env) (initial Sample.env) Sample.rotated world ∧
    world.store.deployment = some row ∧ world.store.secret = some bundle ∧ world.store.worker = some script ∧
    Sample.env.sha256 bundle.subscriptionToken = row.subscriptionTokenHash ∧
    row.subscriptionTokenHash = script.subTokenHash := by
  obtain ⟨world, replayed, finished, ready⟩ : ∃ world,
      (host Sample.env).machine.checked? coordinatedCheck (initial Sample.env) Sample.rotated = some world ∧
      world.tasks.all (!·.inFlight) = true ∧ world.store.status = some .ready :=
    ⟨_, rfl, rfl, rfl⟩
  have reached : (host Sample.env).machine.Run (Coordinated Sample.env) (initial Sample.env) Sample.rotated world :=
    .of_checked coordinated_of_check replayed
  obtain ⟨row, bundle, script, agrees⟩ :=
    subscription_credential_agrees Sample.env reached (World.quiet_of_all finished) ready
  exact ⟨world, row, bundle, script, reached, agrees⟩

namespace Sample

/-- The same rotation, whose batch is refused after its upload. -/
def rotationHalfStored : List Event :=
  bootstrapped ++ answers 3 11 ++ .start .rotateSubscriptionToken :: answers 4 4 ++
    .act 4 { drawn := rotatedToken } :: answers 4 2 ++ ([.act 4 { delivery := .refused }] : List Event)

end Sample

/-- The Worker then opens to a token that nobody was shown, and the row has the digest of the old one. -/
theorem credential_apart : ∃ world,
    (host Sample.env).machine.Run Machine.Free (initial Sample.env) Sample.rotationHalfStored world ∧
    world.Quiet ∧ world.store.status = some .ready ∧ world.store.rowHash ≠ world.store.workerHash := by
  obtain ⟨world, replayed, finished, ready, row, worker⟩ : ∃ world,
      (host Sample.env).machine.replay? (initial Sample.env) Sample.rotationHalfStored = some world ∧
      world.tasks.all (!·.inFlight) = true ∧ world.store.status = some .ready ∧
      world.store.rowHash = some (Sample.sha256 Sample.subscriptionToken) ∧
      world.store.workerHash = some (Sample.sha256 Sample.rotatedToken) :=
    ⟨_, rfl, rfl, rfl, rfl, rfl⟩
  refine ⟨world, Machine.Run.free_iff_replay.mpr replayed, World.quiet_of_all finished, ready, ?_⟩
  rw [row, worker]
  decide

end OmniControlPlane.Deployment
