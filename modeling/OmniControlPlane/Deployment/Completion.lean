import OmniControlPlane.Deployment.Operations
import OmniControlPlane.Lib.Typestate

/-! # Completing a bootstrap

Requests of the agent complete one bootstrap, any number at a time and with any payloads. A request consumes
the token, stores the bundle and the agent's token in a second call, and creates the finalize workflow in a third.
The run of that workflow is left out here; that it was created is recorded.
-/

namespace OmniControlPlane.Deployment.Completion

open Lib Machine Task

/-- `workflows` are the instances created so far; no table has them. -/
structure Store where
  rows : Deployment.Store
  workflows : List WorkflowAction := []
deriving DecidableEq, Repr

structure Request where
  token : String
  payload : AgentCompletePayload
deriving DecidableEq, Repr

def created (command : Command) (workflows : List WorkflowAction) : List WorkflowAction :=
  match command with
  | .createWorkflow action => workflows ++ [action]
  | _ => workflows

section

variable (env : Env)

def exec (command : Command) (choice : Choice) (store : Store) : Option (Store × Except Failure (Answer command)) :=
  (Deployment.exec env command choice store.rows).map fun result =>
    (⟨result.1, if choice.delivery = .refused then store.workflows else created command store.workflows⟩, result.2)

def host : Host Failure Answer Outcome Store Choice Request where
  program request := completeBootstrap env request.token request.payload
  exec := exec env
  spawns _ _ := []

end

abbrev World := Lib.World Failure Answer Outcome Store

abbrev Event := Lib.Event Request Choice

/-- The request passes the checks of its payload. -/
def Accepts (env : Env) (request : Request) : Prop :=
  request.payload.deploymentId = env.deploymentId ∧ request.payload.singBoxVersion = env.singBoxVersion

instance (env : Env) (request : Request) : Decidable (Accepts env request) :=
  inferInstanceAs (Decidable (_ ∧ _))

/-- A deployment and its bundle, with a bootstrap token of that digest. -/
structure Issued where
  rows : Deployment.Store
  deployment : DeploymentRow
  secret : SecretBundle
  tokenHash : String

namespace Issued

variable (env : Env) (issued : Issued)

/-- The token is out and not consumed. -/
def untouched : Store :=
  ⟨{ issued.rows with deployment := issued.deployment, secret := issued.secret, bootstrap := some ⟨issued.tokenHash, false⟩ },
    []⟩

/-- The token is consumed, and nothing else has happened. -/
def consumed : Store :=
  ⟨{ issued.rows with deployment := issued.deployment, secret := issued.secret, bootstrap := some ⟨issued.tokenHash, true⟩ },
    []⟩

/-- The token is consumed, the merged bundle and the agent's token are stored, and these workflows were created. -/
def stored (request : Request) (workflows : List WorkflowAction) : Store :=
  ⟨{ issued.rows with
      deployment := some { issued.deployment with
        agentTokenHash := some (env.sha256 request.payload.agentToken), status := .agentReady, statusDetail := none }
      secret := some (issued.secret.merge request.payload)
      bootstrap := some ⟨issued.tokenHash, true⟩ },
    workflows⟩

def completed (request : Request) : Store := issued.stored env request [.finalize]

/-- No request has begun. -/
def awaiting : World := ⟨issued.untouched, []⟩

end Issued

/-- Between the consumption and the creation of the workflow no call fails: the consumption is not without its answer where it
takes effect, the batch is answered, and the creation takes effect. -/
def Carries (command : Command) (choice : Choice) (store : Store) : Prop :=
  match command with
  | .consumeBootstrapToken tokenHash => store.rows.openBootstrap tokenHash = true → choice.delivery ≠ .lost
  | .storeAgent .. => choice.delivery = .answered
  | .createWorkflow _ => choice.delivery ≠ .refused
  | _ => True

/-- A request that has consumed the token and not yet created the workflow. -/
def midway (task : Async Outcome) : Bool :=
  match task.awaits with
  | some (.storeAgent ..) | some (.createWorkflow _) => true
  | _ => false

/-! ## What a request knows -/

inductive Stage where
  | waiting | consumed | stored | started | broken
deriving DecidableEq, Repr

structure Phase where
  request : Request
  read : Option SecretBundle := none
  stage : Stage := .waiting

section

variable (env : Env)

def completion : Protocol Failure Answer Phase where
  allowed phase
    | .selectBootstrap _ | .selectSecret => phase.stage = .waiting
    | .consumeBootstrapToken tokenHash => phase.stage = .waiting ∧ phase.read ≠ none ∧ Accepts env phase.request ∧
        tokenHash = env.sha256 phase.request.token
    | .storeAgent bundle agentHash => phase.stage = .consumed ∧
        (∃ secret, phase.read = some secret ∧ bundle = secret.merge phase.request.payload) ∧
        agentHash = env.sha256 phase.request.payload.agentToken
    | .createWorkflow action => phase.stage = .stored ∧ action = .finalize
    | .external _ => phase.stage = .started
    | _ => False
  next phase command answer :=
    match command, answer with
    | .selectSecret, .ok secret => { phase with read := secret }
    | .consumeBootstrapToken _, .ok count => if count = 1 then { phase with stage := .consumed } else phase
    | .storeAgent .., .ok () => { phase with stage := .stored }
    | .storeAgent .., .error _ => { phase with stage := .broken }
    | .createWorkflow _, _ => { phase with stage := .started }
    | _, _ => phase

/-- A request succeeds when it has created the workflow, and none ends midway unless a call failed there. -/
def Ends (phase : Phase) : Except Failure Outcome → Prop
  | .ok _ => phase.stage = .started
  | .error _ => phase.stage ≠ .consumed ∧ phase.stage ≠ .stored

variable {env}

theorem follows_throwIf {refused : Prop} [Decidable refused] {error : Failure} {rest : Unit → Async Outcome} {phase : Phase}
    (stage : phase.stage = .waiting) (kept : ¬ refused → (rest ()).Follows (completion env) Ends phase) :
    (throwIf refused error >>= rest).Follows (completion env) Ends phase := by
  refine (follows_bind _ _).mpr ?_
  rw [Task.throwIf]
  split
  · exact ⟨by simp [stage], by simp [stage]⟩
  · next other => exact kept other

/-- The record of the token is read without a change of the phase. -/
theorem follows_getBootstrapRecord {rest : Unit → Async Outcome} {token : String} {phase : Phase}
    (stage : phase.stage = .waiting) (kept : (rest ()).Follows (completion env) Ends phase) :
    (discard (getBootstrapRecord env token) >>= rest).Follows (completion env) Ends phase := by
  have ended (error : Failure) : Ends phase (.error error) := ⟨by simp [stage], by simp [stage]⟩
  refine (follows_bind _ _).mpr ?_
  change (getBootstrapRecord env token >>= fun _ => pure ()).Follows _ _ _
  refine (follows_bind _ _).mpr ((follows_bind _ _).mpr ?_)
  rw [Task.throwIf]
  split
  · exact ended (.http 401 "invalid_bootstrap_token" "Unauthorized")
  · refine .after stage (fun row => ?_) fun error => ended error
    cases row with
    | none => exact ended (.http 401 "invalid_bootstrap_token" "Unauthorized")
    | some row => exact kept

/-- From the consumption on. -/
theorem follows_consume {request : Request} {bundle : SecretBundle} (accepted : Accepts env request) :
    (do
      let consumed ← await (.consumeBootstrapToken (env.sha256 request.token))
      throwIf (consumed ≠ (1 : ℕ)) (.http 409 "bootstrap_used" "Bootstrap token was already consumed")
      await (.storeAgent (bundle.merge request.payload) (env.sha256 request.payload.agentToken))
      startWorkflow .finalize
      external .audit
      pure (.response 200 "finalizing" none) : Async Outcome).Follows (completion env) Ends
        { request := request, read := some bundle } := by
  have closing : (do
      startWorkflow .finalize
      external .audit
      pure (.response 200 "finalizing" none) : Async Outcome).Follows (completion env) Ends
        { request := request, read := some bundle, stage := .stored } := by
    refine (follows_bind _ _).mpr (.after ⟨rfl, rfl⟩ (fun _ => ?_) fun _ => ⟨nofun, nofun⟩)
    refine (follows_perform _).mpr ⟨rfl, fun answer => ?_⟩
    cases answer with
    | error => exact ⟨nofun, nofun⟩
    | ok _ => exact .after rfl (fun _ => rfl) fun _ => ⟨nofun, nofun⟩
  refine .after ⟨rfl, nofun, accepted, rfl⟩ (fun count => ?_) fun _ => ⟨nofun, nofun⟩
  by_cases one : count = 1
  · subst one
    exact .after ⟨rfl, ⟨bundle, rfl, rfl⟩, rfl⟩ (fun _ => closing) fun _ => ⟨nofun, nofun⟩
  · rw [show (completion env).next { request := request, read := some bundle }
      (.consumeBootstrapToken (env.sha256 request.token)) (.ok count) = { request := request, read := some bundle }
        from if_neg one]
    exact follows_throwIf rfl fun kept => absurd one kept

theorem follows_completeBootstrap (request : Request) :
    (completeBootstrap env request.token request.payload).Follows (completion env) Ends { request := request } := by
  refine follows_getBootstrapRecord ?_ ?_
  · rfl
  refine follows_throwIf ?_ fun matching => ?_
  · rfl
  have accepted : Accepts env request :=
    ⟨by_contra fun other => matching (.inl other), by_contra fun other => matching (.inr other)⟩
  refine .after rfl (fun secret => ?_) fun _ => ⟨nofun, nofun⟩
  cases secret with
  | none => exact ⟨nofun, nofun⟩
  | some bundle => exact follows_consume accepted

theorem plays : (host env).Plays (completion env) Ends (fun request => { request := request }) (fun _ _ => []) where
  program request := follows_completeBootstrap request
  spawns _ _ := .nil

end

/-! ## One call -/

section

variable {env : Env} {issued : Issued} {store store' : Store} {command : Command} {choice : Choice}
  {reply : Except Failure (Answer command)} {phase : Phase}

def effect (choice : Choice) (store : Store) (command : Command) : Store :=
  ⟨Deployment.effect choice store.rows command, created command store.workflows⟩

/-- A call of a request is refused, takes effect with its answer lost, or is answered. -/
theorem exec_cases (called : (completion env).allowed phase command)
    (executed : exec env command choice store = some (store', reply)) :
    (choice.delivery = .refused ∧ store' = store ∧ reply = .error .remote) ∨
    (choice.delivery = .lost ∧ store' = effect choice store command ∧ reply = .error .remote) ∨
    (choice.delivery = .answered ∧ store' = effect choice store command ∧
      reply = .ok (Deployment.answer choice store.rows command)) := by
  have remote : Deployment.exec env command choice store.rows = some (deliver command choice store.rows) := by
    cases command with
    | randomToken | insertDeployment => exact called.elim
    | _ => rfl
  rw [exec, remote, Option.map_some, deliver] at executed
  obtain ⟨stored, replied⟩ := Prod.mk.inj (Option.some.inj executed)
  cases delivery : choice.delivery with
  | refused =>
    rw [delivery] at stored replied
    exact .inl ⟨rfl, stored.symm, replied.symm⟩
  | lost =>
    rw [delivery] at stored replied
    exact .inr (.inl ⟨rfl, stored.symm, replied.symm⟩)
  | answered =>
    rw [delivery] at stored replied
    exact .inr (.inr ⟨rfl, stored.symm, replied.symm⟩)

/-- What the request that has consumed the token has done so far. -/
def Advanced (env : Env) (issued : Issued) (store : Store) (phase : Phase) : Prop :=
  match phase.stage with
  | .consumed => store = issued.consumed ∧ phase.read = some issued.secret
  | .stored => store = issued.stored env phase.request []
  | .started => store = issued.completed env phase.request
  | .waiting | .broken => False

/-- The store is untouched and no request has got further than reading, or one has consumed the token. -/
inductive Kept (env : Env) (issued : Issued) (store : Store) (held : List Phase) : Prop
  | untouched (same : store = issued.untouched)
      (waiting : ∀ phase ∈ held, phase.stage = .waiting ∧ (phase.read = none ∨ phase.read = some issued.secret))
  | taken (position : ℕ) (phase : Phase) (inPhase : held[position]? = some phase)
      (others : ∀ other found, other ≠ position → held[other]? = some found → found.stage = .waiting)
      (accepted : Accepts env phase.request) (opened : env.sha256 phase.request.token = issued.tokenHash)
      (advanced : Advanced env issued store phase)

variable {held : List Phase} {position : ℕ}

theorem Advanced.consumes (advanced : Advanced env issued store phase) :
    store.rows.bootstrap = some ⟨issued.tokenHash, true⟩ := by
  unfold Advanced at advanced
  split at advanced
  · rw [advanced.1]
    rfl
  · rw [advanced]
    rfl
  · rw [advanced]
    rfl
  · contradiction
  · contradiction

/-- Consuming a token that is not open changes nothing. -/
theorem effect_consume_closed {tokenHash : String} (closed : store.rows.openBootstrap tokenHash = false) :
    effect choice store (.consumeBootstrapToken tokenHash) = store := by
  obtain ⟨⟨deployment, secret, bootstrap, worker, tokens⟩, workflows⟩ := store
  cases bootstrap with
  | none => rfl
  | some token =>
    obtain ⟨digest, consumed⟩ := token
    by_cases same : digest = tokenHash
    · have used : consumed = true := by simpa [Store.openBootstrap, same] using closed
      simp [effect, Deployment.effect, created, same, used]
    · simp [effect, Deployment.effect, created, same]

/-- A request that goes on waiting keeps what holds. -/
theorem Kept.waits (kept : Kept env issued store held) (inPhase : held[position]? = some phase)
    (waiting : phase.stage = .waiting) {phase' : Phase} (still : phase'.stage = .waiting)
    (read : store = issued.untouched → phase.read = none ∨ phase.read = some issued.secret →
      phase'.read = none ∨ phase'.read = some issued.secret) :
    Kept env issued store (held.set position phase' ++ []) := by
  cases kept with
  | untouched same all =>
    refine .untouched same fun found member => ?_
    rcases Host.mem_set_append member with rfl | old | spawned
    · exact ⟨still, read same (all phase (List.mem_of_getElem? inPhase)).2⟩
    · exact all found old
    · contradiction
  | taken taker busy inBusy others accepted opened advanced =>
    have different : position ≠ taker := by
      rintro rfl
      obtain rfl := Option.some.inj (inPhase.symm.trans inBusy)
      simp only [Advanced, waiting] at advanced
    refine .taken taker busy ?_ (fun other found distinct atOther => ?_) accepted opened advanced
    · rw [List.append_nil, List.getElem?_set_ne different, inBusy]
    · rcases Host.getElem?_set_append atOther with ⟨-, rfl⟩ | ⟨-, old⟩ | ⟨-, spawned⟩
      · exact still
      · exact others other found distinct old
      · contradiction

/-- A request that is past the reading is the one that has consumed the token. -/
theorem Kept.taker (kept : Kept env issued store held) (inPhase : held[position]? = some phase)
    (busy : phase.stage ≠ .waiting) :
    (Accepts env phase.request ∧ env.sha256 phase.request.token = issued.tokenHash) ∧ Advanced env issued store phase ∧
      ∀ other found, other ≠ position → held[other]? = some found → found.stage = .waiting := by
  cases kept with
  | untouched same all => exact absurd (all phase (List.mem_of_getElem? inPhase)).1 busy
  | taken taker found inFound others accepted opened advanced =>
    by_cases same : position = taker
    · subst same
      obtain rfl := Option.some.inj (inPhase.symm.trans inFound)
      exact ⟨⟨accepted, opened⟩, advanced, others⟩
    · exact absurd (others position phase same inPhase) busy

/-- The request that has consumed the token goes on. -/
theorem kept_taker {phase' : Phase} (inPhase : held[position]? = some phase)
    (others : ∀ other found, other ≠ position → held[other]? = some found → found.stage = .waiting)
    (token : Accepts env phase'.request ∧ env.sha256 phase'.request.token = issued.tokenHash)
    (advanced : Advanced env issued store phase') : Kept env issued store (held.set position phase' ++ []) := by
  refine .taken position phase' (Host.getElem?_set_append_self inPhase [] phase') (fun other found distinct atOther => ?_)
    token.1 token.2 advanced
  rcases Host.getElem?_set_append atOther with ⟨same, -⟩ | ⟨-, old⟩ | ⟨-, spawned⟩
  · exact absurd same distinct
  · exact others other found distinct old
  · contradiction

/-- Only an untouched token is open. -/
theorem Kept.open_untouched (kept : Kept env issued store held) {tokenHash : String}
    (opened : store.rows.openBootstrap tokenHash = true) :
    store = issued.untouched ∧ issued.tokenHash = tokenHash ∧
      ∀ phase ∈ held, phase.stage = .waiting ∧ (phase.read = none ∨ phase.read = some issued.secret) := by
  cases kept with
  | untouched same all =>
    subst same
    exact ⟨rfl, by simpa [Store.openBootstrap, Issued.untouched] using opened, all⟩
  | taken _ _ _ _ _ _ advanced => simp [Store.openBootstrap, advanced.consumes] at opened

/-- One call of any request. -/
theorem kept_next (kept : Kept env issued store held) (inPhase : held[position]? = some phase)
    (called : (completion env).allowed phase command) (carries : Carries command choice store)
    (executed : exec env command choice store = some (store', reply)) :
    Kept env issued store' (held.set position ((completion env).next phase command reply) ++ []) := by
  have cases := exec_cases called executed
  cases command with
  | selectBootstrap tokenHash =>
    have waiting : phase.stage = .waiting := called
    rcases cases with ⟨-, rfl, rfl⟩ | ⟨-, rfl, rfl⟩ | ⟨-, rfl, rfl⟩
    · exact kept.waits inPhase waiting waiting fun _ read => read
    · exact kept.waits inPhase waiting waiting fun _ read => read
    · exact kept.waits inPhase waiting waiting fun _ read => read
  | selectSecret =>
    have waiting : phase.stage = .waiting := called
    rcases cases with ⟨-, rfl, rfl⟩ | ⟨-, rfl, rfl⟩ | ⟨-, rfl, rfl⟩
    · exact kept.waits inPhase waiting waiting fun _ read => read
    · exact kept.waits inPhase waiting waiting fun _ read => read
    · refine kept.waits inPhase waiting waiting fun same _ => .inr ?_
      subst same
      rfl
  | consumeBootstrapToken tokenHash =>
    obtain ⟨waiting, reads, accepted, rfl⟩ := called
    cases opened : store.rows.openBootstrap (env.sha256 phase.request.token) with
    | false =>
      rw [effect_consume_closed opened] at cases
      rcases cases with ⟨-, rfl, rfl⟩ | ⟨-, rfl, rfl⟩ | ⟨-, rfl, rfl⟩
      · exact kept.waits inPhase waiting waiting fun _ read => read
      · exact kept.waits inPhase waiting waiting fun _ read => read
      · have unchanged : (completion env).next phase (.consumeBootstrapToken (env.sha256 phase.request.token))
            (.ok (Deployment.answer choice store'.rows (.consumeBootstrapToken (env.sha256 phase.request.token)))) =
              phase := by
          simp [completion, Deployment.answer, opened]
        rw [unchanged]
        exact kept.waits inPhase waiting waiting fun _ read => read
    | true =>
      rcases cases with ⟨-, rfl, rfl⟩ | ⟨lost, -, -⟩ | ⟨-, rfl, rfl⟩
      · exact kept.waits inPhase waiting waiting fun _ read => read
      · exact absurd lost (carries opened)
      · obtain ⟨rfl, digest, all⟩ := kept.open_untouched opened
        have read : phase.read = some issued.secret :=
          (all phase (List.mem_of_getElem? inPhase)).2.resolve_left reads
        have consumed : (completion env).next phase (.consumeBootstrapToken (env.sha256 phase.request.token))
            (.ok (Deployment.answer choice issued.untouched.rows
              (.consumeBootstrapToken (env.sha256 phase.request.token)))) = { phase with stage := .consumed } := by
          simp [completion, Deployment.answer, opened]
        rw [consumed]
        refine kept_taker inPhase (fun other found _ atOther => (all found (List.mem_of_getElem? atOther)).1)
          ⟨accepted, digest.symm⟩ ⟨?_, read⟩
        simp [effect, Deployment.effect, created, Issued.untouched, Issued.consumed, digest]
  | storeAgent bundle agentHash =>
    obtain ⟨stage, ⟨secret, read, rfl⟩, rfl⟩ := called
    obtain ⟨token, advanced, others⟩ := kept.taker inPhase (by simp [stage])
    simp only [Advanced, stage] at advanced
    obtain ⟨rfl, known⟩ := advanced
    obtain rfl := Option.some.inj (read.symm.trans known)
    rcases cases with ⟨refused, -⟩ | ⟨lost, -⟩ | ⟨-, rfl, rfl⟩
    · exact absurd (refused.symm.trans carries) nofun
    · exact absurd (lost.symm.trans carries) nofun
    · exact kept_taker inPhase others token rfl
  | createWorkflow action =>
    obtain ⟨stage, rfl⟩ := called
    obtain ⟨token, advanced, others⟩ := kept.taker inPhase (by simp [stage])
    simp only [Advanced, stage] at advanced
    subst advanced
    rcases cases with ⟨refused, -⟩ | ⟨-, rfl, rfl⟩ | ⟨-, rfl, rfl⟩
    · exact absurd refused carries
    · exact kept_taker inPhase others token rfl
    · exact kept_taker inPhase others token rfl
  | external call =>
    have stage : phase.stage = .started := called
    obtain ⟨token, advanced, others⟩ := kept.taker inPhase (by simp [stage])
    rcases cases with ⟨-, rfl, rfl⟩ | ⟨-, rfl, rfl⟩ | ⟨-, rfl, rfl⟩
    · exact kept_taker inPhase others token advanced
    · exact kept_taker inPhase others token advanced
    · exact kept_taker inPhase others token advanced
  | _ => exact called.elim

/-- A request stays the one it began as. -/
theorem next_request (env : Env) (phase : Phase) (command : Command) (reply : Except Failure (Answer command)) :
    ((completion env).next phase command reply).request = phase.request := by
  simp only [completion]
  split
  · rfl
  · split <;> rfl
  · rfl
  · rfl
  · rfl
  · rfl

end

/-! ## Runs -/

section

variable {env : Env} {issued : Issued} {events : List Event} {world : World}

/-- Every step of a run is one of its events. -/
theorem run_within {cond : World → Event → Prop} {source : World}
    (run : (host env).machine.Run cond source events world) :
    (host env).machine.Run (fun world event => cond world event ∧ event ∈ events) source events world := by
  induction run with
  | nil => exact .nil _
  | cons met stepped _ ih =>
    exact .cons ⟨met, List.mem_cons_self⟩ stepped
      (ih.mono fun _ _ both => ⟨both.1, List.mem_cons_of_mem _ both.2⟩)

theorem kept_run (run : (host env).machine.Run (Host.Acting Carries) issued.awaiting events world) :
    ∃ held, Host.Held (completion env) Ends held world ∧ Kept env issued world.store held ∧
      ∀ phase ∈ held, .start phase.request ∈ events := by
  have played : (host env).Plays (completion env) Ends (fun request => { request := request }) (fun _ _ => []) := plays
  have nothing : Kept env issued issued.awaiting.store [] := .untouched rfl fun _ member => absurd member List.not_mem_nil
  refine played.preserves (fun store held => Kept env issued store held ∧ ∀ phase ∈ held, .start phase.request ∈ events)
    ?_ ?_ (run_within run) ⟨[], .nil, nothing, fun _ member => absurd member List.not_mem_nil⟩
  · rintro world held request _ ⟨kept, began⟩ ⟨-, begins⟩
    refine ⟨?_, fun phase member => ?_⟩
    · cases kept with
      | untouched same all =>
        refine .untouched same fun phase member => ?_
        rcases List.mem_append.mp member with old | new
        · exact all phase old
        · rw [List.mem_singleton.mp new]
          exact ⟨rfl, .inl rfl⟩
      | taken taker busy inBusy others accepted opened advanced =>
        have bound := (List.getElem?_eq_some_iff.mp inBusy).1
        refine .taken taker busy ?_ (fun other found distinct atOther => ?_) accepted opened advanced
        · rw [List.getElem?_append_left bound, inBusy]
        · rcases List.mem_append.mp (List.mem_of_getElem? atOther) with old | new
          · rw [List.getElem?_append] at atOther
            split at atOther
            · exact others other found distinct atOther
            · rw [List.mem_singleton.mp (List.mem_of_getElem? atOther)]
          · rw [List.mem_singleton.mp new]
    · rcases List.mem_append.mp member with old | new
      · exact began phase old
      · rw [List.mem_singleton.mp new]
        exact begins
  · rintro world held position choice task command store reply phase _ ⟨kept, began⟩ ⟨carries, -⟩ atPosition awaits
      inPhase called executed
    refine ⟨kept_next kept inPhase called (carries.of_awaits atPosition awaits) executed, fun found member => ?_⟩
    rcases Host.mem_set_append member with rfl | old | spawned
    · rw [next_request]
      exact began phase (List.mem_of_getElem? inPhase)
    · exact began found old
    · contradiction

/-- A request that has consumed the token and not yet created the workflow is midway. -/
theorem midway_of_follows {task : Async Outcome} {phase : Phase} (follows : task.Follows (completion env) Ends phase)
    (stage : phase.stage = .consumed ∨ phase.stage = .stored) : midway task = true := by
  cases task with
  | done value => exact absurd follows (by rcases stage with stage | stage <;> simp [Follows, Ends, stage])
  | fail error => exact absurd follows (by rcases stage with stage | stage <;> simp [Follows, Ends, stage])
  | call command next =>
    have called := follows.1
    cases command with
    | storeAgent | createWorkflow => rfl
    | selectBootstrap | selectSecret | external =>
      rcases stage with stage | stage <;> exact absurd (stage.symm.trans called) nofun
    | consumeBootstrapToken => rcases stage with stage | stage <;> exact absurd (stage.symm.trans called.1) nofun
    | _ => exact called.elim

end

/-- As long as no call fails between the consumption of the token and the creation of the workflow: unless a request is just
there, the deployment is as it was and its token is not consumed, or a request with that token has stored what it sent and
created the workflow; and no second request succeeds. -/
theorem completed_or_untouched (env : Env) (issued : Issued) {events : List Event} {world : World}
    (run : (host env).machine.Run (Host.Acting Carries) issued.awaiting events world) :
    ((∀ task ∈ world.tasks, midway task = false) → world.store = issued.untouched ∨
      ∃ request, .start request ∈ events ∧ Accepts env request ∧ env.sha256 request.token = issued.tokenHash ∧
        world.store = issued.completed env request) ∧
    world.store.workflows.length ≤ 1 ∧
    ∀ (first second : ℕ) (outcome outcome' : Outcome), world.tasks[first]? = some (.done outcome) →
      world.tasks[second]? = some (.done outcome') → first = second := by
  obtain ⟨held, holds, kept, began⟩ := kept_run run
  refine ⟨fun settled => ?_, ?_, fun first second outcome outcome' atFirst atSecond => ?_⟩
  · cases kept with
    | untouched same => exact .inl same
    | taken position phase inPhase others accepted opened advanced =>
      obtain ⟨task, atPosition, follows⟩ := holds.task inPhase
      have still := settled task (List.mem_of_getElem? atPosition)
      cases stage : phase.stage with
      | consumed => simp [midway_of_follows follows (.inl stage)] at still
      | stored => simp [midway_of_follows follows (.inr stage)] at still
      | started =>
        simp only [Advanced, stage] at advanced
        exact .inr ⟨phase.request, began phase (List.mem_of_getElem? inPhase), accepted, opened, advanced⟩
      | waiting | broken => simp [Advanced, stage] at advanced
  · cases kept with
    | untouched same => simp [same, Issued.untouched]
    | taken position phase inPhase others accepted opened advanced =>
      cases stage : phase.stage with
      | consumed =>
        simp only [Advanced, stage] at advanced
        simp [advanced.1, Issued.consumed]
      | stored | started =>
        simp only [Advanced, stage] at advanced
        simp [advanced, Issued.completed, Issued.stored]
      | waiting | broken => simp [Advanced, stage] at advanced
  · obtain ⟨phase, inPhase, ended⟩ := holds.at atFirst
    obtain ⟨phase', inPhase', ended'⟩ := holds.at atSecond
    have started : phase.stage = .started := ended
    have started' : phase'.stage = .started := ended'
    by_contra distinct
    obtain ⟨-, -, others⟩ := kept.taker inPhase (by simp [started])
    have waiting := others second phase' (fun same => distinct same.symm) inPhase'
    exact absurd (started'.symm.trans waiting) nofun

instance (command : Command) (choice : Choice) (store : Store) : Decidable (Carries command choice store) :=
  match command with
  | .consumeBootstrapToken tokenHash =>
    inferInstanceAs (Decidable (store.rows.openBootstrap tokenHash = true → choice.delivery ≠ .lost))
  | .storeAgent _ _ => inferInstanceAs (Decidable (choice.delivery = .answered))
  | .createWorkflow _ => inferInstanceAs (Decidable (choice.delivery ≠ .refused))
  | .selectDeployment | .selectSecret | .selectBootstrap _ | .insertDeployment .. | .updateStatus .. | .markRevoked _
  | .deleteBootstrapTokens | .upsertBootstrapToken _ | .storeRotation .. | .deleteDeployment | .uploadWorkerScript _
  | .disconnectConnectionIfIdle | .randomToken _ | .external _ => .isTrue trivial

namespace Duplicate

/-- A deployment that waits for its agent. -/
def issued : Issued where
  rows := {}
  deployment := ⟨.awaitingAgent, none, Sample.sha256 Sample.subscriptionToken, none⟩
  secret := { subscriptionToken := Sample.subscriptionToken }
  tokenHash := Sample.sha256 Sample.bootstrapToken

def request : Request := ⟨Sample.bootstrapToken, Sample.payload⟩

def answers (position count : ℕ) : List Event := List.replicate count (.act position {})

/-- Two requests read the token before the first consumes it. -/
def together : List Event :=
  .start request :: .start request :: answers 0 2 ++ answers 1 2 ++ answers 0 1 ++ answers 1 1 ++ answers 0 4

/-- The batch after the consumption is refused. -/
def interrupted : List Event := .start request :: answers 0 3 ++ ([.act 0 { delivery := .refused }] : List Event)

end Duplicate

open Duplicate

theorem completed_or_untouched_together : ∃ world,
    (host Sample.env).machine.Run (Host.Acting Carries) issued.awaiting together world ∧
      ∃ request, .start request ∈ together ∧ Accepts Sample.env request ∧
        Sample.env.sha256 request.token = issued.tokenHash ∧ world.store = issued.completed Sample.env request := by
  have evaluated : ((host Sample.env).machine.checked? (fun world event => decide (Host.Acting Carries world event))
      issued.awaiting together).any (fun world =>
        (∀ task ∈ world.tasks, midway task = false) ∧ world.store ≠ issued.untouched) = true := by
    decide +kernel
  obtain ⟨world, replayed, checked⟩ := (Option.any_eq_true _ _).mp evaluated
  obtain ⟨settled, changed⟩ := of_decide_eq_true checked
  have run : (host Sample.env).machine.Run (Host.Acting Carries) issued.awaiting together world :=
    Run.of_checked (fun _ _ => of_decide_eq_true) replayed
  exact ⟨world, run, ((completed_or_untouched Sample.env issued run).1 settled).resolve_left changed⟩

/-- The token is consumed, nothing is stored and no workflow was created. -/
theorem consumed_without_workflow : ∃ world, (host Sample.env).machine.Run Free issued.awaiting interrupted world ∧
    world.Quiet ∧ world.store = issued.consumed ∧ world.store ≠ issued.untouched ∧
    ∀ request, world.store ≠ issued.completed Sample.env request := by
  have evaluated : ((host Sample.env).machine.replay? issued.awaiting interrupted).any (fun world =>
      world.tasks.all (!·.inFlight) = true ∧ world.store = issued.consumed) = true := by
    decide +kernel
  obtain ⟨world, replayed, checked⟩ := (Option.any_eq_true _ _).mp evaluated
  obtain ⟨finished, same⟩ := of_decide_eq_true checked
  refine ⟨world, Run.free_iff_replay.mpr replayed, Lib.World.quiet_of_all finished, same, ?_, fun request other => ?_⟩
  · rw [same]
    decide
  · have workflows := congrArg Store.workflows (same.symm.trans other)
    exact absurd workflows nofun

end OmniControlPlane.Deployment.Completion
