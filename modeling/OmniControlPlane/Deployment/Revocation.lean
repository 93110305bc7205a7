import Mathlib.Data.List.Pairwise
import OmniControlPlane.Deployment.Calls

/-! # When revocation is final

The revoke workflow uploads a pending script under a replacement digest, marks the row and then closes
the bootstrap tokens. Nothing stops an operation that read the row before from writing it, or the Worker,
afterwards: a finalize run in flight brings a revoked deployment back to `ready`. `Undisturbed` is the
condition on the steps under which revocation is final, and `revoked_is_final` says so for runs.
-/

namespace OmniControlPlane.Deployment

open Lib Task

section

variable (env : Env)

/-- The digest of a token that a revocation drew and handed to nobody. -/
def IsReplacement (tokens : List (String × Purpose)) (hash : String) : Prop :=
  ∃ token, (token, .replacement) ∈ tokens ∧ hash = env.sha256 token

/-- The Worker's last upload is pending, under the digest of a replacement token. -/
def Store.Disabled (store : Store) : Prop :=
  ∃ script, store.worker = some script ∧ script.configBundle = .pending ∧
    IsReplacement env store.tokens script.subTokenHash

/-- The replacement of a revocation has been drawn. -/
def Stage.Drawn (store : Store) : Stage → Prop
  | .drawn token _ | .marking token _ | .marked token _ | .recorded token _ => (token, .replacement) ∈ store.tokens
  | _ => True

/-- From here on the task is part of a revocation, or writes nothing as long as it finds the row revoked
or gone. -/
def Stage.sparing : Stage → Prop
  | .party _ | .unbound => False
  | _ => True

def Harmless (store : Store) (task : Async Outcome) : Prop :=
  ∃ stage : Stage, stage.sparing ∧ stage.Drawn store ∧ task.Follows (course env) Stage.ends stage

/-- The next thing the task does is to write a status. -/
def AwaitsStatusWrite (task : Async Outcome) : Prop :=
  ∃ status detail, task.awaits = some (.updateStatus status detail)

/-- The next thing the task does is to close the bootstrap tokens, or to mark the row before. -/
def Closes (task : Async Outcome) : Prop :=
  task.awaits = some .deleteBootstrapTokens ∨ ∃ hash, task.awaits = some (.markRevoked hash)

/-- The condition on the answer that a task receives. -/
structure UndisturbedAct (world : World) (position : ℕ) (choice : Choice) : Prop where
  /-- From the upload of a revocation to the end of the step that marks the row only another revocation
  uploads a script. -/
  uploads : ∀ script next, world.tasks[position]? = some (.call (.uploadWorkerScript script) next) →
    choice.delivery ≠ .refused → (∃ hash, (next (.ok ())).awaits = some (.markRevoked hash)) ∨
      ∀ other task, other ≠ position → world.tasks[other]? = some task → marks task = false
  /-- When the row is marked, every other task is part of a revocation, or one that finds the row revoked
  before it writes anything, and does not record a failure. -/
  overlaps : ∀ hash next, world.tasks[position]? = some (.call (.markRevoked hash) next) →
    choice.delivery ≠ .refused → world.store.status ≠ some .revoked →
      ∀ other task, other ≠ position → world.tasks[other]? = some task →
        Harmless env world.store task ∧ ¬ AwaitsStatusWrite task
  /-- Once the row is marked, no call fails for the last time. -/
  failures : ∀ command next, world.tasks[position]? = some (.call command next) →
    (choice.delivery = .lost ∧ (∃ hash, command = .markRevoked hash)) ∨
      (choice.delivery ≠ .answered ∧ world.store.status = some .revoked) →
    ¬ AwaitsStatusWrite (next (.error .remote))
  /-- Between the mark and the deletion of the bootstrap tokens none of them is consumed. -/
  consumes : ∀ hash next, world.tasks[position]? = some (.call (.consumeBootstrapToken hash) next) →
    choice.delivery = .answered → world.store.status = some .revoked → ∀ task ∈ world.tasks, ¬ Closes task

/-- The condition on a step. -/
def Undisturbed (world : World) : Event → Prop
  | .start _ => True
  | .act position choice => UndisturbedAct env world position choice

end

variable {env : Env} {store after : Store} {tokens : List (String × Purpose)} {task : Async Outcome}

/-! ## The programs from a revoked row on -/

theorem follows_unbound (task : Async Outcome) : task.Follows (course env) Stage.ends .unbound := by
  induction task with
  | done value => trivial
  | fail error => trivial
  | call command next ih => exact ⟨trivial, fun answer => ih answer⟩

theorem ownedDeployment_calm {rest : DeploymentRow → Async Outcome} (continued : ∀ deployment,
    deployment.status = .revoked → (rest deployment).Follows (course env) Stage.ends (.calm false)) :
    (ownedDeployment >>= rest).Follows (course env) Stage.ends (.calm false) := by
  refine (follows_bind _ _).mpr (.after trivial (fun row => ?_) fun _ => trivial)
  cases row with
  | none => trivial
  | some row =>
    change (rest row).Follows (course env) Stage.ends (if row.status = .revoked then .calm false else .unbound)
    split
    · next revoked => exact continued row revoked
    · exact follows_unbound _

theorem refused_follows {refused : Prop} [Decidable refused] {error : Failure} {rest : Unit → Async Outcome}
    {failed : Bool} (holds : refused) :
    (throwIf refused error >>= rest).Follows (course env) Stage.ends (.calm failed) := by
  rw [throwIf, if_pos holds]
  trivial

theorem getBootstrapRecord_calm (token : String) : (getBootstrapRecord env token).Follows (course env) (fun
    | stage, .ok _ => stage = .calm false
    | stage, .error error => stage.ends (.error error)) (.calm false) := by
  rw [getBootstrapRecord, throwIf]
  split
  · trivial
  · refine .after trivial (fun row => ?_) fun _ => trivial
    cases row with
    | none => trivial
    | some row => rfl

/-- A request that begins after the revocation does no harm. -/
theorem program_calm (operation : Operation) :
    (program env operation).Follows (course env) Stage.ends (.calm false) := by
  cases operation with
  | rotateBootstrapToken =>
    exact ownedDeployment_calm fun deployment revoked => refused_follows (by simp [revoked])
  | completeBootstrap token payload =>
    refine (follows_bind _ _).mpr ((follows_bind _ _).mpr ((getBootstrapRecord_calm token).mono ?_))
    rintro stage (error | row) outcome
    · exact outcome
    · rw [show stage = .calm false from outcome]
      by_cases mismatch : payload.deploymentId ≠ env.deploymentId ∨ payload.singBoxVersion ≠ env.singBoxVersion
      · exact refused_follows mismatch
      · rw [throwIf_kept mismatch]
        refine .after trivial (fun secret => ?_) fun _ => trivial
        cases secret with
        | none => trivial
        | some bundle =>
          refine .after trivial (fun changes => ?_) fun _ => trivial
          change Follows (course env) Stage.ends (if changes = (1 : ℕ) then .unbound else .calm false) _
          split
          · exact follows_unbound _
          · next unconsumed => exact refused_follows unconsumed
  | rotateSubscriptionToken =>
    exact ownedDeployment_calm fun deployment revoked => refused_follows (by simp [revoked])
  | retryDeployment =>
    exact ownedDeployment_calm fun deployment revoked => refused_follows (by simp [revoked])
  | revokeDeployment =>
    refine ownedDeployment_calm fun deployment revoked => ?_
    rw [if_pos revoked]
    trivial
  | deleteDeployment =>
    refine ownedDeployment_calm fun deployment revoked => ?_
    rw [throwIf_kept (by simp [revoked, DELETABLE_DEPLOYMENT_STATUSES])]
    exact .after trivial (fun _ => .after trivial (fun _ => trivial) fun _ => trivial) fun _ => trivial

theorem program_harmless (operation : Operation) : Harmless env store (program env operation) :=
  ⟨.calm false, trivial, trivial, program_calm operation⟩

/-! ## What a step keeps -/

/-- Random tokens have pairwise different digests. -/
def Store.Distinct (env : Env) (store : Store) : Prop :=
  store.tokens.Pairwise fun later earlier => env.sha256 earlier.1 ≠ env.sha256 later.1

def Store.RevokedOrGone (store : Store) : Prop := ∀ row ∈ store.deployment, row.status = .revoked

/-- The commands that leave a revoked deployment revoked and its Worker disabled. -/
def KeepsRevoked (env : Env) (tokens : List (String × Purpose)) : Command → Prop
  | .insertDeployment .. | .upsertBootstrapToken _ | .storeAgent .. | .createWorkflow _ => False
  | .uploadWorkerScript script => script.configBundle = .pending ∧ IsReplacement env tokens script.subTokenHash
  | _ => True

/-- What reads answer once the row is revoked or gone and no bootstrap token is open. -/
def RevokedReply : (command : Command) → Except Failure (Answer command) → Prop
  | .selectDeployment, .ok row => ∀ found ∈ row, found.status = .revoked
  | .consumeBootstrapToken _, .ok changes => changes ≠ (1 : ℕ)
  | _, _ => True

/-- The answer does not say that the row is gone. -/
def FindsRow : (command : Command) → Answer command → Prop
  | .selectDeployment, row => row ≠ none
  | _, _ => True

section

variable {command : Command} {choice : Choice} {reply : Except Failure (Answer command)} {stage : Stage}

theorem tokens_grow (executed : exec env command choice store = some (after, reply)) :
    store.tokens ⊆ after.tokens := by
  rcases exec_store executed with rfl | rfl
  · exact List.Subset.refl _
  · cases command <;> simp [effect]

theorem distinct_step (distinct : store.Distinct env)
    (executed : exec env command choice store = some (after, reply)) : after.Distinct env := by
  rcases exec_store executed with rfl | rfl
  · exact distinct
  · cases command with
    | randomToken purpose => exact List.pairwise_cons.mpr ⟨exec_fresh executed, distinct⟩
    | _ => exact distinct

theorem IsReplacement.grow {hash : String} {later : List (String × Purpose)}
    (replacement : IsReplacement env tokens hash) (grown : tokens ⊆ later) :
    IsReplacement env later hash := by
  obtain ⟨token, drawn, rfl⟩ := replacement
  exact ⟨token, grown drawn, rfl⟩

/-- A remote call that hands a value back was answered. -/
theorem exec_delivered {value : Answer command}
    (executed : exec env command choice store = some (after, .ok value))
    (remote : ∀ purpose, command ≠ .randomToken purpose) : choice.delivery = .answered := by
  have delivered (executed : some (deliver command choice store) = some (after, .ok value)) :
      choice.delivery = .answered := by
    cases delivery : choice.delivery <;> simp [deliver, Delivery.deliver, delivery] at executed ⊢
  unfold exec at executed
  split at executed
  · exact absurd rfl (remote _)
  · split at executed
    · cases (Prod.mk.inj (Option.some.inj executed)).2
    · exact delivered executed
  · exact delivered executed

/-- A call fails because it was not answered; an insertion also because the row is there. -/
theorem exec_failed {error : Failure} (executed : exec env command choice store = some (after, .error error))
    (noInsertion : ∀ row bundle bootstrapHash, command ≠ .insertDeployment row bundle bootstrapHash) :
    error = .remote ∧ choice.delivery ≠ .answered := by
  unfold exec at executed
  split at executed
  · split at executed
    · cases (Prod.mk.inj (Option.some.inj executed)).2
    · contradiction
  · exact absurd rfl (noInsertion _ _ _)
  · cases delivery : choice.delivery <;> simp [deliver, Delivery.deliver, delivery] at executed ⊢
    · exact executed.2.symm
    · exact executed.2.symm

theorem Stage.Drawn.grow (drawn : stage.Drawn store) (grown : store.tokens ⊆ after.tokens) : stage.Drawn after := by
  cases stage with
  | drawn | marking | marked | recorded => exact grown drawn
  | _ => trivial

theorem Harmless.grow (harmless : Harmless env store task) (grown : store.tokens ⊆ after.tokens) :
    Harmless env after task := by
  obtain ⟨stage, sparing, drawn, follows⟩ := harmless
  exact ⟨stage, sparing, drawn.grow grown, follows⟩

theorem drawn_next (called : (course env).allowed stage command) (drawn : stage.Drawn store)
    (executed : exec env command choice store = some (after, reply)) :
    ((course env).next stage command reply).Drawn after := by
  have grown := tokens_grow executed
  have retried (token : String) (attempts : ℕ) (member : (token, .replacement) ∈ store.tokens) :
      (Stage.retried token attempts).Drawn after := by
    cases attempts with
    | zero => trivial
    | succ attempts => exact grown member
  cases stage with
  | loading failed =>
    cases command with
    | randomToken purpose =>
      cases reply with
      | error error => trivial
      | ok token =>
        obtain ⟨rfl, rfl⟩ := exec_answered executed
        cases purpose with
        | replacement => exact List.mem_cons_self
        | subscription | bootstrap => exact called.elim
    | selectDeployment => rcases reply with _ | _ | _ <;> trivial
    | updateStatus status detail => cases reply <;> trivial
    | _ => exact called.elim
  | drawn token failed =>
    cases command with
    | external call | uploadWorkerScript script => cases reply <;> exact grown drawn
    | updateStatus status detail => cases reply <;> trivial
    | _ => exact called.elim
  | marking token attempts =>
    cases reply with
    | error error => exact retried token attempts drawn
    | ok value => exact grown drawn
  | marked token attempts =>
    cases reply with
    | error error => exact retried token attempts drawn
    | ok value => exact grown drawn
  | recorded token attempts =>
    cases reply with
    | error error => exact retried token attempts drawn
    | ok value =>
      cases command with
      | external call =>
        cases call with
        | notify => trivial
        | _ => exact grown drawn
      | _ => exact called.elim
  | closing failed => cases command <;> cases reply <;> trivial
  | calm failed =>
    cases command with
    | selectDeployment =>
      rcases reply with _ | _ | row
      · trivial
      · trivial
      · simp only [course, Stage.next]
        split <;> trivial
    | consumeBootstrapToken hash =>
      cases reply with
      | error error => trivial
      | ok changes =>
        simp only [course, Stage.next]
        split <;> trivial
    | _ => cases reply <;> trivial
  | party _ | failing | ended | unbound => trivial

/-! ## The sparing stages -/

theorem keepsRevoked_of_sparing (sparing : stage.sparing) (drawn : stage.Drawn store)
    (called : (course env).allowed stage command) : KeepsRevoked env store.tokens command := by
  cases stage with
  | party _ | unbound => exact sparing.elim
  | drawn token failed =>
    cases command with
    | uploadWorkerScript script =>
      obtain rfl : script = ⟨env.sha256 token, .pending⟩ := called
      exact ⟨rfl, token, drawn, rfl⟩
    | _ => trivial
  | _ => cases command <;> trivial

theorem sparing_next (sparing : stage.sparing) (replied : RevokedReply command reply) :
    ((course env).next stage command reply).sparing := by
  cases stage with
  | party _ | unbound => exact sparing.elim
  | marking token attempts | marked token attempts => cases attempts <;> cases reply <;> trivial
  | recorded token attempts =>
    cases reply with
    | error error => cases attempts <;> trivial
    | ok value =>
      cases command with
      | external call => cases call <;> trivial
      | _ => trivial
  | loading failed =>
    cases command with
    | selectDeployment => rcases reply with _ | _ | _ <;> trivial
    | _ => cases reply <;> trivial
  | calm failed =>
    cases command with
    | selectDeployment =>
      rcases reply with _ | _ | row
      · trivial
      · trivial
      · have revoked : row.status = .revoked := replied row rfl
        simp only [course, Stage.next, if_pos revoked]
        trivial
    | consumeBootstrapToken hash =>
      cases reply with
      | error error => trivial
      | ok changes =>
        have unconsumed : changes ≠ (1 : ℕ) := replied
        simp only [course, Stage.next, if_neg unconsumed]
        trivial
    | _ => cases reply <;> trivial
  | drawn token failed | closing failed => cases command <;> cases reply <;> trivial
  | failing | ended => trivial

/-- No status is written after an answer that finds the row. -/
theorem unwritten_next {value : Answer command} {status : Status} {detail : Option String} (sparing : stage.sparing)
    (called : (course env).allowed stage command) (replied : RevokedReply command (.ok value))
    (found : FindsRow command value) :
    ¬ (course env).allowed ((course env).next stage command (.ok value)) (.updateStatus status detail) := by
  cases stage with
  | party _ | unbound => exact sparing.elim
  | loading failed =>
    cases command with
    | selectDeployment =>
      cases value with
      | none => exact absurd rfl found
      | some row => exact fun writes => Bool.false_ne_true writes.1
    | randomToken purpose => exact fun writes => Bool.false_ne_true writes.1
    | updateStatus status detail => exact id
    | _ => exact called.elim
  | drawn token failed =>
    cases command with
    | external call => exact fun writes => Bool.false_ne_true writes.1
    | uploadWorkerScript script | updateStatus status detail => exact id
    | _ => exact called.elim
  | marking token attempts | marked token attempts => exact id
  | recorded token attempts =>
    cases command with
    | external call =>
      cases call with
      | notify => exact fun writes => Bool.false_ne_true writes.1
      | _ => exact id
    | _ => exact called.elim
  | closing failed =>
    cases command with
    | external call | disconnectConnectionIfIdle => exact fun writes => Bool.false_ne_true writes.1
    | updateStatus status detail => exact id
    | _ => exact called.elim
  | failing | ended => exact id
  | calm failed =>
    cases command with
    | selectDeployment =>
      cases value with
      | none => exact absurd rfl found
      | some row =>
        have revoked : row.status = .revoked := replied row rfl
        simp only [course, Stage.next, if_pos revoked]
        exact fun writes => Bool.false_ne_true writes.1
    | consumeBootstrapToken hash =>
      have unconsumed : value ≠ (1 : ℕ) := replied
      simp only [course, Stage.next, if_neg unconsumed]
      exact fun writes => Bool.false_ne_true writes.1
    | _ => exact fun writes => Bool.false_ne_true writes.1

/-- A status is written only in a stage that allows it. -/
theorem quiet_of_stage (follows : task.Follows (course env) Stage.ends stage)
    (unwritten : ∀ status detail, ¬ (course env).allowed stage (.updateStatus status detail)) :
    ¬ AwaitsStatusWrite task := by
  rintro ⟨status, detail, awaited⟩
  cases task with
  | call command next =>
    obtain rfl := Option.some.inj awaited
    exact unwritten status detail follows.1
  | done _ | fail _ => contradiction

theorem closes_of_marking {token : String} {attempts : ℕ}
    (follows : task.Follows (course env) Stage.ends (.marking token attempts)) : Closes task := by
  cases task with
  | done _ | fail _ => exact follows.elim
  | call command next =>
    cases command with
    | markRevoked hash => exact .inr ⟨hash, rfl⟩
    | _ => exact follows.1.elim

theorem closes_of_marked {token : String} {attempts : ℕ}
    (follows : task.Follows (course env) Stage.ends (.marked token attempts)) : Closes task := by
  cases task with
  | done _ | fail _ => exact follows.elim
  | call command next =>
    cases command with
    | deleteBootstrapTokens => exact .inl rfl
    | _ => exact follows.1.elim

/-- After a failure in the step that marks the row, it is started over, or the failure is recorded. -/
theorem closes_of_retried {token : String} {attempts : ℕ}
    (follows : task.Follows (course env) Stage.ends (.retried token attempts)) (quiet : ¬ AwaitsStatusWrite task) :
    Closes task := by
  cases attempts with
  | succ attempts => exact closes_of_marking follows
  | zero =>
    cases task with
    | done _ | fail _ => exact follows.elim
    | call command next =>
      cases command with
      | updateStatus status detail => exact absurd ⟨status, detail, rfl⟩ quiet
      | _ => exact follows.1.elim

/-! ## The store -/

theorem revoked_reply (gone : store.RevokedOrGone)
    (closed : ∀ hash, command = .consumeBootstrapToken hash → choice.delivery = .answered →
      store.openBootstrap hash = false)
    (executed : exec env command choice store = some (after, reply)) : RevokedReply command reply := by
  cases reply with
  | error error => cases command <;> trivial
  | ok value =>
    have delivered := exec_delivered executed
    obtain ⟨rfl, rfl⟩ := exec_answered executed
    cases command with
    | selectDeployment => exact gone
    | consumeBootstrapToken hash =>
      change (if store.openBootstrap hash then 1 else 0) ≠ (1 : ℕ)
      rw [closed hash rfl (delivered nofun)]
      decide
    | _ => trivial

/-- A command that keeps a deployment revoked does so, unless it writes a status. -/
theorem revokedOrGone_step (gone : store.RevokedOrGone)
    (keeps : KeepsRevoked env store.tokens command)
    (unwritten : store.status = some .revoked →
      ∀ status detail, command ≠ .updateStatus status detail)
    (executed : exec env command choice store = some (after, reply)) : after.RevokedOrGone := by
  rcases exec_store executed with rfl | rfl
  · exact gone
  · cases present : store.deployment with
    | none => cases command <;> first | exact keeps.elim | simp [Store.RevokedOrGone, effect, present]
    | some row =>
      have revoked : row.status = .revoked := gone row present
      cases command with
      | updateStatus status detail =>
        exact absurd rfl (unwritten (by simp [Store.status, present, revoked]) status detail)
      | insertDeployment row bundle hash => exact keeps.elim
      | storeAgent bundle hash => exact keeps.elim
      | _ => simp [Store.RevokedOrGone, effect, present, revoked]

/-- A deleted row does not come back. -/
theorem gone_step (gone : store.status = none) (keeps : KeepsRevoked env tokens command)
    (executed : exec env command choice store = some (after, reply)) : after.status = none := by
  have missing : store.deployment = none := Option.map_eq_none_iff.mp gone
  rcases exec_store executed with rfl | rfl
  · exact gone
  · cases command with
    | insertDeployment row bundle hash => exact keeps.elim
    | _ => simp [Store.status, effect, missing]

theorem Store.RevokedOrGone.status (gone : store.RevokedOrGone) :
    store.status = none ∨ store.status = some .revoked := by
  cases present : store.deployment with
  | none => exact .inl (by simp [Store.status, present])
  | some row => exact .inr (by simp [Store.status, present, gone row present])

theorem Store.revokedOrGone_of_status (revoked : store.status = some .revoked) : store.RevokedOrGone := by
  intro row present
  rw [Store.status, present, Option.map_some] at revoked
  exact Option.some.inj revoked

theorem disabled_step (disabled : store.Disabled env) (keeps : KeepsRevoked env store.tokens command)
    (executed : exec env command choice store = some (after, reply)) : after.Disabled env := by
  obtain ⟨script, uploaded, pending, replacement⟩ := disabled
  have grown := tokens_grow executed
  rcases exec_store executed with rfl | rfl
  · exact ⟨script, uploaded, pending, replacement⟩
  · cases command with
    | uploadWorkerScript script => exact ⟨script, rfl, keeps.1, keeps.2.grow grown⟩
    | _ => exact ⟨script, uploaded, pending, replacement.grow grown⟩

/-- Only `markRevoked` turns a deployment revoked. -/
theorem revoking_command (before : store.status ≠ some .revoked) (revoked : after.status = some .revoked)
    (unwritten : ∀ status detail, command = .updateStatus status detail → status ≠ .revoked)
    (uninserted : ∀ row bundle hash, command = .insertDeployment row bundle hash → row.status ≠ .revoked)
    (executed : exec env command choice store = some (after, reply)) :
    ∃ hash, command = .markRevoked hash := by
  rcases exec_store executed with rfl | rfl
  · exact absurd revoked before
  · cases command with
    | markRevoked hash => exact ⟨hash, rfl⟩
    | updateStatus status detail =>
      have := unwritten status detail rfl
      cases present : store.deployment <;> simp_all [Store.status, effect]
    | insertDeployment row bundle hash =>
      exact absurd (Option.some.inj revoked) (uninserted row bundle hash rfl)
    | storeAgent bundle hash => cases present : store.deployment <;> simp_all [Store.status, effect]
    | storeRotation bundle hash => cases present : store.deployment <;> simp_all [Store.status, effect]
    | deleteDeployment => simp [Store.status, effect] at revoked
    | _ => exact absurd revoked before

end

/-! ## The phase after the revocation -/

section

variable {world world' : World} {position : ℕ} {choice : Choice} {command : Command}
  {next : Except Failure (Answer command) → Async Outcome} {reply : Except Failure (Answer command)}
  {events : List Event}

theorem program_quiet (operation : Operation) : ¬ AwaitsStatusWrite (program env operation) := by
  rintro ⟨status, detail, awaited⟩
  have written : (Party.request operation).writes status :=
    (code_issues (.request operation) : (program env operation).Obeys AnyAnswer _ _).awaited awaited
  cases operation with
  | revokeDeployment => exact Command.noConfusion (Option.some.inj awaited)
  | _ => exact written

/-- The deployment is revoked or gone, the Worker is disabled, no task undoes either, and the bootstrap
tokens are closed or about to be. -/
structure Retired (env : Env) (world : World) : Prop where
  distinct : world.store.Distinct env
  revoked : world.store.RevokedOrGone
  gone : world.store.status = none → world.store.bootstrap = none
  disabled : world.store.Disabled env
  tasks : ∀ task ∈ world.tasks, Harmless env world.store task ∧
    (world.store.status = some .revoked → ¬ AwaitsStatusWrite task)
  closing : ∀ hash, world.store.openBootstrap hash = true → ∃ task ∈ world.tasks, Closes task

theorem Retired.start (retired : Retired env world) (operation : Operation) :
    Retired env { world with tasks := world.tasks ++ [program env operation] } := by
  refine { retired with tasks := fun task member => ?_, closing := fun hash opened => ?_ }
  · rcases List.mem_append.mp member with old | new
    · exact retired.tasks task old
    · rw [List.mem_singleton.mp new]
      exact ⟨program_harmless operation, fun _ => program_quiet operation⟩
  · obtain ⟨task, member, closes⟩ := retired.closing hash opened
    exact ⟨task, List.mem_append_left _ member, closes⟩

/-- A bootstrap token that is open was open before. -/
theorem opened_before {hash : String} (keeps : KeepsRevoked env tokens command)
    (executed : exec env command choice store = some (after, reply)) (opened : after.openBootstrap hash = true) :
    store.openBootstrap hash = true := by
  rcases exec_store executed with rfl | rfl
  · exact opened
  · cases command with
    | insertDeployment | upsertBootstrapToken => exact keeps.elim
    | deleteBootstrapTokens | deleteDeployment => contradiction
    | consumeBootstrapToken consumed =>
      cases present : store.bootstrap with
      | none => simp [Store.openBootstrap, effect, present] at opened
      | some token =>
        by_cases same : token.tokenHash = consumed <;>
          simp_all [Store.openBootstrap, effect]
    | _ => exact opened

theorem Retired.act (retired : Retired env world) (undisturbed : UndisturbedAct env world position choice)
    (atPosition : world.tasks[position]? = some (.call command next))
    (executed : exec env command choice world.store = some (after, reply)) :
    Retired env ⟨after, world.tasks.set position (next reply) ++ spawns env command choice⟩ := by
  obtain ⟨⟨stage, sparing, drawn, follows⟩, quiet⟩ := retired.tasks _ (List.mem_of_getElem? atPosition)
  have called : (course env).allowed stage command := follows.1
  have keeps := keepsRevoked_of_sparing sparing drawn called
  have grown := tokens_grow executed
  have status := retired.revoked.status
  have unwritten : world.store.status = some .revoked → ∀ status detail, command ≠ .updateStatus status detail :=
    fun revoked status detail same => quiet revoked ⟨status, detail, congrArg some same⟩
  have noSpawns : spawns env command choice = [] := by
    rw [List.eq_nil_iff_forall_not_mem]
    intro task spawned
    obtain ⟨action, rfl, -⟩ := mem_spawns spawned
    exact keeps
  have revokedBefore (revoked : after.status = some .revoked) : world.store.status = some .revoked := by
    rcases status with missing | already
    · rw [gone_step missing keeps executed] at revoked
      contradiction
    · exact already
  have closed (hash : String) (same : command = .consumeBootstrapToken hash) (answered : choice.delivery = .answered) :
      world.store.openBootstrap hash = false := by
    subst same
    rcases status with missing | revoked
    · rw [Store.openBootstrap, retired.gone missing]
    · by_contra opened
      obtain ⟨task, member, closes⟩ := retired.closing hash (Bool.not_eq_false _ ▸ opened)
      exact undisturbed.consumes hash next atPosition answered revoked task member closes
  have replied := revoked_reply retired.revoked closed executed
  have resumed : (next reply).Follows (course env) Stage.ends ((course env).next stage command reply) := follows.2 reply
  -- a status is written after a failing call only, and no call fails for the last time
  have resting (revoked : world.store.status = some .revoked) : ¬ AwaitsStatusWrite (next reply) := by
    cases reply with
    | error error =>
      obtain ⟨rfl, unanswered⟩ := exec_failed executed fun row bundle hash same => by
        subst same
        exact keeps
      exact undisturbed.failures command next atPosition (.inr ⟨unanswered, revoked⟩)
    | ok value =>
      obtain ⟨found, -⟩ := exec_answered executed
      refine quiet_of_stage resumed fun status detail => unwritten_next sparing called replied ?_
      cases command with
      | selectDeployment =>
        rintro rfl
        have missing : world.store.deployment = none := found.symm
        simp [Store.status, missing] at revoked
      | _ => trivial
  refine ⟨distinct_step retired.distinct executed, revokedOrGone_step retired.revoked keeps unwritten executed,
    fun missing => ?_, disabled_step retired.disabled keeps executed, fun task member => ?_, fun hash opened => ?_⟩
  · rcases status with gone | revoked
    · have none := retired.gone gone
      rcases exec_store executed with rfl | rfl
      · exact none
      · cases command with
        | insertDeployment | upsertBootstrapToken => exact keeps.elim
        | _ => simp [effect, none]
    · rcases exec_store executed with rfl | rfl
      · rw [revoked] at missing
        contradiction
      · cases command with
        | deleteDeployment => rfl
        | insertDeployment => exact keeps.elim
        | _ => simp_all [Store.status, effect]
  · rw [noSpawns, List.append_nil] at member
    obtain ⟨other, atOther⟩ := List.mem_iff_getElem?.mp member
    rw [List.getElem?_set] at atOther
    split at atOther
    · obtain ⟨-, same⟩ := Option.ite_none_right_eq_some.mp atOther
      obtain rfl := Option.some.inj same
      exact ⟨⟨_, sparing_next sparing replied, drawn_next called drawn executed, resumed⟩,
        fun revoked => resting (revokedBefore revoked)⟩
    · obtain ⟨harmless, quiet⟩ := retired.tasks task (List.mem_of_getElem? atOther)
      exact ⟨harmless.grow grown, fun revoked => quiet (revokedBefore revoked)⟩
  · have before := opened_before keeps executed opened
    obtain ⟨task, member, closes⟩ := retired.closing hash before
    obtain ⟨other, atOther⟩ := List.mem_iff_getElem?.mp member
    rw [noSpawns, List.append_nil]
    by_cases moves : other = position
    · subst moves
      obtain rfl := Option.some.inj (atPosition.symm.trans atOther)
      refine ⟨next reply, List.mem_set (List.getElem?_eq_some_iff.mp atPosition).1 _, ?_⟩
      have revoked : world.store.status = some .revoked := by
        refine status.resolve_left fun missing => ?_
        rw [Store.openBootstrap, retired.gone missing] at before
        contradiction
      have quiet := resting revoked
      rcases closes with same | ⟨marked, same⟩
      · obtain rfl : command = .deleteBootstrapTokens := Option.some.inj same
        cases stage with
        | marked token attempts =>
          cases reply with
          | error error => exact closes_of_retried resumed quiet
          | ok value =>
            obtain ⟨-, rfl⟩ := exec_answered executed
            contradiction
        | party _ | unbound => exact sparing.elim
        | _ => exact called.elim
      · obtain rfl : command = .markRevoked marked := Option.some.inj same
        cases stage with
        | marking token attempts =>
          cases reply with
          | error error => exact closes_of_retried resumed quiet
          | ok value => exact closes_of_marked resumed
        | party _ | unbound => exact sparing.elim
        | _ => exact called.elim
    · refine ⟨task, List.mem_of_getElem? (i := other) ?_, closes⟩
      rw [List.getElem?_set_ne (Ne.symm moves)]
      exact atOther

/-! ## Up to the revocation -/

/-- What is known of a task before the revocation: from its upload to the end of the step that marks the
row, a revocation finds the Worker disabled. -/
def Tracked (env : Env) (store : Store) (task : Async Outcome) : Prop :=
  ∃ stage : Stage, stage.plain ∧ stage.Drawn store ∧ (stage.returns = true → store.Disabled env) ∧
    task.Follows (course env) Stage.ends stage

theorem tracked_code (store : Store) (party : Party) : Tracked env store (code env party) := by
  refine ⟨party.stage, party.stage_plain, ?_, fun returns => ?_, code_follows party⟩
  · by_cases revokes : party = .workflow .revoke
    · subst revokes
      trivial
    · rw [Party.stage_eq revokes]
      trivial
  · rw [party.stage_returns] at returns
    contradiction

/-- The deployment is not revoked, and every task is tracked. -/
structure Standing (env : Env) (world : World) : Prop where
  distinct : world.store.Distinct env
  unrevoked : world.store.status ≠ some .revoked
  tasks : ∀ task ∈ world.tasks, Tracked env world.store task

theorem Standing.start (standing : Standing env world) (operation : Operation) :
    Standing env { world with tasks := world.tasks ++ [program env operation] } := by
  refine { standing with tasks := fun task member => ?_ }
  rcases List.mem_append.mp member with old | new
  · exact standing.tasks task old
  · rw [List.mem_singleton.mp new]
    exact tracked_code world.store (.request operation)

/-- The step that marks the row retires the deployment. -/
theorem Standing.retire (standing : Standing env world) (undisturbed : UndisturbedAct env world position choice)
    (atPosition : world.tasks[position]? = some (.call command next))
    (executed : exec env command choice world.store = some (after, reply)) (revoked : after.status = some .revoked) :
    Retired env ⟨after, world.tasks.set position (next reply) ++ spawns env command choice⟩ := by
  obtain ⟨stage, plain, drawn, disabled, follows⟩ := standing.tasks _ (List.mem_of_getElem? atPosition)
  have called : (course env).allowed stage command := follows.1
  obtain ⟨hash, rfl⟩ := revoking_command standing.unrevoked revoked
    (fun status detail same => Stage.written_ne_revoked plain (same ▸ called))
    (fun row bundle hash same => by rw [Stage.inserted_queued plain (same ▸ called)]; nofun) executed
  have down := disabled (Stage.returns_of_mark plain called)
  have taken : choice.delivery ≠ .refused := fun refused => by
    rw [exec_refused executed refused fun _ => nofun] at revoked
    exact standing.unrevoked revoked
  have grown := tokens_grow executed
  have resumed : (next reply).Follows (course env) Stage.ends ((course env).next stage _ reply) := follows.2 reply
  obtain ⟨token, attempts, rfl⟩ : ∃ token attempts, stage = .marking token attempts := by
    cases stage with
    | marking token attempts => exact ⟨token, attempts, rfl⟩
    | party owner =>
      obtain rfl : owner = .workflow .revoke := called
      exact plain.elim
    | calm | unbound => exact plain.elim
    | _ => exact called.elim
  have worker : after.Disabled env := disabled_step down (by trivial) executed
  have closes : ¬ AwaitsStatusWrite (next reply) ∧ Closes (next reply) := by
    cases reply with
    | ok value => exact ⟨quiet_of_stage resumed fun _ _ => id, closes_of_marked resumed⟩
    | error error =>
      obtain ⟨rfl, unanswered⟩ := exec_failed executed fun _ _ _ => nofun
      have lost : choice.delivery = .lost := by
        cases delivery : choice.delivery <;> simp_all
      have quiet := undisturbed.failures _ next atPosition (.inl ⟨lost, hash, rfl⟩)
      exact ⟨quiet, closes_of_retried resumed quiet⟩
  refine ⟨distinct_step standing.distinct executed, Store.revokedOrGone_of_status revoked, fun missing => ?_, worker,
    fun task member => ?_, fun _ _ => ⟨next reply, ?_, closes.2⟩⟩
  · rw [revoked] at missing
    contradiction
  · rcases Host.mem_tasks_act member with rfl | spawned | ⟨other, different, atOther⟩
    · refine ⟨⟨_, ?_, drawn_next called drawn executed, resumed⟩, fun _ => closes.1⟩
      cases attempts <;> cases reply <;> trivial
    · obtain ⟨action, different, -⟩ := mem_spawns spawned
      contradiction
    · obtain ⟨harmless, quiet⟩ := undisturbed.overlaps hash next atPosition taken standing.unrevoked other task
        different atOther
      exact ⟨harmless.grow grown, fun _ => quiet⟩
  · exact List.mem_append_left _ (List.mem_set (List.getElem?_eq_some_iff.mp atPosition).1 _)

/-- The Worker stays disabled, or another script is uploaded. -/
theorem Store.Disabled.kept (disabled : world.store.Disabled env)
    (executed : exec env command choice world.store = some (after, reply)) : after.Disabled env ∨
      choice.delivery ≠ .refused ∧ ∃ script, command = .uploadWorkerScript script ∧ after.worker = some script := by
  by_cases uploads : ∃ script, command = .uploadWorkerScript script
  · obtain ⟨script, rfl⟩ := uploads
    by_cases refused : choice.delivery = .refused
    · rw [exec_refused executed refused fun _ => nofun]
      exact .inl disabled
    · rcases exec_store executed with rfl | rfl
      · exact .inl disabled
      · exact .inr ⟨refused, script, rfl, rfl⟩
  · obtain ⟨script, uploaded, pending, replacement⟩ := disabled
    have grown := tokens_grow executed
    refine .inl ⟨script, ?_, pending, replacement.grow grown⟩
    rcases exec_store executed with rfl | rfl
    · exact uploaded
    · cases command with
      | uploadWorkerScript script => exact absurd ⟨script, rfl⟩ uploads
      | _ => exact uploaded

/-- Only a revocation comes to mark the row with the answer to its upload. -/
theorem drawn_of_marks {script : WorkerScript} {next : Except Failure Unit → Async Outcome} {stage : Stage} {hash : String}
    (plain : stage.plain) (follows : Follows (course env) Stage.ends stage (.call (.uploadWorkerScript script) next))
    (marks : (next (.ok ())).awaits = some (.markRevoked hash)) :
    ∃ token failed, stage = .drawn token failed ∧ script = ⟨env.sha256 token, .pending⟩ := by
  have called : (course env).allowed stage (.uploadWorkerScript script) := follows.1
  cases stage with
  | drawn token failed => exact ⟨token, failed, rfl, called⟩
  | party owner =>
    have onward := follows.2 (.ok ())
    cases resumed : next (.ok ()) with
    | call command rest =>
      rw [resumed] at marks onward
      obtain rfl := Option.some.inj marks
      obtain rfl : owner = .workflow .revoke := onward.1
      exact plain.elim
    | done _ | fail _ =>
      rw [resumed] at marks
      contradiction
  | calm | unbound => exact plain.elim
  | _ => exact called.elim

theorem Standing.act (standing : Standing env world) (undisturbed : UndisturbedAct env world position choice)
    (atPosition : world.tasks[position]? = some (.call command next))
    (executed : exec env command choice world.store = some (after, reply)) (unrevoked : after.status ≠ some .revoked) :
    Standing env ⟨after, world.tasks.set position (next reply) ++ spawns env command choice⟩ := by
  obtain ⟨stage, plain, drawn, disabled, follows⟩ := standing.tasks _ (List.mem_of_getElem? atPosition)
  have called : (course env).allowed stage command := follows.1
  have grown := tokens_grow executed
  refine ⟨distinct_step standing.distinct executed, unrevoked, fun task member => ?_⟩
  rcases Host.mem_tasks_act member with rfl | spawned | ⟨other, different, atOther⟩
  · refine ⟨_, Stage.plain_next plain, drawn_next called drawn executed, fun returns => ?_, follows.2 reply⟩
    rcases Stage.returns_next called returns with before | ⟨token, rfl, answer, rfl⟩
    · rcases (disabled before).kept executed with kept | ⟨-, script, rfl, -⟩
      · exact kept
      · have idle := marks_of_returns follows before
        cases stage with
        | marking | marked | recorded => exact called.elim
        | _ => contradiction
    · obtain ⟨-, rfl⟩ := exec_answered executed
      cases stage with
      | drawn drawnToken failed =>
        have same : (⟨env.sha256 token, .pending⟩ : WorkerScript) = ⟨env.sha256 drawnToken, .pending⟩ := called
        exact ⟨_, rfl, rfl, drawnToken, drawn, congrArg WorkerScript.subTokenHash same⟩
      | party _ => contradiction
      | calm | unbound => exact plain.elim
      | _ => exact called.elim
  · obtain ⟨action, -, rfl⟩ := mem_spawns spawned
    exact tracked_code after (.workflow action)
  · obtain ⟨otherStage, otherPlain, otherDrawn, otherDisabled, otherFollows⟩ :=
      standing.tasks task (List.mem_of_getElem? atOther)
    refine ⟨otherStage, otherPlain, otherDrawn.grow grown, fun returns => ?_, otherFollows⟩
    rcases (otherDisabled returns).kept executed with kept | ⟨taken, script, rfl, uploaded⟩
    · exact kept
    · rcases undisturbed.uploads script next atPosition taken with ⟨hash, marks⟩ | idle
      · obtain ⟨token, failed, rfl, rfl⟩ := drawn_of_marks plain follows marks
        exact ⟨_, uploaded, rfl, token, grown drawn, rfl⟩
      · have := marks_of_returns otherFollows returns
        rw [idle other task different atOther] at this
        contradiction

/-! ## Runs -/

theorem retired_run (retired : Retired env world)
    (run : (host env).machine.Run (Undisturbed env) world events world') : Retired env world' := by
  refine run.preserves (Retired env) ?_ retired
  intro world event world' retired undisturbed stepped
  cases event with
  | start operation =>
    rw [Host.step?_start, Option.some.injEq] at stepped
    subst stepped
    exact retired.start operation
  | act position choice =>
    obtain ⟨command, next, after, reply, atPosition, executed, rfl⟩ := Host.step?_act_iff.mp stepped
    exact retired.act undisturbed atPosition executed

/-- From the creation on, an undisturbed run keeps the deployment standing until it is retired. -/
theorem undisturbed_run (run : (host env).machine.Run (Undisturbed env) (initial env) events world) :
    Standing env world ∨ Retired env world := by
  refine run.preserves (fun world => Standing env world ∨ Retired env world) ?_ (.inl ?_)
  · intro world event world' kept undisturbed stepped
    cases event with
    | start operation =>
      rw [Host.step?_start, Option.some.injEq] at stepped
      subst stepped
      exact kept.imp (·.start operation) (·.start operation)
    | act position choice =>
      obtain ⟨command, next, after, reply, atPosition, executed, rfl⟩ := Host.step?_act_iff.mp stepped
      rcases kept with standing | retired
      · by_cases revoked : Store.status after = some .revoked
        · exact .inr (standing.retire undisturbed atPosition executed revoked)
        · exact .inl (standing.act undisturbed atPosition executed revoked)
      · exact .inr (retired.act undisturbed atPosition executed)
  · refine ⟨List.Pairwise.nil, nofun, fun task member => ?_⟩
    rw [List.mem_singleton.mp member]
    exact tracked_code _ .creation

/-- The digest of a replacement token is the digest of no token that a user holds. -/
theorem replacement_ne_subscription {hash token : String} (distinct : store.Distinct env)
    (replacement : IsReplacement env store.tokens hash) (held : (token, .subscription) ∈ store.tokens) :
    hash ≠ env.sha256 token := by
  obtain ⟨drawn, member, rfl⟩ := replacement
  have : Std.Symm fun later earlier : String × Purpose => env.sha256 earlier.1 ≠ env.sha256 later.1 :=
    ⟨fun _ _ different => different.symm⟩
  exact distinct.forall held member (by simp)

end

/-! ## An executable check -/

theorem harmless_of_finished (finished : task.inFlight = false) :
    Harmless env store task ∧ ¬ AwaitsStatusWrite task := by
  have calm : (Stage.calm false).sparing := trivial
  cases task with
  | done value => exact ⟨⟨_, calm, trivial, trivial⟩, by rintro ⟨_, _, awaited⟩; cases awaited⟩
  | fail error => exact ⟨⟨_, calm, trivial, trivial⟩, by rintro ⟨_, _, awaited⟩; cases awaited⟩
  | call command next => contradiction

/-- `AwaitsStatusWrite`, decided. -/
def awaitsStatusWrite (task : Async Outcome) : Bool :=
  match task.awaits with
  | some (.updateStatus ..) => true
  | _ => false

def closes (task : Async Outcome) : Bool :=
  match task.awaits with
  | some .deleteBootstrapTokens | some (.markRevoked _) => true
  | _ => false

/-- A check that is enough for `Undisturbed`: the revocation finds every other task finished. -/
def undisturbedCheck (world : World) : Event → Bool
  | .start _ => true
  | .act position choice =>
    match world.tasks[position]? with
    | some (.call command next) =>
      (match command with
        | .uploadWorkerScript _ => decide (choice.delivery = .refused) ||
            (world.tasks.eraseIdx position).all (!marks ·)
        | .markRevoked _ => decide (choice.delivery = .refused) || decide (world.store.status = some .revoked) ||
            (world.tasks.eraseIdx position).all (!·.inFlight)
        | .consumeBootstrapToken _ => decide (choice.delivery ≠ .answered) ||
            decide (world.store.status ≠ some .revoked) || world.tasks.all (!closes ·)
        | _ => true) &&
      (decide (choice.delivery = .answered) || !awaitsStatusWrite (next (.error .remote)))
    | _ => true

theorem undisturbed_of_check (env : Env) (world : World) (event : Event) (passed : undisturbedCheck world event = true) :
    Undisturbed env world event := by
  cases event with
  | start operation => trivial
  | act position choice =>
    have others {check : Async Outcome → Bool} (checked : (world.tasks.eraseIdx position).all check = true) (other : ℕ)
        (task : Async Outcome) (different : other ≠ position) (atOther : world.tasks[other]? = some task) :
        check task = true :=
      List.all_eq_true.mp checked task (List.mem_eraseIdx_iff_getElem?.mpr ⟨other, different, atOther⟩)
    refine ⟨?_, ?_, ?_, ?_⟩
    · intro script next atPosition taken
      simp only [undisturbedCheck, atPosition, taken, decide_false, Bool.false_or, Bool.and_eq_true] at passed
      refine .inr fun other task different atOther => ?_
      simpa using others passed.1 other task different atOther
    · intro hash next atPosition taken before other task different atOther
      simp only [undisturbedCheck, atPosition, taken, before, decide_false, Bool.false_or, Bool.and_eq_true] at passed
      exact harmless_of_finished (by simpa using others passed.1 other task different atOther)
    · rintro command next atPosition failing ⟨status, detail, awaited⟩
      have unanswered : choice.delivery ≠ .answered := by
        rcases failing with ⟨lost, -⟩ | ⟨unanswered, -⟩
        · simp [lost]
        · exact unanswered
      simp [undisturbedCheck, atPosition, unanswered, awaitsStatusWrite, awaited] at passed
    · intro hash next atPosition answered revoked task member closing
      simp only [undisturbedCheck, atPosition, answered, revoked, ne_eq, not_true_eq_false, decide_false, Bool.false_or,
        Bool.and_eq_true, List.all_eq_true] at passed
      have away := passed.1 task member
      rcases closing with awaited | ⟨hash, awaited⟩ <;> simp [closes, awaited] at away

/-! ## Revocation is final -/

/-- Revocation is final in every undisturbed run: after a state in which the deployment is revoked,
its status is `revoked` until the row is deleted, its Worker serves no ready bundle, and no token
that was ever handed to the user opens it. -/
theorem revoked_is_final (env : Env) {before later : List Event} {world world' : World}
    (reached : (host env).machine.Run (Undisturbed env) (initial env) before world)
    (revoked : world.store.status = some .revoked)
    (continued : (host env).machine.Run (Undisturbed env) world later world') :
    (world'.store.status = none ∨ world'.store.status = some .revoked) ∧
      ∃ script, world'.store.worker = some script ∧ script.servesReady = false ∧
        ∀ token, (token, .subscription) ∈ world'.store.tokens → script.subTokenHash ≠ env.sha256 token := by
  have retired : Retired env world := (undisturbed_run reached).resolve_left (·.unrevoked revoked)
  obtain ⟨distinct, gone, -, ⟨script, uploaded, pending, replacement⟩, -⟩ := retired_run retired continued
  refine ⟨gone.status, script, uploaded, ?_, fun token held => replacement_ne_subscription distinct replacement held⟩
  simp [WorkerScript.servesReady, pending]

namespace Sample

/-- The deployment becomes ready, and a revocation then runs alone until it marks the row. -/
def revokedAlone : List Event :=
  bootstrapped ++ answers 3 11 ++ .start .revokeDeployment :: answers 4 6 ++
    .act 5 {} :: .act 5 { drawn := replacementToken } :: answers 5 3

/-- The notification fails and the marking starts over; a rotation and a bootstrap are refused, and the row is
deleted. -/
def afterwards : List Event :=
  answers 5 2 ++ .act 5 { delivery := .refused } :: answers 5 5 ++ .start .rotateSubscriptionToken :: answers 6 1 ++
    .start (.completeBootstrap bootstrapToken payload) :: answers 7 1 ++ .start .deleteDeployment :: answers 8 3

end Sample

theorem revoked_is_final_sample : ∃ world world',
    (host Sample.env).machine.Run (Undisturbed Sample.env) (initial Sample.env) Sample.revokedAlone world ∧
    (host Sample.env).machine.Run (Undisturbed Sample.env) world Sample.afterwards world' ∧
    (world'.store.status = none ∨ world'.store.status = some .revoked) := by
  obtain ⟨world, first, revoked, world', second⟩ : ∃ world,
      (host Sample.env).machine.checked? undisturbedCheck (initial Sample.env) Sample.revokedAlone = some world ∧
      world.store.status = some .revoked ∧ ∃ world',
      (host Sample.env).machine.checked? undisturbedCheck world Sample.afterwards = some world' :=
    ⟨_, rfl, rfl, _, rfl⟩
  have reached := Machine.Run.of_checked (undisturbed_of_check Sample.env) first
  have continued := Machine.Run.of_checked (undisturbed_of_check Sample.env) second
  exact ⟨world, world', reached, continued, (revoked_is_final Sample.env reached revoked continued).1⟩

namespace Sample

/-- The finalize run uploads the ready bundle; the user revokes, task 4, and the revoke run, task 5,
disables the Worker and marks the row. -/
def revokedWhileFinalizing : List Event :=
  bootstrapped ++ answers 3 6 ++ .start .revokeDeployment :: answers 4 5 ++
    .act 5 {} :: .act 5 { drawn := replacementToken } :: answers 5 3

end Sample

/-- The finalize run still writes its last status: the revoked deployment is ready again. -/
theorem revocation_undone : ∃ world world',
    (host Sample.env).machine.Run Machine.Free (initial Sample.env) Sample.revokedWhileFinalizing world ∧
    world.store.status = some .revoked ∧
    (host Sample.env).machine.Run Machine.Free world (Sample.answers 3 1) world' ∧
    world'.store.status = some .ready := by
  refine ⟨_, _, Machine.Run.free_iff_replay.mpr rfl, rfl, Machine.Run.free_iff_replay.mpr rfl, rfl⟩

end OmniControlPlane.Deployment
