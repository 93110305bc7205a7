import OmniControlPlane.Deployment.Calls

/-! # Deleting the row of a live Worker

`deleteDeployment` looks at the status alone. Under `revoked` the Worker serves no ready bundle,
because a revocation uploads a pending one before it marks the row; a failing workflow writes `failed`
whatever the Worker serves. `Grounded` is the condition on the steps under which a row is never
removed above a live Worker.
-/

namespace OmniControlPlane.Deployment

open Lib Task

/-- The last upload to the Worker was a ready bundle. -/
def Store.servesReady (store : Store) : Bool := store.worker.any (·.servesReady)

/-- `deleteDeployment` accepts the status of the row. -/
def Store.deletable (store : Store) : Bool := store.status.any (· ∈ DELETABLE_DEPLOYMENT_STATUSES)

/-- The condition on a step that takes effect. The status `failed` is written to a row only while the
Worker serves no ready bundle. A ready bundle is uploaded only while the status is neither `failed`
nor `revoked`, no deletion has passed its check, and no revocation is in the step that marks the row. -/
def Grounded (world : World) : Event → Prop
  | .start _ => True
  | .act position choice => ∀ command next, world.tasks[position]? = some (.call command next) →
      choice.delivery ≠ .refused →
      (∀ detail, command = .updateStatus .failed detail → world.store.deployment.isSome →
        world.store.servesReady = false) ∧
      ∀ script, command = .uploadWorkerScript script → script.servesReady →
        world.store.status ≠ some .failed ∧ world.store.status ≠ some .revoked ∧
          ∀ task ∈ world.tasks, task.awaits ≠ some .deleteDeployment ∧ marks task = false

section

variable {env : Env} {store after : Store} {command : Command} {choice : Choice}
  {reply : Except Failure (Answer command)} {task : Async Outcome}

/-! ## The request -/

/-- The task does not delete, whatever it is answered. -/
def NeverDeletes (task : Async Outcome) : Prop := task.Obeys AnyAnswer (· ≠ .deleteDeployment) AnyOutcome

/-- How far a task is with a deletion: it has none ahead, it has not read the row, or it passed the
check. -/
inductive Deletes : Async Outcome → Prop
  | never {task : Async Outcome} (never : NeverDeletes task) : Deletes task
  | unread : Deletes deleteDeployment
  | checked {next : Except Failure Unit → Async Outcome} (rest : ∀ reply, NeverDeletes (next reply)) :
      Deletes (.call .deleteDeployment next)

/-- `deleteDeployment` reads the row, and goes on to the deletion exactly from a deletable status. -/
theorem deleteDeployment_reads : ∃ next, deleteDeployment = .call .selectDeployment next ∧
    (∀ row, row.status ∈ DELETABLE_DEPLOYMENT_STATUSES → ∃ rest,
      next (.ok (some row)) = .call .deleteDeployment rest ∧ ∀ reply, NeverDeletes (rest reply)) ∧
    ∀ reply, (∀ row, reply = .ok (some row) → row.status ∉ DELETABLE_DEPLOYMENT_STATUSES) →
      NeverDeletes (next reply) := by
  refine ⟨_, rfl, ?_, ?_⟩
  · intro row deletable
    refine ⟨_, throwIf_kept (not_not.mpr deletable), ?_⟩
    have rest : (do external .audit; pure (.response 200 "deleted" none) : Async Outcome).Obeys AnyAnswer
        (· ≠ .deleteDeployment) AnyOutcome :=
      .seq (external_calls nofun) fun _ => trivial
    rintro (error | _)
    · trivial
    · exact rest
  · rintro (error | _ | row) undeletable
    · trivial
    · trivial
    · exact throwIf_calls fun kept => absurd (undeletable row rfl) kept

theorem Deletes.next {next : Except Failure (Answer command) → Async Outcome}
    (deletes : Deletes (.call command next))
    (executed : exec env command choice store = some (after, reply)) :
    Deletes (next reply) ∧ ((next reply).awaits = some .deleteDeployment →
      store.deletable = true ∧ after.worker = store.worker) := by
  generalize same : (.call command next : Async Outcome) = whole at deletes
  cases deletes with
  | never never =>
    subst same
    exact ⟨.never (never.next trivial), fun awaited => absurd rfl ((never.next trivial).awaited awaited)⟩
  | checked rest =>
    cases same
    exact ⟨.never (rest reply), fun awaited => absurd rfl ((rest reply).awaited awaited)⟩
  | unread =>
    obtain ⟨reads, unfolded, deletes, spares⟩ := deleteDeployment_reads
    rw [unfolded] at same
    cases same
    by_cases passes : ∃ row, reply = .ok (some row) ∧ row.status ∈ DELETABLE_DEPLOYMENT_STATUSES
    · obtain ⟨row, rfl, deletable⟩ := passes
      obtain ⟨rest, passed, never⟩ := deletes row deletable
      rw [passed]
      obtain ⟨found, applied⟩ := exec_answered executed
      refine ⟨.checked never, fun _ => ⟨?_, by rw [applied]; rfl⟩⟩
      have present : store.deployment = some row := found.symm
      simpa [Store.deletable, Store.status, present] using deletable
    · have never := spares reply fun row same deletable => passes ⟨row, same, deletable⟩
      exact ⟨.never never, fun awaited => absurd rfl (never.awaited awaited)⟩

theorem deletes_code (party : Party) : Deletes (code env party) := by
  by_cases deletion : party = .request .deleteDeployment
  · subst deletion
    exact .unread
  · refine .never ((code_issues party).mono (fun _ _ given => given) ?_ fun _ ended => ended)
    rintro command issued rfl
    exact deletion issued

/-! ## What a step keeps -/

theorem servesReady_step (executed : exec env command choice store = some (after, reply))
    (ready : after.servesReady = true) : store.servesReady = true ∨
      choice.delivery ≠ .refused ∧ ∃ script, command = .uploadWorkerScript script ∧ script.servesReady = true := by
  by_cases refused : choice.delivery = .refused
  · cases command with
    | randomToken purpose =>
      rcases exec_store executed with rfl | rfl <;> exact .inl ready
    | _ => exact .inl (exec_refused executed refused (fun _ => nofun) ▸ ready)
  · rcases exec_store executed with rfl | rfl
    · exact .inl ready
    · cases command with
      | uploadWorkerScript script => exact .inr ⟨refused, script, rfl, by simpa [Store.servesReady, effect] using ready⟩
      | _ => exact .inl ready

/-- A status becomes deletable by a write of `failed`, or by the revocation in the step that marks the row. -/
theorem deletable_step {stage : Stage} (plain : stage.plain) (called : (course env).allowed stage command)
    (executed : exec env command choice store = some (after, reply)) (deletable : after.deletable = true) :
    store.deletable = true ∨
      choice.delivery ≠ .refused ∧ (∃ detail, command = .updateStatus .failed detail) ∧ store.deployment.isSome ∨
      (∃ hash, command = .markRevoked hash) ∧ stage.returns = true := by
  by_cases refused : choice.delivery = .refused
  · cases command with
    | randomToken purpose =>
      rcases exec_store executed with rfl | rfl <;> exact .inl deletable
    | _ => exact .inl (exec_refused executed refused (fun _ => nofun) ▸ deletable)
  rcases exec_store executed with rfl | rfl
  · exact .inl deletable
  cases command with
  | updateStatus status detail =>
    obtain ⟨row, present⟩ : ∃ row, store.deployment = some row := by
      cases present : store.deployment with
      | none => simp [Store.deletable, Store.status, effect, present] at deletable
      | some row => exact ⟨row, rfl⟩
    have written : status = .failed ∨ status = .revoked := by
      simpa [Store.deletable, Store.status, effect, present, DELETABLE_DEPLOYMENT_STATUSES] using deletable
    rcases written with rfl | rfl
    · exact .inr (.inl ⟨refused, ⟨detail, rfl⟩, by simp [present]⟩)
    · exact absurd rfl (Stage.written_ne_revoked plain called)
  | markRevoked hash => exact .inr (.inr ⟨⟨hash, rfl⟩, Stage.returns_of_mark plain called⟩)
  | insertDeployment row bundle hash =>
    have queued : row.status = .queued := Stage.inserted_queued plain called
    simp [Store.deletable, Store.status, effect, queued, DELETABLE_DEPLOYMENT_STATUSES] at deletable
  | deleteDeployment => simp [Store.deletable, Store.status, effect] at deletable
  | storeAgent | storeRotation =>
    left
    cases present : store.deployment <;>
      simp_all [Store.deletable, Store.status, effect, DELETABLE_DEPLOYMENT_STATUSES]
  | _ => exact .inl deletable

theorem pending_down {hash : String} {value : Unit}
    (executed : exec env (.uploadWorkerScript ⟨hash, .pending⟩) choice store = some (after, .ok value)) :
    after.servesReady = false := by
  obtain ⟨-, rfl⟩ := exec_answered executed
  rfl

/-! ## Runs -/

/-- What a grounded run keeps of its store. -/
def Settled (store : Store) : Prop := store.deletable = true → store.servesReady = false

/-- What a grounded run keeps of each task: from its upload to the end of the step that marks the row a
revocation finds the Worker down, and so does a deletion that passed its check. -/
def Harbored (env : Env) (store : Store) (task : Async Outcome) : Prop :=
  (∃ stage : Stage, stage.plain ∧ task.Follows (course env) Stage.ends stage ∧
    (stage.returns = true → store.servesReady = false)) ∧
  Deletes task ∧ (task.awaits = some .deleteDeployment → store.servesReady = false)

theorem harbored_code (store : Store) (party : Party) : Harbored env store (code env party) := by
  refine ⟨⟨party.stage, party.stage_plain, code_follows party, fun returns => ?_⟩, deletes_code party,
    fun awaited => ?_⟩
  · rw [party.stage_returns] at returns
    contradiction
  · have issued : Issues env party .deleteDeployment :=
      (code_issues party : (code env party).Obeys AnyAnswer _ _).awaited awaited
    cases issued
    exact Command.noConfusion (Option.some.inj awaited)

theorem grounded_run {events : List Event} {world : World}
    (run : (host env).machine.Run Grounded (initial env) events world) :
    Settled world.store ∧ ∀ task ∈ world.tasks, Harbored env world.store task := by
  refine Host.preserves Settled (Harbored env) ?_ ?_ run ?_
  · intro world operation _ _
    exact harbored_code world.store (.request operation)
  · intro world position choice command next after reply settled harbored grounded atPosition executed
    replace executed : exec env command choice world.store = some (after, reply) := executed
    obtain ⟨⟨stage, plain, follows, disabled⟩, deletes, _⟩ := harbored _ (List.mem_of_getElem? atPosition)
    obtain ⟨resumed, checked⟩ := deletes.next executed
    -- a ready bundle after the step was there before it, or the condition excludes the rest
    have down (rest : Prop) (before : rest → world.store.servesReady = false)
        (excluded : choice.delivery ≠ .refused → ∀ script, command = .uploadWorkerScript script →
          script.servesReady = true → ¬ rest) (held : rest) : after.servesReady = false := by
      by_contra up
      rcases servesReady_step executed (Bool.not_eq_false _ ▸ up) with ready | ⟨taken, script, same, ready⟩
      · simp [before held] at ready
      · exact excluded taken script same ready held
    refine ⟨?_, ⟨⟨(course env).next stage command reply, Stage.plain_next plain, follows.2 reply, ?_⟩, resumed, ?_⟩,
      ?_, ?_⟩
    · intro deletable
      rcases deletable_step plain follows.1 executed deletable with
        before | ⟨taken, ⟨detail, rfl⟩, present⟩ | ⟨⟨hash, rfl⟩, returns⟩
      · refine down (world.store.deletable = true) settled (fun taken script same ready held => ?_) before
        obtain ⟨unfailed, unrevoked, -⟩ := (grounded command next atPosition taken).2 script same ready
        obtain ⟨status, same, listed⟩ := (Option.any_eq_true _ _).mp held
        have literal : status = .failed ∨ status = .revoked := by
          simpa [DELETABLE_DEPLOYMENT_STATUSES] using listed
        rcases literal with rfl | rfl
        · exact unfailed same
        · exact unrevoked same
      · exact down True (fun _ => (grounded _ next atPosition taken).1 detail rfl present)
          (fun _ _ same => Command.noConfusion same) trivial
      · exact down True (fun _ => disabled returns) (fun _ _ same => Command.noConfusion same) trivial
    · intro returns
      rcases Stage.returns_next follows.1 returns with before | ⟨token, rfl, answer, rfl⟩
      · have marking := marks_of_returns follows before
        refine down True (fun _ => disabled before) (fun taken script same ready _ => ?_) trivial
        have idle := (((grounded command next atPosition taken).2 script same ready).2.2 _
          (List.mem_of_getElem? atPosition)).2
        rw [marking] at idle
        contradiction
      · exact pending_down executed
    · intro awaited
      obtain ⟨deletable, unchanged⟩ := checked awaited
      rw [Store.servesReady, unchanged]
      exact settled deletable
    · intro task spawned
      obtain ⟨action, -, rfl⟩ := mem_spawns spawned
      exact harbored_code after (.workflow action)
    · intro other task _ atOther
      have member := List.mem_of_getElem? atOther
      obtain ⟨⟨stage, plain, follows, disabled⟩, phase, before⟩ := harbored task member
      refine ⟨⟨stage, plain, follows, fun returns => ?_⟩, phase, ?_⟩
      · refine down True (fun _ => disabled returns) (fun taken script same ready _ => ?_) trivial
        have idle := (((grounded command next atPosition taken).2 script same ready).2.2 task member).2
        rw [marks_of_returns follows returns] at idle
        contradiction
      · refine down _ before fun taken script same ready => ?_
        exact (((grounded command next atPosition taken).2 script same ready).2.2 task member).1
  · refine ⟨nofun, fun task member => ?_⟩
    rw [List.mem_singleton.mp member]
    exact harbored_code _ .creation

/-- Only `deleteDeployment` removes a row. -/
theorem removing_command (executed : exec env command choice store = some (after, reply))
    (present : store.deployment.isSome) (removed : after.deployment = none) : command = .deleteDeployment := by
  rcases exec_store executed with rfl | rfl
  · simp [removed] at present
  · obtain ⟨row, found⟩ := Option.isSome_iff_exists.mp present
    cases command <;> simp_all [effect]

/-- An executable form of `Grounded`. -/
def groundedCheck (world : World) : Event → Bool
  | .start _ => true
  | .act position choice =>
    match world.tasks[position]? with
    | some (.call (.updateStatus .failed _) _) =>
      decide (choice.delivery = .refused) || !world.store.deployment.isSome || !world.store.servesReady
    | some (.call (.uploadWorkerScript script) _) =>
      decide (choice.delivery = .refused) || !script.servesReady ||
        decide (world.store.status ≠ some .failed ∧ world.store.status ≠ some .revoked) &&
          world.tasks.all fun task => decide (task.awaits ≠ some .deleteDeployment) && !marks task
    | _ => true

theorem grounded_of_check (world : World) (event : Event) (passed : groundedCheck world event = true) :
    Grounded world event := by
  cases event with
  | start operation => trivial
  | act position choice =>
    intro command next atPosition taken
    constructor
    · rintro detail rfl present
      simpa [groundedCheck, atPosition, taken, present] using passed
    · rintro script rfl ready
      simp only [groundedCheck, atPosition, taken, ready, decide_false, Bool.not_true, Bool.false_or,
        Bool.and_eq_true, decide_eq_true_eq, List.all_eq_true, Bool.not_eq_true'] at passed
      exact ⟨passed.1.1, passed.1.2, passed.2⟩

end

/-! ## No row is removed above a live Worker -/

/-- In a grounded run the row of a deployment is removed only while its Worker serves no ready
bundle: none was ever uploaded, or a pending one was uploaded since. -/
theorem row_removed_worker_down (env : Env) {events : List Event} {world world' : World} {event : Event}
    (reached : (host env).machine.Run Grounded (initial env) events world)
    (stepped : (host env).machine.step? world event = some world')
    (present : world.store.deployment.isSome) (removed : world'.store.deployment = none) :
    world.store.servesReady = false := by
  cases event with
  | start operation =>
    rw [Host.step?_start, Option.some.injEq] at stepped
    subst stepped
    rw [show world.store.deployment = none from removed] at present
    contradiction
  | act position choice =>
    obtain ⟨command, next, store, answer, atPosition, executed, rfl⟩ := Host.step?_act_iff.mp stepped
    obtain rfl := removing_command executed present removed
    have harbored := (grounded_run reached).2 _ (List.mem_of_getElem? atPosition)
    exact harbored.2.2 rfl

namespace Sample

/-- The deployment becomes ready, a revocation runs to its end, and the revoked deployment is about to be
deleted. -/
def revokedThenDeleted : List Event :=
  bootstrapped ++ answers 3 11 ++ .start .revokeDeployment :: answers 4 6 ++
    .act 5 {} :: .act 5 { drawn := replacementToken } :: answers 5 7 ++ .start .deleteDeployment :: answers 6 1

end Sample

theorem row_removed_worker_down_sample : ∃ world world',
    (host Sample.env).machine.Run Grounded (initial Sample.env) Sample.revokedThenDeleted world ∧
    (host Sample.env).machine.step? world (.act 6 {}) = some world' ∧
    world'.store.deployment = none ∧ world.store.servesReady = false := by
  obtain ⟨world, replayed, present, world', stepped, removed⟩ : ∃ world,
      (host Sample.env).machine.checked? groundedCheck (initial Sample.env) Sample.revokedThenDeleted = some world ∧
      world.store.deployment.isSome ∧ ∃ world',
      (host Sample.env).machine.step? world (.act 6 {}) = some world' ∧ world'.store.deployment = none :=
    ⟨_, rfl, rfl, _, rfl, rfl⟩
  have reached := Machine.Run.of_checked grounded_of_check replayed
  exact ⟨world, world', reached, stepped, removed,
    row_removed_worker_down Sample.env reached stepped present removed⟩

/-- A deletable status above a live Worker is one request away from an orphan, in any state. -/
theorem orphan_of_deletable (env : Env) {world : World} (deletable : world.store.deletable = true)
    (ready : world.store.servesReady = true) : ∃ world',
    (host env).machine.Run Machine.Free world
      [.start .deleteDeployment, .act world.tasks.length {}, .act world.tasks.length {}] world' ∧
    world'.store.deployment = none ∧ world'.store.servesReady = true := by
  obtain ⟨row, present, listed⟩ : ∃ row, world.store.deployment = some row ∧
      row.status ∈ DELETABLE_DEPLOYMENT_STATUSES := by
    cases present : world.store.deployment with
    | none => simp [Store.deletable, Store.status, present] at deletable
    | some row => exact ⟨row, rfl, by simpa [Store.deletable, Store.status, present] using deletable⟩
  obtain ⟨next, reads, deletes, -⟩ := deleteDeployment_reads
  obtain ⟨rest, passed, -⟩ := deletes row listed
  have answered : exec env .selectDeployment {} world.store = some (world.store, .ok (some row)) := by
    simp [exec, deliver, Delivery.deliver, effect, answer, present]
  have started : (host env).machine.step? world (.start .deleteDeployment) =
      some { world with tasks := world.tasks ++ [deleteDeployment] } := Host.step?_start Operation.deleteDeployment
  refine ⟨_, .cons trivial started (.cons trivial (Host.step?_act_iff.mpr ⟨_, next, _, _, ?_, answered, rfl⟩)
    (.cons trivial (Host.step?_act_iff.mpr ⟨_, rest, _, _, ?_, rfl, rfl⟩) (.nil _))), rfl, ready⟩
  · rw [List.getElem?_concat_length]
    exact congrArg some reads
  · simp [passed, spawns, host]

namespace Sample

/-- The deployment becomes ready. The uploads of a later revoke run, task 5, are refused until its
step has no attempt left, and the run records the failure. -/
def failedRevocation : List Event :=
  bootstrapped ++ answers 3 11 ++ .start .revokeDeployment :: answers 4 6 ++
    .act 5 {} :: .act 5 { drawn := replacementToken } ::
    (List.replicate 6 [.act 5 {}, .act 5 { delivery := .refused }]).flatten ++ answers 5 1 ++
    .start .deleteDeployment :: answers 6 1

end Sample

/-- The failed revocation leaves the Worker live under the status `failed`, and the row is deleted. -/
theorem live_worker_orphaned : ∃ world world',
    (host Sample.env).machine.Run Machine.Free (initial Sample.env) Sample.failedRevocation world ∧
    (host Sample.env).machine.step? world (.act 6 {}) = some world' ∧
    world.store.deployment.isSome ∧ world'.store.deployment = none ∧ world.store.servesReady = true := by
  refine ⟨_, _, Machine.Run.free_iff_replay.mpr rfl, rfl, rfl, rfl, rfl⟩

end OmniControlPlane.Deployment
