import OmniControlPlane.Lib.Machine
import OmniControlPlane.Lib.Task

/-! # Interleaved tasks over a shared store

A world is a store and a list of tasks, finished ones included. An event starts an operation or
lets one task receive the answer to the call it awaits. The host says what the call does to the
store: the choice in the event fixes how it is answered, and a choice may be impossible. A call
may spawn further tasks, such as the workflow instance that a request creates.

The invariant rule is the one for interference freedom: a store invariant, an assertion on each
task, and a proof that a step keeps the assertion of the task that moves and of every other one.
-/

namespace OmniControlPlane.Lib

/-- How a remote call ends: answered, applied with the answer lost, or refused without effect. -/
inductive Delivery where
  | answered | lost | refused
deriving DecidableEq, Repr

/-- What such a call leaves and hands back; without its answer the caller sees `error`. -/
def Delivery.deliver {ε α Store : Type} (delivery : Delivery) (error : ε) (store applied : Store)
    (answer : α) : Store × Except ε α :=
  match delivery with
  | .answered => (applied, .ok answer)
  | .lost => (applied, .error error)
  | .refused => (store, .error error)

/-- What surrounds the tasks of a system. -/
structure Host (ε : Type) {C : Type} (R : C → Type) (α Store Choice Operation : Type) where
  program : Operation → Task ε R α
  exec : (command : C) → Choice → Store → Option (Store × Except ε (R command))
  spawns : C → Choice → List (Task ε R α)

/-- The shared store and every task started so far. -/
structure World (ε : Type) {C : Type} (R : C → Type) (α Store : Type) where
  store : Store
  tasks : List (Task ε R α)

/-- An operation begins, or the task at a position receives its answer. -/
inductive Event (Operation Choice : Type) where
  | start (operation : Operation)
  | act (position : ℕ) (choice : Choice)

namespace Host

variable {ε C : Type} {R : C → Type} {α Store Choice Operation : Type}
  (host : Host ε R α Store Choice Operation)

/-- One atomic step of the whole system. -/
def step? (world : World ε R α Store) : Event Operation Choice → Option (World ε R α Store)
  | .start operation => some { world with tasks := world.tasks ++ [host.program operation] }
  | .act position choice =>
    match world.tasks[position]? with
    | some (.call command next) =>
      (host.exec command choice world.store).map fun result =>
        ⟨result.1, world.tasks.set position (next result.2) ++ host.spawns command choice⟩
    | _ => none

/-- The labelled machine of the system. -/
def machine : Machine (World ε R α Store) (Event Operation Choice) := ⟨host.step?⟩

variable {host} {world world' : World ε R α Store} {position : ℕ} {choice : Choice}

/-- A step of a task: the call it awaits is executed and its answer resumes that task alone. -/
theorem step?_act_iff : host.machine.step? world (.act position choice) = some world' ↔
    ∃ command next store answer, world.tasks[position]? = some (.call command next) ∧
      host.exec command choice world.store = some (store, answer) ∧
      world' = ⟨store, world.tasks.set position (next answer) ++ host.spawns command choice⟩ := by
  change host.step? world (.act position choice) = some world' ↔ _
  constructor
  · intro stepped
    rw [step?] at stepped
    split at stepped
    · next command next atPosition =>
      obtain ⟨⟨store, answer⟩, executed, rfl⟩ := Option.map_eq_some_iff.mp stepped
      exact ⟨command, next, store, answer, atPosition, executed, rfl⟩
    · contradiction
  · rintro ⟨command, next, store, answer, atPosition, executed, rfl⟩
    simp only [step?, atPosition, executed, Option.map_some]

theorem step?_start (operation : Operation) :
    host.machine.step? world (.start operation) =
      some { world with tasks := world.tasks ++ [host.program operation] } := rfl

/-- After a step a task is the resumed one, a spawned one, or one that did not move. -/
theorem mem_tasks_act {command : C} {next : Except ε (R command) → Task ε R α}
    {answer : Except ε (R command)} {task : Task ε R α} {spawned : List (Task ε R α)}
    (member : task ∈ world.tasks.set position (next answer) ++ spawned) :
    task = next answer ∨ task ∈ spawned ∨
      ∃ other, other ≠ position ∧ world.tasks[other]? = some task := by
  rcases List.mem_append.mp member with inSet | inSpawned
  · obtain ⟨other, atOther⟩ := List.mem_iff_getElem?.mp inSet
    rw [List.getElem?_set] at atOther
    split at atOther
    · split at atOther
      · exact .inl (Option.some.inj atOther).symm
      · contradiction
    · next different => exact .inr (.inr ⟨other, fun same => different same.symm, atOther⟩)
  · exact .inr (.inl inSpawned)

/-- The invariant rule. `holds` speaks about the store, `asserts` about one task in that store. -/
theorem preserves (holds : Store → Prop) (asserts : Store → Task ε R α → Prop)
    {cond : World ε R α Store → Event Operation Choice → Prop}
    (started : ∀ world operation, holds world.store → cond world (.start operation) →
      asserts world.store (host.program operation))
    (acted : ∀ world position choice command next store answer,
      holds world.store → (∀ task ∈ world.tasks, asserts world.store task) →
      cond world (.act position choice) →
      world.tasks[position]? = some (.call command next) →
      host.exec command choice world.store = some (store, answer) →
      holds store ∧ asserts store (next answer) ∧
        (∀ task ∈ host.spawns command choice, asserts store task) ∧
        ∀ other task, other ≠ position → world.tasks[other]? = some task → asserts store task)
    {events : List (Event Operation Choice)} (run : host.machine.Run cond world events world')
    (initial : holds world.store ∧ ∀ task ∈ world.tasks, asserts world.store task) :
    holds world'.store ∧ ∀ task ∈ world'.tasks, asserts world'.store task := by
  refine run.preserves (fun world =>
    holds world.store ∧ ∀ task ∈ world.tasks, asserts world.store task) ?_ initial
  rintro world event world' ⟨held, asserted⟩ met stepped
  cases event with
  | start operation =>
    rw [step?_start, Option.some.injEq] at stepped
    subst stepped
    refine ⟨held, fun task member => ?_⟩
    rcases List.mem_append.mp member with old | new
    · exact asserted task old
    · rw [List.mem_singleton.mp new]
      exact started world operation held met
  | act position choice =>
    obtain ⟨command, next, store, answer, atPosition, executed, rfl⟩ := step?_act_iff.mp stepped
    obtain ⟨heldAfter, resumed, spawned, others⟩ :=
      acted world position choice command next store answer held asserted met atPosition executed
    refine ⟨heldAfter, fun task member => ?_⟩
    rcases mem_tasks_act member with rfl | inSpawned | ⟨other, different, atOther⟩
    · exact resumed
    · exact spawned task inSpawned
    · exact others other task different atOther

/-! ## A condition on each call, and one task alone -/

/-- The call that a step executes meets the condition. -/
def Acting (cond : (command : C) → Choice → Store → Prop) (world : World ε R α Store) :
    Event Operation Choice → Prop
  | .start _ => True
  | .act position choice => ∀ command next, world.tasks[position]? = some (.call command next) →
      cond command choice world.store

/-- The condition on a step is the one on the call that its task awaits. -/
theorem acting_iff {cond : (command : C) → Choice → Store → Prop} {command : C}
    {next : Except ε (R command) → Task ε R α} (atPosition : world.tasks[position]? = some (.call command next)) :
    Acting cond world (.act position choice : Event Operation Choice) ↔ cond command choice world.store := by
  constructor
  · exact fun acting => acting command next atPosition
  · intro met awaited next' same
    cases atPosition.symm.trans same
    exact met

/-- The call that a task awaits meets the condition on its step. -/
theorem Acting.of_awaits {cond : (command : C) → Choice → Store → Prop}
    (acting : Acting cond world (.act position choice : Event Operation Choice)) {task : Task ε R α} {command : C}
    (atPosition : world.tasks[position]? = some task) (awaits : task.awaits = some command) :
    cond command choice world.store := by
  cases task with
  | call other next =>
    obtain rfl := Option.some.inj awaits
    exact acting other next atPosition
  | done _ | fail _ => contradiction

instance {cond : (command : C) → Choice → Store → Prop} [∀ command choice store, Decidable (cond command choice store)]
    (event : Event Operation Choice) : Decidable (Acting cond world event) :=
  match event with
  | .start _ => .isTrue trivial
  | .act position choice =>
    match found : world.tasks[position]? with
    | some (.call command _) => decidable_of_iff (cond command choice world.store) (acting_iff found).symm
    | some (.done _) | some (.fail _) | none => .isTrue fun _ _ same => nomatch found.symm.trans same

/-- One task moves by itself, with these choices. -/
inductive Alone (host : Host ε R α Store Choice Operation) (cond : (command : C) → Choice → Store → Prop) :
    Task ε R α → Store → List Choice → Task ε R α → Store → Prop
  | nil (task : Task ε R α) (store : Store) : Alone host cond task store [] task store
  | cons {command : C} {next : Except ε (R command) → Task ε R α} {store mid after : Store}
      {answer : Except ε (R command)} {choice : Choice} {choices : List Choice} {task : Task ε R α} :
      cond command choice store → host.exec command choice store = some (mid, answer) →
      Alone host cond (next answer) mid choices task after →
      Alone host cond (.call command next) store (choice :: choices) task after

theorem Alone.append {cond : (command : C) → Choice → Store → Prop} {task middle ended : Task ε R α}
    {before mid after : Store} {first second : List Choice} (left : Alone host cond task before first middle mid)
    (right : Alone host cond middle mid second ended after) :
    Alone host cond task before (first ++ second) ended after := by
  induction left with
  | nil => exact right
  | cons met executed _ ih => exact .cons met executed (ih right)

/-- What a task does alone is a run of the whole system. -/
theorem Alone.run {cond : (command : C) → Choice → Store → Prop} {task ended : Task ε R α}
    {before after : Store} {choices : List Choice}
    (noSpawns : ∀ command choice, host.spawns command choice = [])
    (alone : Alone host cond task before choices ended after) (tasks : List (Task ε R α))
    (atPosition : tasks[position]? = some task) :
    host.machine.Run (Acting cond) ⟨before, tasks⟩ (choices.map (.act position))
      ⟨after, tasks.set position ended⟩ := by
  induction alone generalizing tasks with
  | nil task store =>
    obtain ⟨bound, found⟩ := List.getElem?_eq_some_iff.mp atPosition
    rw [← found, List.set_getElem_self]
    exact .nil _
  | @cons command next store mid after answer choice choices task met executed _ ih =>
    have bound := (List.getElem?_eq_some_iff.mp atPosition).1
    have resumed : (tasks.set position (next answer))[position]? = some (next answer) :=
      List.getElem?_set_self bound
    have rest := ih (tasks.set position (next answer)) resumed
    rw [List.set_set] at rest
    refine .cons ((acting_iff atPosition).mpr met)
      (step?_act_iff.mpr ⟨command, next, mid, answer, atPosition, executed, ?_⟩) rest
    rw [noSpawns, List.append_nil]

end Host

/-- No task is waiting for an answer. -/
def World.Quiet {ε C : Type} {R : C → Type} {α Store : Type} (world : World ε R α Store) : Prop :=
  ∀ task ∈ world.tasks, task.inFlight = false

theorem World.quiet_of_all {ε C : Type} {R : C → Type} {α Store : Type} {world : World ε R α Store}
    (finished : world.tasks.all (!·.inFlight) = true) : world.Quiet :=
  fun task member => by simpa using List.all_eq_true.mp finished task member

/-- Replacing one element moves a count by that element alone. -/
theorem countP_set_add {τ : Type*} (counts : τ → Prop) [DecidablePred counts] {before : List τ} {position : ℕ}
    {old : τ} (atPosition : before[position]? = some old) (new : τ) :
    (before.set position new).countP counts + (if counts old then 1 else 0) =
      before.countP counts + if counts new then 1 else 0 := by
  obtain ⟨bound, rfl⟩ := List.getElem?_eq_some_iff.mp atPosition
  have counted : (if counts before[position] then 1 else 0) ≤ before.countP counts := by
    split
    · next holds => exact List.countP_pos_iff.mpr ⟨_, List.getElem_mem bound, decide_eq_true holds⟩
    · exact Nat.zero_le _
  rw [List.countP_set bound]
  simp only [decide_eq_true_eq]
  omega

end OmniControlPlane.Lib
