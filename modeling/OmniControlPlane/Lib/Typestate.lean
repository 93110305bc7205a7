import Mathlib.Data.List.Forall2
import OmniControlPlane.Lib.Interleaving

/-! # Tasks that follow a protocol

A protocol says which calls are allowed in a state, and which state each answer leads to. A task
follows it when its calls do, whatever is answered. In a system whose tasks all follow the protocol,
an invariant speaks about the store and the protocol states only: the programs are looked at once,
when they are shown to follow, and no proof about interleavings unfolds them.
-/

namespace OmniControlPlane.Lib

/-- The calls allowed in each state, and the state after each answer. -/
structure Protocol (ε : Type) {C : Type} (R : C → Type) (G : Type) where
  allowed : G → C → Prop
  next : G → (command : C) → Except ε (R command) → G

namespace Task

variable {ε C G : Type} {R : C → Type} {α β : Type} {protocol : Protocol ε R G}
  {ends ends' : G → Except ε α → Prop} {state : G} {task : Task ε R α}

/-- From a protocol state on, the task makes allowed calls and ends as `ends` says. -/
def Follows (protocol : Protocol ε R G) (ends : G → Except ε α → Prop) : G → Task ε R α → Prop
  | state, done value => ends state (.ok value)
  | state, fail error => ends state (.error error)
  | state, call command next =>
    protocol.allowed state command ∧ ∀ answer, Follows protocol ends (protocol.next state command answer) (next answer)

@[simp] theorem follows_pure (value : α) :
    (pure value : Task ε R α).Follows protocol ends state ↔ ends state (.ok value) := Iff.rfl

@[simp] theorem follows_fail (error : ε) :
    (fail error : Task ε R α).Follows protocol ends state ↔ ends state (.error error) := Iff.rfl

@[simp] theorem follows_throw (error : ε) :
    (throw error : Task ε R α).Follows protocol ends state ↔ ends state (.error error) := Iff.rfl

theorem follows_perform (command : C) {ends : G → Except ε (R command) → Prop} :
    (perform command : Task ε R (R command)).Follows protocol ends state ↔
      protocol.allowed state command ∧ ∀ answer, ends (protocol.next state command answer) answer := by
  refine and_congr_right fun _ => forall_congr' fun answer => ?_
  cases answer <;> rfl

/-- Sequencing: the second task goes on in the state where the first one ends. -/
@[simp] theorem follows_bind (task : Task ε R β) (rest : β → Task ε R α) :
    (task >>= rest).Follows protocol ends state ↔ task.Follows protocol (fun
      | after, .ok value => (rest value).Follows protocol ends after
      | after, .error error => ends after (.error error)) state := by
  change (task.andThen rest).Follows protocol ends state ↔ _
  induction task generalizing state with
  | done value => rfl
  | fail error => rfl
  | call command next ih => exact and_congr_right fun _ => forall_congr' fun answer => ih answer

/-- `try`/`catch`: the handler goes on in the state where the body fails. -/
@[simp] theorem follows_tryCatch (task : Task ε R α) (handler : ε → Task ε R α) :
    (tryCatch task handler).Follows protocol ends state ↔ task.Follows protocol (fun
      | after, .ok value => ends after (.ok value)
      | after, .error error => (handler error).Follows protocol ends after) state := by
  change (task.orElse handler).Follows protocol ends state ↔ _
  induction task generalizing state with
  | done value => rfl
  | fail error => rfl
  | call command next ih => exact and_congr_right fun _ => forall_congr' fun answer => ih answer

/-- Consequence in the outcome. -/
theorem Follows.mono (follows : task.Follows protocol ends state)
    (weaker : ∀ after outcome, ends after outcome → ends' after outcome) : task.Follows protocol ends' state := by
  induction task generalizing state with
  | done value => exact weaker _ _ follows
  | fail error => exact weaker _ _ follows
  | call command next ih => exact ⟨follows.1, fun answer => ih answer (follows.2 answer)⟩

/-- One call and what follows it; an error of the call ends the whole. -/
theorem Follows.after {command : C} {rest : R command → Task ε R α} (called : protocol.allowed state command)
    (answered : ∀ value, (rest value).Follows protocol ends (protocol.next state command (.ok value)))
    (failed : ∀ error, ends (protocol.next state command (.error error)) (.error error)) :
    (perform command >>= rest).Follows protocol ends state := by
  refine (follows_bind _ _).mpr ((follows_perform command).mpr ⟨called, fun answer => ?_⟩)
  cases answer with
  | ok value => exact answered value
  | error error => exact failed error

/-- A task that comes back to the same state, however it ends. -/
abbrev Stays (protocol : Protocol ε R G) (state : G) (task : Task ε R α) : Prop :=
  task.Follows protocol (fun after _ => after = state) state

theorem Stays.performing {command : C} (called : protocol.allowed state command)
    (back : ∀ answer, protocol.next state command answer = state) :
    Stays protocol state (perform command : Task ε R (R command)) :=
  (follows_perform command).mpr ⟨called, back⟩

theorem Stays.seq {task : Task ε R β} {rest : β → Task ε R α} (first : Stays protocol state task)
    (second : ∀ value, Stays protocol state (rest value)) : Stays protocol state (task >>= rest) := by
  refine (follows_bind task rest).mpr (first.mono ?_)
  rintro _ (error | value) rfl
  · rfl
  · exact second value

theorem Stays.catching {handler : ε → Task ε R α} (body : Stays protocol state task)
    (handles : ∀ error, Stays protocol state (handler error)) : Stays protocol state (tryCatch task handler) := by
  refine (follows_tryCatch task handler).mpr (body.mono ?_)
  rintro _ (error | value) rfl
  · exact handles error
  · rfl

theorem Stays.retrying (body : Stays protocol state task) (retries : ℕ) :
    Stays protocol state (task.retrying retries) := by
  induction retries with
  | zero => exact body
  | succ retries ih => exact .catching body fun _ => ih

theorem Stays.throwIf {refused : Prop} [Decidable refused] {error : ε} :
    Stays protocol state (throwIf refused error : Task ε R Unit) := by
  rw [Task.throwIf]
  split <;> rfl

/-- The rest runs where nothing was thrown. -/
theorem Follows.unless {refused : Prop} [Decidable refused] {error : ε} {rest : Unit → Task ε R α}
    (thrown : refused → ends state (.error error)) (kept : ¬ refused → (rest ()).Follows protocol ends state) :
    (throwIf refused error >>= rest).Follows protocol ends state := by
  rw [throwIf]
  split
  · next holds => exact thrown holds
  · next holds => exact kept holds

/-- A step that starts over after an error, from wherever an attempt fails. -/
theorem Follows.retrying (first : task.Follows protocol ends state)
    (again : ∀ after error, ends after (.error error) → task.Follows protocol ends after) (retries : ℕ) :
    (task.retrying retries).Follows protocol ends state := by
  induction retries generalizing state with
  | zero => exact first
  | succ retries ih =>
    refine (follows_tryCatch task fun _ => task.retrying retries).mpr (first.mono ?_)
    rintro after (error | value) outcome
    · exact ih (again after error outcome)
    · exact outcome

/-- What a task obeys in a state that none of its calls leaves. -/
theorem Obeys.follows {guarantee : C → Prop} {post : Except ε α → Prop} (obeys : task.Obeys AnyAnswer guarantee post)
    (allowed : ∀ command, guarantee command → protocol.allowed state command)
    (stays : ∀ command answer, guarantee command → protocol.next state command answer = state)
    (ended : ∀ outcome, post outcome → ends state outcome) : task.Follows protocol ends state := by
  induction task with
  | done value => exact ended _ obeys
  | fail error => exact ended _ obeys
  | call command next ih =>
    refine ⟨allowed command obeys.1, fun answer => ?_⟩
    rw [stays command answer obeys.1]
    exact ih answer (obeys.2 answer trivial)

/-- A loop over a list, each round of which comes back to the same state. -/
theorem Follows.forM {item : Type} {body : item → Task ε R PUnit} {ends : G → Except ε PUnit → Prop}
    {items : List item} (step : ∀ item ∈ items, (body item).Follows protocol (fun
      | after, .ok _ => after = state
      | after, .error error => ends after (.error error)) state)
    (finished : ends state (.ok ⟨⟩)) : (items.forM body).Follows protocol ends state := by
  induction items with
  | nil => exact finished
  | cons first rest ih =>
    refine (follows_bind (body first) _).mpr ((step first List.mem_cons_self).mono ?_)
    rintro after (error | value) outcome
    · exact outcome
    · exact (show after = state from outcome) ▸ ih fun item member => step item (List.mem_cons_of_mem first member)

end Task

namespace Host

variable {ε C G : Type} {R : C → Type} {α Store Choice Operation : Type}
  {host : Host ε R α Store Choice Operation} {world world' : World ε R α Store}

/-- Every program of a system follows the protocol, and so does every task it spawns. -/
structure Plays (host : Host ε R α Store Choice Operation) (protocol : Protocol ε R G)
    (ends : G → Except ε α → Prop) (begins : Operation → G) (spawned : C → Choice → List G) : Prop where
  program : ∀ operation, (host.program operation).Follows protocol ends (begins operation)
  spawns : ∀ command choice, List.Forall₂ (Task.Follows protocol ends) (spawned command choice)
    (host.spawns command choice)

/-- The tasks of a world follow the protocol from these states on. -/
def Held (protocol : Protocol ε R G) (ends : G → Except ε α → Prop) (held : List G)
    (world : World ε R α Store) : Prop :=
  List.Forall₂ (Task.Follows protocol ends) held world.tasks

variable {protocol : Protocol ε R G} {ends : G → Except ε α → Prop} {begins : Operation → G}
  {spawned : C → Choice → List G} {held : List G} {position : ℕ}

theorem Held.length_eq (holds : Held protocol ends held world) : held.length = world.tasks.length :=
  List.Forall₂.length_eq holds

theorem Held.at (holds : Held protocol ends held world) {task : Task ε R α}
    (atPosition : world.tasks[position]? = some task) :
    ∃ state, held[position]? = some state ∧ task.Follows protocol ends state := by
  obtain ⟨bound, rfl⟩ := List.getElem?_eq_some_iff.mp atPosition
  have inHeld : position < held.length := holds.length_eq ▸ bound
  exact ⟨held[position], List.getElem?_eq_getElem inHeld, List.Forall₂.get holds inHeld bound⟩

theorem Held.task (holds : Held protocol ends held world) {state : G}
    (atPosition : held[position]? = some state) :
    ∃ task, world.tasks[position]? = some task ∧ task.Follows protocol ends state := by
  obtain ⟨bound, rfl⟩ := List.getElem?_eq_some_iff.mp atPosition
  have inTasks : position < world.tasks.length := holds.length_eq ▸ bound
  exact ⟨world.tasks[position], List.getElem?_eq_getElem inTasks, List.Forall₂.get holds bound inTasks⟩

/-- A state in which no task may have ended is held by a task that awaits an allowed call. -/
theorem Held.awaiting (holds : Held protocol ends held world) {state : G}
    (atPosition : held[position]? = some state) (busy : ∀ outcome, ¬ ends state outcome) :
    ∃ task command, world.tasks[position]? = some task ∧ task.awaits = some command ∧
      protocol.allowed state command := by
  obtain ⟨task, atTask, follows⟩ := holds.task atPosition
  cases task with
  | done value => exact (busy _ follows).elim
  | fail error => exact (busy _ follows).elim
  | call command next => exact ⟨_, command, atTask, rfl, follows.1⟩

theorem forall₂_set {τ υ : Type*} {rel : τ → υ → Prop} {first : List τ} {second : List υ}
    (related : List.Forall₂ rel first second) {a : τ} {b : υ} (new : rel a b) (position : ℕ) :
    List.Forall₂ rel (first.set position a) (second.set position b) := by
  induction related generalizing position with
  | nil => exact .nil
  | cons head tail ih =>
    cases position with
    | zero => exact .cons new tail
    | succ position => exact .cons head (ih position)

/-- Where a list is changed at one position and extended, an element is the new one, an old one at its
place, or one of those added. -/
theorem getElem?_set_append {τ : Type*} {before added : List τ} {new found : τ} {other : ℕ}
    (atOther : (before.set position new ++ added)[other]? = some found) :
    other = position ∧ found = new ∨ other ≠ position ∧ before[other]? = some found ∨
      before.length ≤ other ∧ found ∈ added := by
  rw [List.getElem?_append] at atOther
  split at atOther
  · rw [List.getElem?_set] at atOther
    split at atOther
    · next same =>
      split at atOther
      · exact .inl ⟨same.symm, (Option.some.inj atOther).symm⟩
      · contradiction
    · next different => exact .inr (.inl ⟨fun same => different same.symm, atOther⟩)
  · next beyond =>
    rw [List.length_set, Nat.not_lt] at beyond
    exact .inr (.inr ⟨beyond, List.mem_of_getElem? atOther⟩)

theorem getElem?_set_append_self {τ : Type*} {before : List τ} {old : τ} (atPosition : before[position]? = some old)
    (added : List τ) (new : τ) : (before.set position new ++ added)[position]? = some new := by
  have bound := (List.getElem?_eq_some_iff.mp atPosition).1
  rw [List.getElem?_append_left (by simpa using bound), List.getElem?_set_self bound]

theorem mem_set_append {τ : Type*} {before added : List τ} {new found : τ}
    (member : found ∈ before.set position new ++ added) : found = new ∨ found ∈ before ∨ found ∈ added := by
  obtain ⟨other, atOther⟩ := List.mem_iff_getElem?.mp member
  rcases getElem?_set_append atOther with ⟨-, same⟩ | ⟨-, old⟩ | ⟨-, added⟩
  · exact .inl same
  · exact .inr (.inl (List.mem_of_getElem? old))
  · exact .inr (.inr added)

/-- The invariant rule: a relation between the store and the protocol states that each allowed call
keeps holds after every run. -/
theorem Plays.preserves (plays : host.Plays protocol ends begins spawned) (inv : Store → List G → Prop)
    {cond : World ε R α Store → Event Operation Choice → Prop}
    (started : ∀ world held operation, Held protocol ends held world → inv world.store held →
      cond world (.start operation) → inv world.store (held ++ [begins operation]))
    (acted : ∀ world held position choice task command store answer state, Held protocol ends held world →
      inv world.store held → cond world (.act position choice) → world.tasks[position]? = some task →
      task.awaits = some command → held[position]? = some state → protocol.allowed state command →
      host.exec command choice world.store = some (store, answer) →
      inv store (held.set position (protocol.next state command answer) ++ spawned command choice))
    {events : List (Event Operation Choice)} (run : host.machine.Run cond world events world')
    (initial : ∃ held, Held protocol ends held world ∧ inv world.store held) :
    ∃ held, Held protocol ends held world' ∧ inv world'.store held := by
  refine run.preserves (fun world => ∃ held, Held protocol ends held world ∧ inv world.store held) ?_ initial
  rintro world event world' ⟨held, holds, kept⟩ met stepped
  cases event with
  | start operation =>
    rw [step?_start, Option.some.injEq] at stepped
    subst stepped
    refine ⟨_, ?_, started world held operation holds kept met⟩
    exact List.rel_append holds (.cons (plays.program operation) .nil)
  | act position choice =>
    obtain ⟨command, next, store, answer, atPosition, executed, rfl⟩ := step?_act_iff.mp stepped
    obtain ⟨state, inState, called, follows⟩ := holds.at atPosition
    refine ⟨_, ?_, acted world held position choice _ command store answer state holds kept met atPosition rfl
      inState called executed⟩
    exact List.rel_append (forall₂_set holds (follows answer) position) (plays.spawns command choice)

end Host

end OmniControlPlane.Lib
