import Mathlib.Tactic.Common

/-! # Asynchronous tasks and what they may ask for

A task is an async function seen from outside: it finishes with a value, finishes with an error,
or awaits one call whose answer, an error included, selects the rest. Between two awaits nothing
else runs, so a call is the unit of interleaving.

`Task.Obeys rely guarantee post` is the rely/guarantee judgement for one task: as long as its
calls are answered as `rely` says, every call it makes satisfies `guarantee` and its outcome
satisfies `post`. The rules follow the shape of the code: sequencing, `try`/`catch`, a retried
step and a case distinction.
-/

namespace OmniControlPlane.Lib

/-- An async function over commands `C`, answered in `R`, failing with `ε`, returning `α`. -/
inductive Task (ε : Type) {C : Type} (R : C → Type) (α : Type) : Type
  | done (value : α)
  | fail (error : ε)
  | call (command : C) (next : Except ε (R command) → Task ε R α)

namespace Task

variable {ε C : Type} {R : C → Type} {α β : Type}

/-- Continue with the value of the first task; its error ends the whole. -/
def andThen : Task ε R α → (α → Task ε R β) → Task ε R β
  | done value, rest => rest value
  | fail error, _ => fail error
  | call command next, rest => call command fun answer => (next answer).andThen rest

/-- Continue with the handler where the task fails. -/
def orElse : Task ε R α → (ε → Task ε R α) → Task ε R α
  | done value, _ => done value
  | fail error, handler => handler error
  | call command next, handler => call command fun answer => (next answer).orElse handler

instance : Monad (Task ε R) where
  pure := done
  bind := andThen

instance : MonadExceptOf ε (Task ε R) where
  throw := fail
  tryCatch := orElse

/-- Await one call and hand its error on. -/
def perform (command : C) : Task ε R (R command) :=
  call command fun
    | .ok answer => done answer
    | .error error => fail error

/-- A step that starts over after an error, at most `retries` times. -/
def retrying : ℕ → Task ε R α → Task ε R α
  | 0, body => body
  | retries + 1, body => body.orElse fun _ => retrying retries body

/-- `if (refused) throw error`. -/
def throwIf (refused : Prop) [Decidable refused] (error : ε) : Task ε R Unit :=
  if refused then fail error else done ()

theorem throwIf_kept {refused : Prop} [Decidable refused] {error : ε} {rest : Unit → Task ε R α}
    (kept : ¬ refused) : throwIf refused error >>= rest = rest () := by
  rw [throwIf, if_neg kept]
  rfl

/-- The call a task awaits, when it awaits one. -/
def awaits : Task ε R α → Option C
  | call command _ => some command
  | _ => none

/-- A task in flight has not finished. -/
def inFlight (task : Task ε R α) : Bool := task.awaits.isSome

/-- A task that has ended with an error. -/
def failed : Task ε R α → Bool
  | fail _ => true
  | _ => false

theorem failed_eq_false {task : Task ε R α} (other : ∀ error, task ≠ fail error) : task.failed = false := by
  cases task with
  | fail error => exact absurd rfl (other error)
  | done _ | call _ _ => rfl

/-- The value of a task that has ended with one. -/
def value? : Task ε R α → Option α
  | done value => some value
  | _ => none

theorem value?_eq_some {task : Task ε R α} {value : α} : task.value? = some value ↔ task = done value := by
  cases task <;> simp [value?]

@[simp] theorem awaits_done (value : α) : (done value : Task ε R α).awaits = none := rfl

@[simp] theorem awaits_fail (error : ε) : (fail error : Task ε R α).awaits = none := rfl

@[simp] theorem awaits_call (command : C) (next : Except ε (R command) → Task ε R α) :
    (call command next).awaits = some command := rfl

/-! ## The rely/guarantee judgement -/

section Judgement

/-- Answered per `rely`, the task calls per `guarantee` and ends per `post`. -/
def Obeys (rely : (command : C) → Except ε (R command) → Prop) (guarantee : C → Prop)
    (post : Except ε α → Prop) : Task ε R α → Prop
  | done value => post (.ok value)
  | fail error => post (.error error)
  | call command next =>
    guarantee command ∧ ∀ answer, rely command answer → Obeys rely guarantee post (next answer)

/-- Any answer may come back. -/
abbrev AnyAnswer : (command : C) → Except ε (R command) → Prop := fun _ _ => True

/-- Any outcome is fine. -/
abbrev AnyOutcome : Except ε α → Prop := fun _ => True

/-- The task ends, if at all, with an error. -/
def OnlyError : Except ε α → Prop
  | .ok _ => False
  | .error _ => True

variable {rely rely' : (command : C) → Except ε (R command) → Prop} {guarantee guarantee' : C → Prop}
  {post post' : Except ε α → Prop} {task : Task ε R α}

@[simp] theorem obeys_done (value : α) :
    (done value : Task ε R α).Obeys rely guarantee post ↔ post (.ok value) := Iff.rfl

@[simp] theorem obeys_pure (value : α) :
    (pure value : Task ε R α).Obeys rely guarantee post ↔ post (.ok value) := Iff.rfl

@[simp] theorem obeys_fail (error : ε) :
    (fail error : Task ε R α).Obeys rely guarantee post ↔ post (.error error) := Iff.rfl

@[simp] theorem obeys_throw (error : ε) :
    (throw error : Task ε R α).Obeys rely guarantee post ↔ post (.error error) := Iff.rfl

@[simp] theorem obeys_call (command : C) (next : Except ε (R command) → Task ε R α) :
    (call command next).Obeys rely guarantee post ↔
      guarantee command ∧ ∀ answer, rely command answer → (next answer).Obeys rely guarantee post :=
  Iff.rfl

theorem obeys_perform (command : C) {post : Except ε (R command) → Prop} :
    (perform command : Task ε R (R command)).Obeys rely guarantee post ↔
      guarantee command ∧ ∀ answer, rely command answer → post answer := by
  simp only [perform, obeys_call]
  refine and_congr_right fun _ => forall_congr' fun answer => ?_
  cases answer <;> rfl

/-- Sequencing: the first task ends where the second may start. -/
@[simp] theorem obeys_bind (task : Task ε R β) (rest : β → Task ε R α) :
    (task >>= rest).Obeys rely guarantee post ↔ task.Obeys rely guarantee fun
      | .ok value => (rest value).Obeys rely guarantee post
      | .error error => post (.error error) := by
  change (task.andThen rest).Obeys rely guarantee post ↔ _
  induction task with
  | done value => rfl
  | fail error => rfl
  | call command next ih => simp only [andThen, obeys_call, ih]

/-- `try`/`catch`: the handler starts where the body fails. -/
@[simp] theorem obeys_tryCatch (task : Task ε R α) (handler : ε → Task ε R α) :
    (tryCatch task handler).Obeys rely guarantee post ↔ task.Obeys rely guarantee fun
      | .ok value => post (.ok value)
      | .error error => (handler error).Obeys rely guarantee post := by
  change (task.orElse handler).Obeys rely guarantee post ↔ _
  induction task with
  | done value => rfl
  | fail error => rfl
  | call command next ih => simp only [orElse, obeys_call, ih]

/-- Consequence: fewer answers to rely on, less to guarantee, less to end with. -/
theorem Obeys.mono (obeys : task.Obeys rely guarantee post)
    (fewer : ∀ command answer, rely' command answer → rely command answer)
    (weaker : ∀ command, guarantee command → guarantee' command)
    (ends : ∀ outcome, post outcome → post' outcome) : task.Obeys rely' guarantee' post' := by
  induction task with
  | done value => exact ends _ obeys
  | fail error => exact ends _ obeys
  | call command next ih =>
    exact ⟨weaker _ obeys.1, fun answer given => ih answer (obeys.2 answer (fewer _ _ given))⟩

/-- Consequence in the outcome only. -/
theorem Obeys.post_mono (obeys : task.Obeys rely guarantee post)
    (ends : ∀ outcome, post outcome → post' outcome) : task.Obeys rely guarantee post' :=
  obeys.mono (fun _ _ given => given) (fun _ met => met) ends

/-- One call, whatever it answers. -/
theorem Obeys.performing {command : C} (called : guarantee command) :
    (perform command : Task ε R (R command)).Obeys rely guarantee AnyOutcome :=
  (obeys_perform command).mpr ⟨called, fun _ _ => trivial⟩

/-- Sequencing, where the second task starts from any value. -/
theorem Obeys.seq {task : Task ε R β} {rest : β → Task ε R α}
    (first : task.Obeys rely guarantee AnyOutcome)
    (second : ∀ value, (rest value).Obeys rely guarantee AnyOutcome) :
    (task >>= rest).Obeys rely guarantee AnyOutcome := by
  refine (obeys_bind task rest).mpr (first.post_mono ?_)
  rintro (error | value) -
  · trivial
  · exact second value

/-- A sequence fails where its second task only fails. -/
theorem Obeys.seq_onlyError {task : Task ε R β} {rest : β → Task ε R α}
    (first : task.Obeys rely guarantee AnyOutcome)
    (second : ∀ value, (rest value).Obeys rely guarantee OnlyError) :
    (task >>= rest).Obeys rely guarantee OnlyError := by
  refine (obeys_bind task rest).mpr (first.post_mono ?_)
  rintro (error | value) -
  · trivial
  · exact second value

theorem throwIf_obeys {refused : Prop} [Decidable refused] {error : ε} :
    (throwIf refused error : Task ε R Unit).Obeys rely guarantee AnyOutcome := by
  rw [throwIf]
  split <;> trivial

/-- The rest runs where nothing was thrown. -/
theorem throwIf_calls {refused : Prop} [Decidable refused] {error : ε} {rest : Task ε R α}
    (continued : ¬ refused → rest.Obeys rely guarantee AnyOutcome) :
    (throwIf refused error >>= fun _ => rest).Obeys rely guarantee AnyOutcome := by
  rw [obeys_bind, throwIf]
  split
  · trivial
  · next kept => exact continued kept

/-- What follows a task that only fails never starts. -/
theorem Obeys.stops {task : Task ε R β} {rest : β → Task ε R α}
    (first : task.Obeys rely guarantee OnlyError) : (task >>= rest).Obeys rely guarantee OnlyError := by
  refine (obeys_bind task rest).mpr (first.post_mono ?_)
  rintro (error | value) ended
  · trivial
  · exact ended.elim

/-- `try`/`catch`, where the handler starts from any error. -/
theorem Obeys.catching {handler : ε → Task ε R α} (body : task.Obeys rely guarantee AnyOutcome)
    (handles : ∀ error, (handler error).Obeys rely guarantee AnyOutcome) :
    (tryCatch task handler).Obeys rely guarantee AnyOutcome := by
  refine (obeys_tryCatch task handler).mpr (body.post_mono ?_)
  rintro (error | value) -
  · exact handles error
  · trivial

theorem Obeys.anyOutcome (obeys : task.Obeys rely guarantee post) : task.Obeys rely guarantee AnyOutcome :=
  obeys.post_mono fun _ _ => trivial

/-- A retried step obeys what each attempt obeys. -/
theorem Obeys.retrying (obeys : task.Obeys rely guarantee post) (retries : ℕ) :
    (task.retrying retries).Obeys rely guarantee post := by
  induction retries with
  | zero => exact obeys
  | succ retries ih =>
    refine (obeys_tryCatch task fun _ => task.retrying retries).mpr (obeys.post_mono ?_)
    rintro (error | value) ended
    · exact ih
    · exact ended

/-- The call that an obedient task awaits is one it guarantees. -/
theorem Obeys.awaited {command : C} (obeys : task.Obeys rely guarantee post)
    (awaited : task.awaits = some command) : guarantee command := by
  cases task with
  | call _ next => exact Option.some.inj awaited ▸ obeys.1
  | done _ => contradiction
  | fail _ => contradiction

/-- A task that obeys stays obedient across each answer it may rely on. -/
theorem Obeys.next {command : C} {next : Except ε (R command) → Task ε R α}
    (obeys : (call command next).Obeys rely guarantee post) {answer : Except ε (R command)}
    (given : rely command answer) : (next answer).Obeys rely guarantee post :=
  obeys.2 answer given

end Judgement

/-! ## Calls outside every `try` -/

section Exposure

variable {exposed : C → Prop} {task : Task ε R α}

/-- The task ends with an error exactly where a call that is exposed fails. -/
def Exposes (exposed : C → Prop) : Task ε R α → Prop
  | done _ => True
  | fail _ => False
  | call command next => (∀ value, Exposes exposed (next (.ok value))) ∧
    ∀ error, (exposed command → (next (.error error)).failed = true) ∧
      (¬ exposed command → Exposes exposed (next (.error error)))

theorem Exposes.failed (exposes : task.Exposes exposed) : task.failed = false := by
  cases task with
  | fail error => exact exposes.elim
  | done _ | call _ _ => rfl

/-- What an answer makes of the task: an error of an exposed call ends it, and after any other answer it goes on like before. -/
theorem Exposes.next {command : C} {next : Except ε (R command) → Task ε R α}
    (exposes : (call command next).Exposes exposed) (answer : Except ε (R command)) :
    ((next answer).failed = true ↔ exposed command ∧ ∃ error, answer = .error error) ∧
      ((next answer).failed = false → (next answer).Exposes exposed) := by
  cases answer with
  | ok value =>
    have onward := exposes.1 value
    refine ⟨iff_of_false (by simp [onward.failed]) ?_, fun _ => onward⟩
    rintro ⟨-, error, same⟩
    contradiction
  | error error =>
    obtain ⟨ends, onward⟩ := exposes.2 error
    by_cases outside : exposed command
    · have failed := ends outside
      exact ⟨iff_of_true failed ⟨outside, error, rfl⟩, fun other => absurd (failed.symm.trans other) (by decide)⟩
    · have still := onward outside
      exact ⟨iff_of_false (by simp [still.failed]) fun both => outside both.1, fun _ => still⟩

@[simp] theorem exposes_pure (value : α) : (pure value : Task ε R α).Exposes exposed := trivial

theorem Exposes.performing {command : C} (outside : exposed command) :
    (perform command : Task ε R (R command)).Exposes exposed :=
  ⟨fun _ => trivial, fun _ => ⟨fun _ => rfl, absurd outside⟩⟩

theorem Exposes.seq {task : Task ε R β} {rest : β → Task ε R α} (first : task.Exposes exposed)
    (second : ∀ value, (rest value).Exposes exposed) : (task >>= rest).Exposes exposed := by
  induction task with
  | done value => exact second value
  | fail error => exact first.elim
  | call command next ih =>
    refine ⟨fun value => ih _ (first.1 value), fun error => ⟨fun outside => ?_, fun inside => ?_⟩⟩
    · have ended := (first.2 error).1 outside
      cases same : next (.error error) with
      | fail other =>
        change ((next (.error error)).andThen rest).failed = true
        rw [same]
        rfl
      | done value =>
        rw [same] at ended
        contradiction
      | call command next =>
        rw [same] at ended
        contradiction
    · exact ih _ ((first.2 error).2 inside)

/-- `try`/`catch` around calls of which none is exposed. -/
theorem Exposes.catching {handler : ε → Task ε R α} (body : task.Obeys AnyAnswer (¬ exposed ·) AnyOutcome)
    (handles : ∀ error, (handler error).Exposes exposed) : (tryCatch task handler).Exposes exposed := by
  induction task with
  | done value => trivial
  | fail error => exact handles error
  | call command next ih =>
    exact ⟨fun value => ih _ (body.2 _ trivial), fun error => ⟨fun outside => absurd outside body.1, fun _ =>
      ih _ (body.2 _ trivial)⟩⟩

end Exposure

end Task

end OmniControlPlane.Lib
