import Mathlib.Tactic.Common

/-! # Programs that cannot tell two states apart

A program reads and writes a state and may fail, keeping what it has written. Two states are
indistinguishable for an observer when an arbitrary relation says so. A program is `Secure` when from
indistinguishable states it gives the same result and ends in indistinguishable states, and `Discreet`
when it gives the same result. The rules follow the shape of the program; a program ends with a step
that is discreet only, or ignores what the step has found out.
-/

namespace OmniControlPlane.Lib

/-- A stateful program that may fail. -/
def Program (ε σ α : Type) : Type := σ → Except ε α × σ

namespace Program

variable {ε σ α β : Type}

def result (program : Program ε σ α) (state : σ) : Except ε α := (program state).1

def final (program : Program ε σ α) (state : σ) : σ := (program state).2

/-- Continue with the value of the first program, in the state it leaves. -/
def andThen (program : Program ε σ α) (rest : α → Program ε σ β) : Program ε σ β := fun state =>
  match program state with
  | (.ok value, after) => rest value after
  | (.error error, after) => (.error error, after)

/-- Continue with the handler where the program fails, in the state it leaves. -/
def orElse (program : Program ε σ α) (handler : ε → Program ε σ α) : Program ε σ α := fun state =>
  match program state with
  | (.ok value, after) => (.ok value, after)
  | (.error error, after) => handler error after

instance : Monad (Program ε σ) where
  pure value := fun state => (.ok value, state)
  bind := andThen

instance : MonadExceptOf ε (Program ε σ) where
  throw error := fun state => (.error error, state)
  tryCatch := orElse

/-- A computation that touches no state. -/
def lift (computed : Except ε α) : Program ε σ α := fun state => (computed, state)

def reads (observe : σ → α) : Program ε σ α := fun state => (.ok (observe state), state)

def writes (update : σ → σ) : Program ε σ Unit := fun state => (.ok (), update state)

/-- The same results from indistinguishable states. -/
def Discreet (indist : σ → σ → Prop) (program : Program ε σ α) : Prop :=
  ∀ state state', indist state state' → program.result state = program.result state'

/-- The same results from indistinguishable states, and indistinguishable states after. -/
def Secure (indist : σ → σ → Prop) (program : Program ε σ α) : Prop :=
  ∀ state state', indist state state' →
    program.result state = program.result state' ∧ indist (program.final state) (program.final state')

section

variable {indist : σ → σ → Prop} {program : Program ε σ α} {rest : α → Program ε σ β}

theorem bind_result (state : σ) : (program >>= rest).result state =
    match program.result state with
    | .ok value => (rest value).result (program.final state)
    | .error error => .error error := by
  change (program.andThen rest state).1 = match (program state).1 with
    | .ok value => (rest value (program state).2).1
    | .error error => .error error
  rw [andThen]
  rcases program state with ⟨_ | _, _⟩ <;> rfl

theorem bind_final (state : σ) : (program >>= rest).final state =
    match program.result state with
    | .ok value => (rest value).final (program.final state)
    | .error _ => program.final state := by
  change (program.andThen rest state).2 = match (program state).1 with
    | .ok value => (rest value (program state).2).2
    | .error _ => (program state).2
  rw [andThen]
  rcases program state with ⟨_ | _, _⟩ <;> rfl

theorem Secure.discreet (secure : Secure indist program) : Discreet indist program :=
  fun state state' same => (secure state state' same).1

theorem Secure.pure (value : α) : Secure indist (pure value : Program ε σ α) := fun _ _ same => ⟨rfl, same⟩

theorem Secure.throw (error : ε) : Secure indist (throw error : Program ε σ α) := fun _ _ same => ⟨rfl, same⟩

theorem Secure.lift (computed : Except ε α) : Secure indist (lift computed : Program ε σ α) :=
  fun _ _ same => ⟨rfl, same⟩

theorem Secure.reads {observe : σ → α} (blind : ∀ state state', indist state state' → observe state = observe state') :
    Secure indist (reads observe : Program ε σ α) :=
  fun state state' same => ⟨congrArg Except.ok (blind state state' same), same⟩

theorem Secure.writes {update : σ → σ}
    (blind : ∀ state state', indist state state' → indist (update state) (update state')) :
    Secure indist (writes update : Program ε σ Unit) :=
  fun state state' same => ⟨rfl, blind state state' same⟩

theorem Secure.bind (first : Secure indist program) (second : ∀ value, Secure indist (rest value)) :
    Secure indist (program >>= rest) := by
  intro state state' same
  obtain ⟨results, finals⟩ := first state state' same
  rw [bind_result, bind_result, bind_final, bind_final, ← results]
  cases program.result state with
  | ok value => exact second value _ _ finals
  | error error => exact ⟨rfl, finals⟩

theorem Discreet.bind (first : Secure indist program) (second : ∀ value, Discreet indist (rest value)) :
    Discreet indist (program >>= rest) := by
  intro state state' same
  obtain ⟨results, finals⟩ := first state state' same
  rw [bind_result, bind_result, ← results]
  cases program.result state with
  | ok value => exact second value _ _ finals
  | error error => rfl

/-- What a program has found selects what is read next. -/
theorem Discreet.bind_reads {γ : Type} {rest : α → γ → Program ε σ β} {observe : α → σ → γ}
    (first : Secure indist program)
    (blind : ∀ state state' value, indist state state' → program.result state = .ok value →
      observe value (program.final state) = observe value (program.final state'))
    (second : ∀ value seen, Discreet indist (rest value seen)) :
    Discreet indist (program >>= fun value => Program.reads (observe value) >>= rest value) := by
  intro state state' same
  obtain ⟨results, finals⟩ := first state state' same
  rw [bind_result, bind_result, ← results]
  cases found : program.result state with
  | ok value =>
    change (rest value (observe value (program.final state))).result (program.final state) =
      (rest value (observe value (program.final state'))).result (program.final state')
    rw [← blind state state' value same found]
    exact second value _ _ _ finals
  | error error => rfl

theorem Secure.tryCatch {handler : ε → Program ε σ α} (body : Secure indist program)
    (handles : ∀ error, Secure indist (handler error)) : Secure indist (tryCatch program handler) := by
  intro state state' same
  obtain ⟨results, finals⟩ := body state state' same
  change (program.orElse handler state).1 = (program.orElse handler state').1 ∧
    indist (program.orElse handler state).2 (program.orElse handler state').2
  simp only [result, final] at results finals
  simp only [orElse]
  rcases ran : program state with ⟨outcome, after⟩
  rcases ran' : program state' with ⟨outcome', after'⟩
  simp only [ran, ran'] at results finals
  subst results
  cases outcome with
  | ok value => exact ⟨rfl, finals⟩
  | error error => exact handles error after after' finals

/-- A handler that cleans up and throws the error again. -/
theorem Discreet.bind_rethrowing {handler : ε → Program ε σ α} (body : Secure indist program)
    (rethrows : ∀ error state, (handler error).result state = .error error)
    (second : ∀ value, Discreet indist (rest value)) : Discreet indist (MonadExceptOf.tryCatch program handler >>= rest) := by
  intro state state' same
  obtain ⟨results, finals⟩ := body state state' same
  rw [bind_result, bind_result]
  change (match (program.orElse handler state).1 with
    | .ok value => (rest value).result (program.orElse handler state).2
    | .error error => .error error) = match (program.orElse handler state').1 with
    | .ok value => (rest value).result (program.orElse handler state').2
    | .error error => .error error
  simp only [result, final] at results finals rethrows
  simp only [orElse]
  rcases ran : program state with ⟨outcome, after⟩
  rcases ran' : program state' with ⟨outcome', after'⟩
  simp only [ran, ran'] at results finals
  subst results
  cases outcome with
  | ok value => exact second value after after' finals
  | error error => simp only [rethrows]

/-- The value of a program that cannot fail is ignored by what follows. -/
theorem Discreet.ignoring {rest : Program ε σ β} {outcome : Except ε β}
    (succeeds : ∀ state, ∃ value, program.result state = .ok value)
    (blind : ∀ state, rest.result state = outcome) : Discreet indist (program >>= fun _ => rest) := by
  intro state state' _
  obtain ⟨value, first⟩ := succeeds state
  obtain ⟨value', first'⟩ := succeeds state'
  rw [bind_result, bind_result, first, first']
  exact (blind _).trans (blind _).symm

/-! ## Programs that only read -/

/-- The state is left as it is, also where the program fails. -/
def ReadOnly (program : Program ε σ α) : Prop := ∀ state, program.final state = state

theorem ReadOnly.pure (value : α) : ReadOnly (pure value : Program ε σ α) := fun _ => rfl

theorem ReadOnly.throw (error : ε) : ReadOnly (throw error : Program ε σ α) := fun _ => rfl

theorem ReadOnly.lift (computed : Except ε α) : ReadOnly (lift computed : Program ε σ α) := fun _ => rfl

theorem ReadOnly.reads (observe : σ → α) : ReadOnly (reads observe : Program ε σ α) := fun _ => rfl

theorem ReadOnly.bind (first : ReadOnly program) (second : ∀ value, ReadOnly (rest value)) :
    ReadOnly (program >>= rest) := by
  intro state
  rw [bind_final]
  split
  · rw [second, first]
  · exact first state

end

end Program

end OmniControlPlane.Lib
