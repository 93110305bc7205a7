import Mathlib.Data.List.Basic

/-! # Executable runs of labelled machines

A machine is a partial step function. Every choice that the machine does not make itself (which
party moves, what a remote call answers, which random bytes are drawn) belongs to the event, so
a source and a tape of events determine a run. `Run` is the same run as a relation, together
with a condition that each step meets in the state before it. The rules of the last section are
the only inductions over runs that a development needs.
-/

namespace OmniControlPlane.Lib

/-- A partial step function on states, driven by events. -/
structure Machine (σ ε : Type*) where
  step? : σ → ε → Option σ

namespace Machine

variable {σ ε : Type*} (m : Machine σ ε)

/-- Replay a tape; an event that is impossible in its state stops the whole replay. -/
def replay? : σ → List ε → Option σ
  | source, [] => some source
  | source, event :: rest => (m.step? source event).bind fun next => replay? next rest

/-- Replay a tape as long as each event passes a check where it happens. -/
def checked? (check : σ → ε → Bool) : σ → List ε → Option σ
  | source, [] => some source
  | source, event :: rest =>
    if check source event then (m.step? source event).bind fun next => checked? check next rest else none

/-- A finite run carrying exactly its events, each of which meets `cond` where it happens. -/
inductive Run (cond : σ → ε → Prop) : σ → List ε → σ → Prop
  | nil (s : σ) : Run cond s [] s
  | cons {s mid t : σ} {event : ε} {events : List ε} :
      cond s event → m.step? s event = some mid → Run cond mid events t →
      Run cond s (event :: events) t

/-- What the events of a tape stand for, each in the state where it happens. -/
def labels {ℓ : Type*} (label : σ → ε → List ℓ) : σ → List ε → List ℓ
  | _, [] => []
  | source, event :: rest =>
    match m.step? source event with
    | none => []
    | some next => label source event ++ labels label next rest

/-- No condition on the steps. -/
abbrev Free : σ → ε → Prop := fun _ _ => True

variable {m} {cond cond' : σ → ε → Prop} {s mid t : σ} {event : ε} {events first second : List ε}

namespace Run

@[simp] theorem nil_iff : m.Run cond s [] t ↔ t = s := by
  constructor
  · intro run; cases run; rfl
  · rintro rfl; exact .nil _

theorem cons_iff : m.Run cond s (event :: events) t ↔
    cond s event ∧ ∃ mid, m.step? s event = some mid ∧ m.Run cond mid events t := by
  constructor
  · intro run
    cases run with
    | cons met step rest => exact ⟨met, _, step, rest⟩
  · rintro ⟨met, mid, step, rest⟩
    exact .cons met step rest

/-- Runs compose at their shared state. -/
theorem append (left : m.Run cond s first mid) (right : m.Run cond mid second t) :
    m.Run cond s (first ++ second) t := by
  induction left with
  | nil => exact right
  | cons met step _ ih => exact .cons met step (ih right)

/-- One more step at the end. -/
theorem snoc (run : m.Run cond s events mid) (met : cond mid event)
    (step : m.step? mid event = some t) : m.Run cond s (events ++ [event]) t :=
  run.append (.cons met step (.nil t))

/-- Every cut of the tape is a state of the run. -/
theorem append_iff : m.Run cond s (first ++ second) t ↔
    ∃ mid, m.Run cond s first mid ∧ m.Run cond mid second t := by
  constructor
  · intro run
    induction first generalizing s with
    | nil => exact ⟨s, .nil s, run⟩
    | cons event rest ih =>
      obtain ⟨met, mid, step, tail⟩ := cons_iff.mp run
      obtain ⟨cut, left, right⟩ := ih tail
      exact ⟨cut, .cons met step left, right⟩
  · rintro ⟨mid, left, right⟩
    exact left.append right

/-- A weaker condition admits the same run. -/
theorem mono (weaker : ∀ s event, cond s event → cond' s event) (run : m.Run cond s events t) :
    m.Run cond' s events t := by
  induction run with
  | nil => exact .nil _
  | cons met step _ ih => exact .cons (weaker _ _ met) step ih

/-- Steps that meet two conditions meet both at once. -/
theorem both (run : m.Run cond s events t) (other : m.Run cond' s events t) :
    m.Run (fun s event => cond s event ∧ cond' s event) s events t := by
  induction run with
  | nil s => exact .nil s
  | cons met stepped _ ih =>
    obtain ⟨met', mid, stepped', rest⟩ := cons_iff.mp other
    obtain rfl := Option.some.inj (stepped.symm.trans stepped')
    exact .cons ⟨met, met'⟩ stepped (ih rest)

/-- Runs without a condition are exactly the successful replays. -/
theorem free_iff_replay : m.Run Free s events t ↔ m.replay? s events = some t := by
  induction events generalizing s with
  | nil => simp only [nil_iff, replay?, Option.some.injEq, eq_comm]
  | cons event rest ih =>
    simp only [cons_iff, true_and, replay?, Option.bind_eq_some_iff, ih]

/-- A checked replay is a run under every condition that the check decides. -/
theorem of_checked {check : σ → ε → Bool} (sound : ∀ s event, check s event = true → cond s event)
    (replayed : m.checked? check s events = some t) : m.Run cond s events t := by
  induction events generalizing s with
  | nil => exact Option.some.inj replayed ▸ .nil s
  | cons event rest ih =>
    rw [checked?] at replayed
    split at replayed
    · next passed =>
      obtain ⟨next, step, tail⟩ := Option.bind_eq_some_iff.mp replayed
      exact .cons (sound s event passed) step (ih tail)
    · contradiction

end Run

/-! ## Induction rules -/

/-- What every step preserves holds at the end of a run. -/
theorem Run.preserves (inv : σ → Prop)
    (step : ∀ s event t, inv s → cond s event → m.step? s event = some t → inv t)
    (run : m.Run cond s events t) (initial : inv s) : inv t := by
  induction run with
  | nil => exact initial
  | cons met stepped _ ih => exact ih (step _ _ _ initial met stepped)

/-- An invariant of a state and the tape that has led to it. -/
theorem Run.preserves_tape (inv : List ε → σ → Prop)
    (step : ∀ before s event t, inv before s → cond s event → m.step? s event = some t → inv (before ++ [event]) t)
    (run : m.Run cond s events t) (initial : inv [] s) : inv events t := by
  suffices extended : ∀ before, inv before s → inv (before ++ events) t from extended [] initial
  clear initial
  induction run with
  | nil => exact fun before held => by rwa [List.append_nil]
  | cons met stepped _ ih =>
    intro before held
    rw [List.append_cons]
    exact ih _ (step before _ _ _ held met stepped)

/-- An invariant of a state and what the events up to it stand for. -/
theorem Run.preserves_labels {ℓ : Type*} (label : σ → ε → List ℓ) (inv : List ℓ → σ → Prop)
    (step : ∀ log s event t, inv log s → cond s event → m.step? s event = some t → inv (log ++ label s event) t)
    (run : m.Run cond s events t) (initial : inv [] s) : inv (m.labels label s events) t := by
  suffices extended : ∀ log, inv log s → inv (log ++ m.labels label s events) t from extended [] initial
  clear initial
  induction run with
  | nil => exact fun log held => by rwa [labels, List.append_nil]
  | cons met stepped _ ih =>
    intro log held
    rw [labels, stepped, ← List.append_assoc]
    exact ih _ (step log _ _ _ held met stepped)

/-- An invariant whose step may use what is known of reached states. -/
theorem Run.preserves_reached {source : σ} (inv : σ → Prop)
    (step : ∀ before s event t, m.Run cond source before s → inv s → cond s event →
      m.step? s event = some t → inv t)
    (run : m.Run cond source events t) (initial : inv source) : inv t := by
  refine (run.preserves (fun s => (∃ before, m.Run cond source before s) ∧ inv s) ?_
    ⟨⟨[], .nil source⟩, initial⟩).2
  rintro s event t ⟨⟨before, reached⟩, held⟩ met stepped
  exact ⟨⟨before ++ [event], reached.snoc met stepped⟩, step before s event t reached held met stepped⟩

/-- A condition that follows at every reached state holds along the run. -/
theorem Run.mono_reached {source : σ}
    (follows : ∀ before s event t, m.Run cond source before s → cond s event → m.step? s event = some t → cond' s event)
    (run : m.Run cond source events t) : m.Run cond' source events t := by
  suffices extended : ∀ before s, m.Run cond source before s → m.Run cond s events t → m.Run cond' s events t from
    extended [] source (.nil source) run
  clear run
  induction events with
  | nil => exact fun _ _ _ run => Run.nil_iff.mp run ▸ .nil _
  | cons event rest ih =>
    intro before s reached run
    obtain ⟨met, mid, step, tail⟩ := cons_iff.mp run
    exact .cons (follows before s event mid reached met step) step (ih (before ++ [event]) mid (reached.snoc met step) tail)

/-- A potential that no step lowers is level over a run exactly when the run has only steps that
keep it. -/
theorem Run.level_iff (cond : σ → ε → Prop) (inv : σ → Prop) (potential : σ → ℕ)
    (step : ∀ s event t, inv s → m.step? s event = some t →
      inv t ∧ potential s ≤ potential t ∧ (potential t = potential s ↔ cond s event))
    (run : m.Run Free s events t) (initial : inv s) :
    potential s ≤ potential t ∧ (potential t = potential s ↔ m.Run cond s events t) := by
  induction run with
  | nil s => exact ⟨Nat.le_refl _, iff_of_true rfl (.nil s)⟩
  | @cons s mid t event events _ stepped _ ih =>
    obtain ⟨held, grows, level⟩ := step s event mid initial stepped
    obtain ⟨restGrows, restLevel⟩ := ih held
    constructor
    · omega
    · constructor
      · intro same
        have first : potential mid = potential s := by omega
        have rest : potential t = potential mid := by omega
        exact .cons (level.mp first) stepped (restLevel.mp rest)
      · intro run
        obtain ⟨met, mid', stepped', tail⟩ := Run.cons_iff.mp run
        have same : mid = mid' := Option.some.inj (stepped.symm.trans stepped')
        have first := level.mpr met
        have rest := restLevel.mpr (same ▸ tail)
        omega

/-- Where the condition on a step says exactly whether the next state is good, and keeps what says so,
all states of a run are good exactly when all of its steps meet the condition. -/
theorem Run.always_iff (cond : σ → ε → Prop) (inv good : σ → Prop) (sound : ∀ s, inv s → good s)
    (step : ∀ s event t, inv s → m.step? s event = some t → (good t ↔ cond s event) ∧ (cond s event → inv t))
    (run : m.Run Free s events t) (initial : inv s) :
    (∀ first rest mid, events = first ++ rest → m.Run Free s first mid → good mid) ↔ m.Run cond s events t := by
  induction run with
  | nil s =>
    refine iff_of_true (fun first rest mid split reached => ?_) (.nil s)
    obtain ⟨rfl, -⟩ := List.append_eq_nil_iff.mp split.symm
    exact Run.nil_iff.mp reached ▸ sound s initial
  | @cons s mid t event events _ stepped _ ih =>
    obtain ⟨exact, keeps⟩ := step s event mid initial stepped
    constructor
    · intro always
      have met := exact.mp (always [event] events mid rfl (.cons trivial stepped (.nil mid)))
      refine .cons met stepped ((ih (keeps met)).mp fun first rest reached split run => ?_)
      exact always (event :: first) rest reached (congrArg (event :: ·) split) (.cons trivial stepped run)
    · intro kept first rest reached split run
      obtain ⟨met, mid', stepped', tail⟩ := Run.cons_iff.mp kept
      obtain rfl : mid = mid' := Option.some.inj (stepped.symm.trans stepped')
      cases first with
      | nil => exact Run.nil_iff.mp run ▸ sound s initial
      | cons head first =>
        obtain ⟨rfl, same⟩ := List.cons.inj split
        obtain ⟨-, mid'', stepped'', run⟩ := Run.cons_iff.mp run
        obtain rfl : mid = mid'' := Option.some.inj (stepped.symm.trans stepped'')
        exact (ih (keeps met)).mpr tail first rest reached same run

/-- Where two conditions agree on every step that is given, and one of them keeps what makes them agree, a run
whose steps meet the one is a run whose steps meet the other. -/
theorem Run.steps_iff_given {given good : σ → ε → Prop} (inv : σ → Prop)
    (agree : ∀ s event t, inv s → given s event → m.step? s event = some t → (good s event ↔ cond s event))
    (keeps : ∀ s event t, inv s → given s event → cond s event → m.step? s event = some t → inv t)
    (run : m.Run given s events t) (initial : inv s) : m.Run good s events t ↔ m.Run cond s events t := by
  induction run with
  | nil s => exact iff_of_true (.nil s) (.nil s)
  | @cons s mid t event events met stepped _ ih =>
    have exact := agree s event mid initial met stepped
    rw [cons_iff, cons_iff, exact]
    apply and_congr_right
    intro kept
    refine exists_congr fun mid' => and_congr_right fun stepped' => ?_
    obtain rfl : mid = mid' := Option.some.inj (stepped.symm.trans stepped')
    exact ih (keeps s event mid initial met kept stepped)

/-- Where two conditions agree on every possible step, and one of them keeps what makes them agree, a run
whose steps meet the one is a run whose steps meet the other. -/
theorem Run.steps_iff {good : σ → ε → Prop} (inv : σ → Prop)
    (agree : ∀ s event t, inv s → m.step? s event = some t → (good s event ↔ cond s event))
    (keeps : ∀ s event t, inv s → cond s event → m.step? s event = some t → inv t)
    (run : m.Run Free s events t) (initial : inv s) : m.Run good s events t ↔ m.Run cond s events t := by
  apply run.steps_iff_given inv _ _ initial
  · exact fun s event t holds _ stepped => agree s event t holds stepped
  · exact fun s event t holds _ met stepped => keeps s event t holds met stepped

end Machine

end OmniControlPlane.Lib
