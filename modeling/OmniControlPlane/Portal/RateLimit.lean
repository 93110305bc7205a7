import OmniControlPlane.Lib.Interleaving
import OmniControlPlane.Lib.OrderedMap

/-! # The rate limit

`rateLimit` is two statements: an upsert that counts the call, or starts the counter of its key over
for another window, and a `SELECT` that reads the counter back. Between the two, and between the
clock and the first of them, the statements of other calls run. No code deletes from `rate_limits`.
-/

namespace OmniControlPlane.Portal

open Lib Machine

namespace RateLimit

/-- A row of `rate_limits`. -/
structure Bucket where
  window_started_at : ℕ
  hits : ℕ
deriving DecidableEq, Repr

/-- Rows by `bucket_key`. -/
abbrev Table := OrderedMap String Bucket

/-- The `ON CONFLICT` update reads the old row in both of its cases. -/
def Table.upsert (table : Table) (key : String) (currentWindow : ℕ) : Table :=
  table.alter key fun
    | none => ⟨currentWindow, 1⟩
    | some row =>
      { window_started_at := if row.window_started_at = currentWindow then row.window_started_at else currentWindow
        hits := if row.window_started_at = currentWindow then row.hits + 1 else 1 }

/-- What a call awaits, or what became of it. -/
inductive Phase where
  | upsert | select | returned (allowed : Bool) | thrown
deriving DecidableEq, Repr

/-- The arguments of `rateLimit`, and the clock in seconds at its start. -/
structure Request where
  key : String
  limit : ℕ
  windowSeconds : ℕ
  now : ℕ
  positive : 0 < windowSeconds
deriving DecidableEq, Repr

def Request.currentWindow (request : Request) : ℕ := request.now - request.now % request.windowSeconds

structure Call extends Request where
  phase : Phase
deriving DecidableEq, Repr

def Request.call (request : Request) : Call := { request with phase := .upsert }

/-- `row && row.window_started_at === currentWindow && row.hits <= limit` -/
def Request.allowed (request : Request) (row : Option Bucket) : Bool :=
  row.any fun row => row.window_started_at = request.currentWindow && row.hits ≤ request.limit

/-- The table, and the calls begun so far. -/
structure World where
  rate_limits : Table := .empty
  calls : List Call := []

inductive Event where
  | call (request : Request)
  | upsert (index : ℕ) (delivery : Delivery)
  | select (index : ℕ) (delivery : Delivery)
deriving DecidableEq, Repr

/-- A statement without an answer throws. -/
def Call.goesOn (call : Call) (delivery : Delivery) (next : Phase) : Call :=
  { call with phase := match delivery with
      | .answered => next
      | .lost | .refused => .thrown }

def World.upsert (world : World) (index : ℕ) (call : Call) (delivery : Delivery) : World where
  rate_limits := match delivery with
    | .answered | .lost => world.rate_limits.upsert call.key call.currentWindow
    | .refused => world.rate_limits
  calls := world.calls.set index (call.goesOn delivery .select)

def World.select (world : World) (index : ℕ) (call : Call) (delivery : Delivery) : World :=
  let row := world.rate_limits.get? call.key
  { world with calls := world.calls.set index (call.goesOn delivery (.returned (call.allowed row))) }

/-- The call at a position, when it is in this phase. -/
def World.awaiting (world : World) (index : ℕ) (phase : Phase) : Option Call :=
  (world.calls[index]?).filter fun call => call.phase = phase

def World.step? (world : World) : Event → Option World
  | .call request => some { world with calls := world.calls ++ [request.call] }
  | .upsert index delivery => (world.awaiting index .upsert).map fun call => world.upsert index call delivery
  | .select index delivery => (world.awaiting index .select).map fun call => world.select index call delivery

def rateLimit : Machine World Event := ⟨World.step?⟩

/-- The upsert of the call is behind it, and answered. -/
def Phase.counted : Phase → Bool
  | .select | .returned _ => true
  | .upsert | .thrown => false

/-- The calls of a window that have been counted. -/
def counted (calls : List Call) (key : String) (window : ℕ) : ℕ :=
  calls.countP fun call => call.key = key ∧ call.currentWindow = window ∧ call.phase.counted

/-- The calls of a window, under one limit, that returned `true`. -/
def granted (calls : List Call) (key : String) (limit window : ℕ) : ℕ :=
  calls.countP fun call =>
    call.key = key ∧ call.currentWindow = window ∧ call.limit = limit ∧ call.phase = .returned true

/-- A call that is executed goes on counting in its window, or is the first of it: no window is
begun a second time. -/
def InOrder (world : World) : Event → Prop
  | .upsert index delivery => delivery = .refused ∨ ∀ call ∈ world.calls[index]?,
      (world.rate_limits.get? call.key).map (·.window_started_at) = some call.currentWindow ∨
        counted world.calls call.key call.currentWindow = 0
  | _ => True

instance (world : World) (event : Event) : Decidable (InOrder world event) :=
  match event with
  | .upsert _ _ => inferInstanceAs (Decidable (_ ∨ _))
  | .call _ | .select _ _ => .isTrue trivial

/-! ## One statement -/

section

variable {world world' : World} {index : ℕ} {delivery : Delivery} {phase : Phase} {call : Call}

theorem World.awaiting_eq_some_iff :
    world.awaiting index phase = some call ↔ world.calls[index]? = some call ∧ call.phase = phase := by
  simp [World.awaiting, Option.filter_eq_some_iff]

theorem upsert_cases (stepped : rateLimit.step? world (.upsert index delivery) = some world') :
    ∃ call, world.calls[index]? = some call ∧ call.phase = .upsert ∧
      world' = world.upsert index call delivery := by
  obtain ⟨call, found, same⟩ := Option.map_eq_some_iff.mp stepped
  obtain ⟨atIndex, awaits⟩ := World.awaiting_eq_some_iff.mp found
  exact ⟨call, atIndex, awaits, same.symm⟩

theorem select_cases (stepped : rateLimit.step? world (.select index delivery) = some world') :
    ∃ call, world.calls[index]? = some call ∧ call.phase = .select ∧
      world' = world.select index call delivery := by
  obtain ⟨call, found, same⟩ := Option.map_eq_some_iff.mp stepped
  obtain ⟨atIndex, awaits⟩ := World.awaiting_eq_some_iff.mp found
  exact ⟨call, atIndex, awaits, same.symm⟩

/-- After an upsert the row of its key has its window. -/
theorem get?_upsert (table : Table) (key other : String) (window : ℕ) :
    (table.upsert key window).get? other =
      if other = key then
        some ⟨window, if (table.get? key).map (·.window_started_at) = some window
          then ((table.get? key).map (·.hits)).getD 0 + 1 else 1⟩
      else table.get? other := by
  rw [Table.upsert, OrderedMap.get?_alter]
  split
  · next same =>
    cases found : table.get? key with
    | none => simp
    | some row =>
      simp only [Option.map_some, Option.some.injEq, Option.getD_some]
      split
      · next begun => simp [begun]
      · rfl
  · rfl

end

/-! ## Runs -/

/-- A counter stands for no fewer calls than have been counted in its window, and no window has
granted more than a limit. -/
structure Sound (world : World) : Prop where
  counts : ∀ key row, world.rate_limits.get? key = some row →
    counted world.calls key row.window_started_at ≤ row.hits
  bounded : ∀ key limit window, granted world.calls key limit window ≤ limit

theorem granted_le_counted (calls : List Call) (key : String) (limit window : ℕ) :
    granted calls key limit window ≤ counted calls key window := by
  apply List.countP_mono_left
  intro call _ granted
  obtain ⟨sameKey, sameWindow, -, returned⟩ := of_decide_eq_true granted
  exact decide_eq_true ⟨sameKey, sameWindow, returned ▸ rfl⟩

section

variable {world : World} {calls : List Call} {index : ℕ} {delivery : Delivery} {call : Call}

theorem counted_append (key : String) (window : ℕ) (request : Request) :
    counted (calls ++ [request.call]) key window = counted calls key window := by
  simp [counted, Request.call, Phase.counted]

theorem granted_append (key : String) (limit window : ℕ) (request : Request) :
    granted (calls ++ [request.call]) key limit window = granted calls key limit window := by
  simp [granted, Request.call]

theorem counted_set (atIndex : calls[index]? = some call) (key : String) (window : ℕ) (next : Phase) :
    counted (calls.set index { call with phase := next }) key window +
        (if call.key = key ∧ call.currentWindow = window ∧ call.phase.counted then 1 else 0) =
      counted calls key window +
        if call.key = key ∧ call.currentWindow = window ∧ next.counted then 1 else 0 := by
  exact countP_set_add (fun call : Call => call.key = key ∧ call.currentWindow = window ∧ call.phase.counted)
    atIndex { call with phase := next }

theorem counted_set_le (atIndex : calls[index]? = some call) (already : call.phase.counted = true) (key : String)
    (window : ℕ) (next : Phase) :
    counted (calls.set index { call with phase := next }) key window ≤ counted calls key window := by
  have moved := counted_set atIndex key window next
  have once : (if call.key = key ∧ call.currentWindow = window ∧ next.counted then 1 else 0) ≤
      if call.key = key ∧ call.currentWindow = window ∧ call.phase.counted then 1 else 0 := by
    split
    · next counts => exact Nat.le_of_eq (if_pos ⟨counts.1, counts.2.1, already⟩).symm
    · exact Nat.zero_le _
  omega

theorem granted_set (atIndex : calls[index]? = some call) (key : String) (limit window : ℕ) (next : Phase) :
    granted (calls.set index { call with phase := next }) key limit window +
        (if call.key = key ∧ call.currentWindow = window ∧ call.limit = limit ∧ call.phase = .returned true then 1
          else 0) =
      granted calls key limit window +
        if call.key = key ∧ call.currentWindow = window ∧ call.limit = limit ∧ next = .returned true then 1
        else 0 := by
  exact countP_set_add (fun call : Call =>
    call.key = key ∧ call.currentWindow = window ∧ call.limit = limit ∧ call.phase = .returned true)
    atIndex { call with phase := next }

theorem Sound.begin (sound : Sound world) (request : Request) :
    Sound { world with calls := world.calls ++ [request.call] } where
  counts key row found := by
    rw [counted_append]
    exact sound.counts key row found
  bounded key limit window := by
    rw [granted_append]
    exact sound.bounded key limit window

/-- An executed upsert leaves the counter of a window, when there is one, no lower than the calls
counted in the window, the call itself included. -/
theorem Sound.covers (sound : Sound world) (begun : (world.rate_limits.get? call.key).map (·.window_started_at) =
    some call.currentWindow ∨ counted world.calls call.key call.currentWindow = 0) {key : String} {row : Bucket}
    (found : (world.rate_limits.upsert call.key call.currentWindow).get? key = some row) :
    counted world.calls key row.window_started_at +
      (if call.key = key ∧ call.currentWindow = row.window_started_at then 1 else 0) ≤ row.hits := by
  rw [get?_upsert] at found
  split at found
  · next same =>
    subst same
    cases found
    simp only [and_self, if_true]
    split
    · next continued =>
      obtain ⟨old, present, window⟩ := Option.map_eq_some_iff.mp continued
      have before := sound.counts _ old present
      rw [window] at before
      simp only [present, Option.map_some, Option.getD_some]
      omega
    · next other =>
      have none := begun.resolve_left other
      omega
  · next different =>
    have before := sound.counts key row found
    simpa [Ne.symm different] using before

theorem Sound.upsert (sound : Sound world) (atIndex : world.calls[index]? = some call)
    (awaits : call.phase = .upsert) (inOrder : InOrder world (.upsert index delivery)) :
    Sound (world.upsert index call delivery) := by
  constructor
  · intro key row found
    have moved (next : Phase) := counted_set atIndex key row.window_started_at next
    simp only [awaits, Phase.counted, Bool.false_eq_true, and_false, if_false, Nat.add_zero] at moved
    cases delivery with
    | answered =>
      have covered := sound.covers ((inOrder.resolve_left nofun) call atIndex) found
      have stepped := moved .select
      simp only [and_true] at stepped
      exact stepped ▸ covered
    | lost =>
      have covered := sound.covers ((inOrder.resolve_left nofun) call atIndex) found
      have stepped := moved .thrown
      simp only [Bool.false_eq_true, and_false, if_false] at stepped
      exact stepped ▸ Nat.le_of_add_right_le covered
    | refused =>
      have before := sound.counts key row found
      have stepped := moved .thrown
      simp only [Bool.false_eq_true, and_false, if_false] at stepped
      exact stepped ▸ before
  · intro key limit window
    have before := sound.bounded key limit window
    have notYet : (call.goesOn delivery .select).phase ≠ .returned true := by cases delivery <;> nofun
    have moved := granted_set atIndex key limit window (call.goesOn delivery .select).phase
    simp only [notYet, and_false, if_false] at moved
    exact Nat.le_trans (Nat.le_of_add_right_le (Nat.le_of_eq moved)) before

/-- A call that returns `true` has read a counter of its window, in which it is counted itself. -/
theorem Sound.select (sound : Sound world) (atIndex : world.calls[index]? = some call)
    (awaits : call.phase = .select) : Sound (world.select index call delivery) := by
  have already : call.phase.counted = true := awaits ▸ rfl
  refine ⟨fun key row found => ?_, fun key limit window => ?_⟩
  · exact Nat.le_trans (counted_set_le atIndex already key row.window_started_at _) (sound.counts key row found)
  · have before := sound.bounded key limit window
    have moved := granted_set atIndex key limit window
      (call.goesOn delivery (.returned (call.allowed (world.rate_limits.get? call.key)))).phase
    split at moved
    · next returned => simp [awaits] at returned
    split at moved
    · next grants =>
      obtain ⟨rfl, rfl, rfl, returned⟩ := grants
      have allowed : call.allowed (world.rate_limits.get? call.key) = true := by
        cases delivery <;> simp_all [Call.goesOn]
      obtain ⟨row, found, passed⟩ := (Option.any_eq_true _ _).mp allowed
      simp only [Bool.and_eq_true, decide_eq_true_eq] at passed
      have covers := sound.counts _ row found
      calc granted (world.select index call delivery).calls call.key call.limit call.currentWindow
        _ ≤ counted (world.select index call delivery).calls call.key call.currentWindow := granted_le_counted _ _ _ _
        _ ≤ counted world.calls call.key call.currentWindow := counted_set_le atIndex already _ _ _
        _ = counted world.calls call.key row.window_started_at := by rw [passed.1]
        _ ≤ row.hits := covers
        _ ≤ call.limit := passed.2
    · exact Nat.le_trans (Nat.le_of_eq moved) before

/-- Where no window is begun a second time, no more calls of a window than the limit return `true`,
however their statements interleave. -/
theorem granted_le_limit {start finish : World} {events : List Event} (fresh : start.calls = [])
    (run : rateLimit.Run InOrder start events finish) (key : String) (limit window : ℕ) :
    granted finish.calls key limit window ≤ limit := by
  refine (run.preserves Sound ?_ ?_).bounded key limit window
  · intro world event world' sound inOrder stepped
    cases event with
    | call request =>
      obtain rfl := Option.some.inj stepped
      exact sound.begin request
    | upsert index delivery =>
      obtain ⟨call, atIndex, awaits, rfl⟩ := upsert_cases stepped
      exact sound.upsert atIndex awaits inOrder
    | select index delivery =>
      obtain ⟨call, atIndex, awaits, rfl⟩ := select_cases stepped
      exact sound.select atIndex awaits
  · constructor
    · intro key row _
      simp [fresh, counted]
    · intro key limit window
      simp [fresh, granted]

end

namespace Sample

def request (limit now : ℕ) : Request := ⟨"login", limit, 60, now, by decide⟩

/-- Three calls of one window, and one of the window before it that comes first. -/
def queue : List Event :=
  [.call (request 2 59), .call (request 2 60), .call (request 2 61), .call (request 2 62),
    .upsert 0 .answered, .upsert 1 .answered, .upsert 2 .answered, .select 1 .answered, .select 2 .answered,
    .select 0 .answered, .upsert 3 .answered, .select 3 .answered]

/-- The call of the window before comes between the two calls of a window. -/
def straggler : List Event :=
  [.call (request 1 59), .call (request 1 60), .call (request 1 61), .upsert 1 .answered, .select 1 .answered,
    .upsert 0 .answered, .upsert 2 .answered, .select 2 .answered]

end Sample

theorem granted_le_limit_queue : ∃ finish, rateLimit.Run InOrder {} Sample.queue finish ∧
    finish.calls.map (·.phase) = [.returned false, .returned true, .returned true, .returned false] ∧
      granted finish.calls "login" 2 60 ≤ 2 := by
  have evaluated : (rateLimit.checked? (fun world event => InOrder world event) {} Sample.queue).any
      (fun finish => finish.calls.map (·.phase) ==
        [.returned false, .returned true, .returned true, .returned false]) = true := by decide +kernel
  obtain ⟨finish, replayed, phases⟩ := (Option.any_eq_true _ _).mp evaluated
  have run : rateLimit.Run InOrder {} Sample.queue finish :=
    Run.of_checked (fun world event passed => of_decide_eq_true passed) replayed
  exact ⟨finish, run, eq_of_beq phases, granted_le_limit rfl run "login" 2 60⟩

/-- A call of the window before starts the counter over, and a limit of one grants two calls. -/
theorem straggler_resets_window : ∃ finish, rateLimit.Run Free {} Sample.straggler finish ∧
    1 < granted finish.calls "login" 1 60 := by
  have evaluated : (rateLimit.replay? {} Sample.straggler).any
      (fun finish => 1 < granted finish.calls "login" 1 60) = true := by decide +kernel
  obtain ⟨finish, replayed, exceeded⟩ := (Option.any_eq_true _ _).mp evaluated
  exact ⟨finish, Run.free_iff_replay.mpr replayed, of_decide_eq_true exceeded⟩

end RateLimit

end OmniControlPlane.Portal
