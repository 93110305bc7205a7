import Mathlib.Data.List.Induction
import OmniControlPlane.Lib.OrderedMap

/-! # Values that lapse

A table holds one value under a key until a time, and only who looks at a value that has lapsed deletes it. What is held
after a tape goes back to the event that wrote it, as long as no later event under the key has touched it.
-/

namespace OmniControlPlane.Lib.Lapse

structure Held (ν : Type) where
  value : ν
  expires_at : ℤ

abbrev Table (κ ν : Type) := OrderedMap κ (Held ν)

/-- What becomes of the value under a key. -/
inductive Reaction (ν : Type) where
  | keep
  | drop
  | hold (value : ν)

/-- An event acts without looking, or by the value it finds. -/
inductive Act (ν : Type) where
  | blind (reaction : Reaction ν)
  | look (react : Option ν → Reaction ν)

section

variable {κ ν : Type} [DecidableEq κ]

def hold (ttl : ℤ) (table : Table κ ν) (key : κ) (value : ν) (now : ℤ) : Table κ ν :=
  table.alter key fun _ => ⟨value, now + ttl⟩

def drop (table : Table κ ν) (key : κ) : Table κ ν := table.filter fun other _ => other ≠ key

/-- Looks for a value, and drops one that has lapsed. -/
def load (table : Table κ ν) (key : κ) (now : ℤ) : Table κ ν × Option ν :=
  match table.get? key with
  | none => (table, none)
  | some held => if held.expires_at ≤ now then (drop table key, none) else (table, some held.value)

def Reaction.apply (ttl : ℤ) (table : Table κ ν) (key : κ) (now : ℤ) : Reaction ν → Table κ ν
  | .keep => table
  | .drop => Lapse.drop table key
  | .hold value => Lapse.hold ttl table key value now

variable {table : Table κ ν} {key other : κ} {now ttl : ℤ}

@[simp] theorem apply_keep : (Reaction.keep : Reaction ν).apply ttl table key now = table := rfl

@[simp] theorem apply_drop : (Reaction.drop : Reaction ν).apply ttl table key now = drop table key := rfl

@[simp] theorem apply_hold (value : ν) : (Reaction.hold value).apply ttl table key now = hold ttl table key value now := rfl

@[simp] theorem get?_hold (value : ν) :
    (hold ttl table key value now).get? other = if other = key then some ⟨value, now + ttl⟩ else table.get? other :=
  OrderedMap.get?_alter _ _ _ _

@[simp] theorem get?_drop : (drop table key).get? other = if other = key then none else table.get? other := by
  rw [drop, OrderedMap.get?_filter _ (decide <| · ≠ key)]
  by_cases same : other = key <;> simp [same]

/-- There is no value, or one that has lapsed, or one that has not. -/
theorem load_cases (table : Table κ ν) (key : κ) (now : ℤ) :
    table.get? key = none ∧ load table key now = (table, none) ∨
      ∃ held, table.get? key = some held ∧ (held.expires_at ≤ now ∧ load table key now = (drop table key, none) ∨
        now < held.expires_at ∧ load table key now = (table, some held.value)) := by
  unfold load
  cases table.get? key with
  | none => exact .inl ⟨rfl, rfl⟩
  | some held =>
    refine .inr ⟨held, rfl, ?_⟩
    rcases Int.lt_or_le now held.expires_at with fresh | lapsed
    · exact .inr ⟨fresh, if_neg (Int.not_le.mpr fresh)⟩
    · exact .inl ⟨lapsed, if_pos lapsed⟩

theorem load_eq_some {value : ν} :
    (load table key now).2 = some value ↔ ∃ expires_at, table.get? key = some ⟨value, expires_at⟩ ∧ now < expires_at := by
  rcases load_cases table key now with ⟨absent, loaded⟩ | ⟨⟨found, expires_at⟩, there, ⟨lapsed, loaded⟩ | ⟨fresh, loaded⟩⟩
  · simp [loaded, absent]
  · simpa [loaded, there] using fun _ => lapsed
  · simp [loaded, there, fresh]

theorem load_of_some {value : ν} (found : (load table key now).2 = some value) : (load table key now).1 = table := by
  rcases load_cases table key now with ⟨-, loaded⟩ | ⟨held, -, ⟨-, loaded⟩ | ⟨-, loaded⟩⟩
  · rw [loaded]
  · rw [loaded] at found
    contradiction
  · rw [loaded]

theorem get?_load_of_none (found : (load table key now).2 = none) : (load table key now).1.get? key = none := by
  rcases load_cases table key now with ⟨absent, loaded⟩ | ⟨held, -, ⟨-, loaded⟩ | ⟨-, loaded⟩⟩
  · rw [loaded, absent]
  · rw [loaded, get?_drop, if_pos rfl]
  · rw [loaded] at found
    contradiction

theorem get?_load_ne (apart : other ≠ key) : (load table key now).1.get? other = table.get? other := by
  rcases load_cases table key now with ⟨-, loaded⟩ | ⟨held, -, ⟨-, loaded⟩ | ⟨-, loaded⟩⟩
  · rw [loaded]
  · rw [loaded, get?_drop, if_neg apart]
  · rw [loaded]

theorem get?_apply_ne (apart : other ≠ key) (reaction : Reaction ν) :
    (reaction.apply ttl table key now).get? other = table.get? other := by
  cases reaction <;> simp [apart]

theorem get?_apply_iff {reaction : Reaction ν} {held : Held ν} :
    (reaction.apply ttl table key now).get? key = some held ↔
      reaction = .keep ∧ table.get? key = some held ∨ ∃ value, reaction = .hold value ∧ held = ⟨value, now + ttl⟩ := by
  cases reaction <;> simp [eq_comm]

end

/-! ## Tapes -/

/-- Events at keys and times. -/
structure Desk (κ ν ε : Type) where
  ttl : ℤ
  key : ε → κ
  time : ε → ℤ
  act : ε → Act ν

namespace Desk

variable {κ ν ε : Type} [DecidableEq κ] (desk : Desk κ ν ε)

def step (table : Table κ ν) (event : ε) : Table κ ν :=
  match desk.act event with
  | .blind reaction => reaction.apply desk.ttl table (desk.key event) (desk.time event)
  | .look react =>
    let (table, found) := load table (desk.key event) (desk.time event)
    (react found).apply desk.ttl table (desk.key event) (desk.time event)

def run (tape : List ε) : Table κ ν := tape.foldl desk.step .empty

/-- The event makes the table hold the value. -/
def Writes (table : Table κ ν) (event : ε) (value : ν) : Prop :=
  match desk.act event with
  | .blind reaction => reaction = .hold value
  | .look react => react (load table (desk.key event) (desk.time event)).2 = .hold value

/-- The event leaves what is held under its key, and comes in time where it looks. -/
def Spares (event : ε) (held : Held ν) : Prop :=
  match desk.act event with
  | .blind reaction => reaction = .keep
  | .look react => desk.time event < held.expires_at ∧ react (some held.value) = .keep

variable {desk} {table : Table κ ν} {tape : List ε} {key : κ} {event : ε} {held : Held ν}

@[simp] theorem run_append (tape : List ε) (event : ε) : desk.run (tape ++ [event]) = desk.step (desk.run tape) event := by
  rw [run, List.foldl_append]
  rfl

theorem get?_step_ne (apart : key ≠ desk.key event) : (desk.step table event).get? key = table.get? key := by
  unfold step
  split
  · exact get?_apply_ne apart _
  · exact (get?_apply_ne apart _).trans (get?_load_ne apart)

theorem get?_step_iff : (desk.step table event).get? (desk.key event) = some held ↔
    table.get? (desk.key event) = some held ∧ desk.Spares event held ∨
      ∃ value, desk.Writes table event value ∧ held = ⟨value, desk.time event + desk.ttl⟩ := by
  unfold step Spares Writes
  cases desk.act event with
  | blind reaction =>
    dsimp only
    rw [get?_apply_iff, and_comm]
  | look react =>
    dsimp only
    rw [get?_apply_iff]
    refine or_congr_left ?_
    cases found : (load table (desk.key event) (desk.time event)).2 with
    | none =>
      rw [get?_load_of_none found]
      constructor
      · rintro ⟨-, same⟩
        contradiction
      · rintro ⟨there, fresh, -⟩
        rw [load_eq_some.mpr ⟨held.expires_at, there, fresh⟩] at found
        contradiction
    | some value =>
      obtain ⟨expires_at, there, fresh⟩ := load_eq_some.mp found
      rw [load_of_some found, there, Option.some.injEq]
      constructor
      · rintro ⟨kept, rfl⟩
        exact ⟨rfl, fresh, kept⟩
      · rintro ⟨rfl, -, kept⟩
        exact ⟨kept, rfl⟩

/-- What is held has been written by an event, and nothing under its key has touched it since. -/
theorem held_iff : (desk.run tape).get? key = some held ↔
    ∃ before event rest value, tape = before ++ event :: rest ∧ desk.key event = key ∧
      desk.Writes (desk.run before) event value ∧ held = ⟨value, desk.time event + desk.ttl⟩ ∧
      ∀ later ∈ rest, desk.key later = key → desk.Spares later held := by
  induction tape using List.reverseRecOn with
  | nil => simp [run]
  | append_singleton tape last ih =>
    rw [run_append]
    constructor
    · intro there
      by_cases own : desk.key last = key
      · subst own
        rcases get?_step_iff.mp there with ⟨there, spared⟩ | ⟨value, written, same⟩
        · obtain ⟨before, event, rest, value, rfl, at_key, written, same, spares⟩ := ih.mp there
          refine ⟨before, event, rest ++ [last], value, by simp, at_key, written, same, fun later among here => ?_⟩
          rcases List.mem_append.mp among with among | among
          · exact spares later among here
          · exact List.mem_singleton.mp among ▸ spared
        · exact ⟨tape, last, [], value, rfl, rfl, written, same, by simp⟩
      · rw [get?_step_ne (Ne.symm own)] at there
        obtain ⟨before, event, rest, value, rfl, at_key, written, same, spares⟩ := ih.mp there
        refine ⟨before, event, rest ++ [last], value, by simp, at_key, written, same, fun later among here => ?_⟩
        rcases List.mem_append.mp among with among | among
        · exact spares later among here
        · exact absurd (List.mem_singleton.mp among ▸ here) own
    · rintro ⟨before, event, rest, value, cut, at_key, written, same, spares⟩
      rcases rest.eq_nil_or_concat' with rfl | ⟨rest, later, rfl⟩
      · obtain ⟨rfl, one⟩ := List.append_inj' cut rfl
        obtain rfl := (List.cons.inj one).1
        subst at_key
        exact get?_step_iff.mpr (.inr ⟨value, written, same⟩)
      · rw [← List.cons_append, ← List.append_assoc] at cut
        obtain ⟨rfl, one⟩ := List.append_inj' cut rfl
        obtain rfl := (List.cons.inj one).1
        have there := ih.mpr ⟨before, event, rest, value, rfl, at_key, written, same, fun other among here =>
          spares other (List.mem_append_left _ among) here⟩
        by_cases own : desk.key last = key
        · have spared := spares last (by simp) own
          subst own
          exact get?_step_iff.mpr (.inl ⟨there, spared⟩)
        · rwa [get?_step_ne (Ne.symm own)]

/-- What holds of each value that is written, given that it holds of the values before it under its key, holds of what is
held. -/
theorem held_induction {P : List ε → κ → Held ν → Prop}
    (written : ∀ before event rest value, desk.Writes (desk.run before) event value →
      (∀ held, (desk.run before).get? (desk.key event) = some held → P before (desk.key event) held) →
      (∀ later ∈ rest, desk.key later = desk.key event → desk.Spares later ⟨value, desk.time event + desk.ttl⟩) →
      P (before ++ event :: rest) (desk.key event) ⟨value, desk.time event + desk.ttl⟩)
    (there : (desk.run tape).get? key = some held) : P tape key held := by
  induction size : tape.length using Nat.strongRecOn generalizing tape held with
  | _ length ih =>
    obtain ⟨before, event, rest, value, rfl, rfl, writes, rfl, spares⟩ := held_iff.mp there
    have shorter : before.length < length := by
      rw [← size, List.length_append, List.length_cons]
      omega
    exact written before event rest value writes (fun held there => ih _ shorter there rfl) spares

end Desk

end OmniControlPlane.Lib.Lapse
