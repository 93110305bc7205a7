import Mathlib.Data.List.Induction
import Mathlib.Logic.Function.Basic
import Mathlib.Order.Basic
import Mathlib.Tactic.Common

/-! # Numbered slots, read up to the first gap

A publication writes its values to the slots from the first one on and leaves the others; a reader
goes from slot to slot until it finds an empty one. So it reads what a longer publication has left
behind the last one, unless the slots were cleared in between.
-/

namespace OmniControlPlane.Lib

/-- What each slot holds. -/
abbrev Slots (α : Type*) := ℕ → Option α

namespace Slots

variable {α : Type*}

/-- The values from a slot on, of at most `count` slots and before the first empty one. -/
def readRun (slots : Slots α) : ℕ → ℕ → List α
  | 0, _ => []
  | count + 1, start =>
    match slots start with
    | none => []
    | some value => value :: readRun slots count (start + 1)

def set (slots : Slots α) (index : ℕ) (value : Option α) : Slots α := Function.update slots index value

/-- The values replace what the first slots hold. -/
def overlay (values : List α) (slots : Slots α) : Slots α := fun index => values[index]?.or (slots index)

/-- The first `count` slots are emptied. -/
def clear (count : ℕ) (slots : Slots α) : Slots α := fun index => if index < count then none else slots index

/-- Just the slots below `level` hold something. -/
def FilledTo (slots : Slots α) (level : ℕ) : Prop := ∀ index, (slots index).isSome ↔ index < level

variable {slots other : Slots α} {values : List α} {level count start : ℕ}

theorem filledTo_empty : FilledTo (fun _ => none : Slots α) 0 := by
  intro index
  simp

theorem FilledTo.overlay (filled : slots.FilledTo level) (values : List α) :
    (slots.overlay values).FilledTo (max values.length level) := by
  intro index
  have listed : (values[index]?).isSome ↔ index < values.length := by simp
  simp only [Slots.overlay, Option.isSome_or, Bool.or_eq_true, filled index, listed]
  omega

theorem FilledTo.clear (filled : slots.FilledTo level) (covered : level ≤ count) : (slots.clear count).FilledTo 0 := by
  intro index
  simp only [Slots.clear]
  split
  · simp
  · have outside := filled index
    simp only [outside]
    omega

theorem readRun_eq_nil_iff : slots.readRun count start = [] ↔ count = 0 ∨ slots start = none := by
  cases count with
  | zero => simp [readRun]
  | succ count =>
    rw [readRun]
    cases slots start <;> simp

theorem mem_readRun {value : α} (member : value ∈ slots.readRun count start) : ∃ index, slots index = some value := by
  induction count generalizing start with
  | zero => contradiction
  | succ count ih =>
    rw [readRun] at member
    split at member
    · contradiction
    · next found =>
      rcases List.mem_cons.mp member with rfl | later
      · exact ⟨start, found⟩
      · exact ih later

theorem readRun_congr (same : ∀ index, start ≤ index → slots index = other index) :
    slots.readRun count start = other.readRun count start := by
  induction count generalizing start with
  | zero => rfl
  | succ count ih =>
    rw [readRun, readRun, same start (Nat.le_refl _), ih fun index above => same index (by omega)]

/-- From a slot where values begin, a reader finds the values and then what is behind them. -/
theorem readRun_of_values (here : ∀ index, index < values.length → slots (start + index) = values[index]?)
    (fits : values.length ≤ count) :
    slots.readRun count start = values ++ slots.readRun (count - values.length) (start + values.length) := by
  induction values generalizing count start with
  | nil => rfl
  | cons value rest ih =>
    obtain ⟨remaining, rfl⟩ : ∃ remaining, count = remaining + 1 := ⟨count - 1, by simp at fits; omega⟩
    have first : slots start = some value := by simpa using here 0 (by simp)
    have there (index : ℕ) (inside : index < rest.length) : slots (start + 1 + index) = rest[index]? := by
      have next := here (index + 1) (by simpa using inside)
      simpa [Nat.add_comm, Nat.add_left_comm] using next
    have later : slots.readRun remaining (start + 1) = _ := ih there (by simpa using fits)
    rw [readRun, first]
    simp only [List.cons_append, List.length_cons, List.cons.injEq, true_and, later]
    congr 2 <;> omega

/-- A reader of a publication goes on into what was there before. -/
theorem readRun_overlay (fits : values.length ≤ count) :
    (slots.overlay values).readRun count 0 = values ++ slots.readRun (count - values.length) values.length := by
  have here (index : ℕ) (inside : index < values.length) : slots.overlay values (0 + index) = values[index]? := by
    simp [overlay, inside]
  rw [readRun_of_values here fits, Nat.zero_add]
  refine congrArg _ (readRun_congr fun index behind => ?_)
  simp [overlay, List.getElem?_eq_none behind]

/-! ## Loops -/

/-- A loop that writes one slot after another. -/
theorem foldl_update {β : Type*} (items : List β) (value : ℕ → β → α) (start : ℕ) (slots : Slots α) :
    (items.zipIdx start).foldl (fun slots entry => slots.set entry.2 (some (value entry.2 entry.1))) slots =
      fun index => if start ≤ index then ((items[index - start]?).map (value index)).or (slots index)
        else slots index := by
  induction items generalizing start slots with
  | nil => simp
  | cons item rest ih =>
    rw [List.zipIdx_cons, List.foldl_cons, ih]
    funext index
    rcases Nat.lt_trichotomy index start with below | rfl | above
    · rw [if_neg (by omega), if_neg (by omega), set, Function.update_of_ne (by omega)]
    · rw [if_neg (by omega), if_pos (Nat.le_refl _), set, Function.update_self, Nat.sub_self]
      rfl
    · obtain ⟨behind, rfl⟩ : ∃ behind, index = start + 1 + behind := ⟨index - (start + 1), by omega⟩
      have back : start + 1 + behind - start = behind + 1 := by omega
      rw [if_pos (by omega), if_pos (by omega), set, Function.update_of_ne (by omega), Nat.add_sub_cancel_left, back,
        List.getElem?_cons_succ]

theorem foldl_update_overlay {β : Type*} (items : List β) (value : ℕ → β → α) (slots : Slots α) :
    items.zipIdx.foldl (fun slots entry => slots.set entry.2 (some (value entry.2 entry.1))) slots =
      slots.overlay (items.mapIdx value) := by
  rw [foldl_update]
  funext index
  simp [overlay]

/-- A loop that empties one slot after another. -/
theorem foldl_update_clear (count : ℕ) (slots : Slots α) :
    (List.range count).foldl (fun slots index => slots.set index none) slots = slots.clear count := by
  induction count with
  | zero => rfl
  | succ count ih =>
    rw [List.range_succ, List.foldl_append, ih]
    funext index
    rw [List.foldl_cons, List.foldl_nil, set, Function.update_apply, clear, clear]
    split
    · rw [if_pos (by omega)]
    · split
      · rw [if_pos (by omega)]
      · rw [if_neg (by omega)]

/-! ## Histories -/

/-- What is done to the slots. -/
inductive Write (α : Type*) where
  | publish (values : List α)
  | clear

variable {capacity : ℕ} {history : List (Write α)}

def Write.apply (capacity : ℕ) (slots : Slots α) : Write α → Slots α
  | .publish values => slots.overlay values
  | .clear => slots.clear capacity

/-- The slots after a history that begins with empty ones. -/
def after (capacity : ℕ) (history : List (Write α)) : Slots α := history.foldl (Write.apply capacity) fun _ => none

/-- The publications since the last time the slots were cleared, the latest first. -/
def standing (history : List (Write α)) : List (List α) :=
  history.foldl (fun standing write =>
    match write with
    | .publish values => values :: standing
    | .clear => []) []

/-- The length of the longest list. -/
def longest (lists : List (List α)) : ℕ := lists.foldr (fun values level => max values.length level) 0

theorem longest_le_iff {lists : List (List α)} : longest lists ≤ level ↔ ∀ values ∈ lists, values.length ≤ level := by
  induction lists with
  | nil => simp [longest]
  | cons values rest ih =>
    simp only [longest, List.foldr_cons] at ih ⊢
    rw [Nat.max_le, ih, List.forall_mem_cons]

/-- Only what was published fits the capacity. -/
def Fits (capacity : ℕ) (history : List (Write α)) : Prop :=
  ∀ values, .publish values ∈ history → values.length ≤ capacity

theorem longest_standing_le (fits : Fits capacity history) : longest (standing history) ≤ capacity := by
  rw [longest_le_iff]
  induction history using List.reverseRecOn with
  | nil => simp [standing]
  | append_singleton earlier write ih =>
    have before := ih fun values member => fits values (List.mem_append_left _ member)
    cases write with
    | publish values =>
      have last : values.length ≤ capacity := fits values (by simp)
      simpa [standing, last] using before
    | clear => simp [standing]

/-- The slots are filled as far as the longest publication since they were cleared. -/
theorem filledTo_after (fits : Fits capacity history) :
    (after capacity history).FilledTo (longest (standing history)) := by
  induction history using List.reverseRecOn with
  | nil => exact filledTo_empty
  | append_singleton earlier write ih =>
    have fitsEarlier : Fits capacity earlier := fun values member => fits values (List.mem_append_left _ member)
    have filled := ih fitsEarlier
    rw [after, List.foldl_append]
    cases write with
    | publish values =>
      have standing : standing (earlier ++ [Write.publish values]) = values :: standing earlier := by
        simp [Slots.standing]
      rw [standing]
      exact filled.overlay values
    | clear =>
      have standing : standing (earlier ++ [Write.clear]) = [] := by simp [Slots.standing]
      rw [standing]
      exact filled.clear (longest_standing_le fitsEarlier)

/-- What a slot holds was published. -/
theorem published_of_after {index : ℕ} {value : α} (held : after capacity history index = some value) :
    ∃ values, .publish values ∈ history ∧ value ∈ values := by
  induction history using List.reverseRecOn with
  | nil => contradiction
  | append_singleton earlier write ih =>
    have earlierPublished (before : after capacity earlier index = some value) :
        ∃ values, .publish values ∈ earlier ++ [write] ∧ value ∈ values := by
      obtain ⟨values, member, listed⟩ := ih before
      exact ⟨values, List.mem_append_left _ member, listed⟩
    rw [after, List.foldl_append] at held
    cases write with
    | publish values =>
      rcases Option.or_eq_some_iff.mp held with new | ⟨-, old⟩
      · exact ⟨values, by simp, List.mem_of_getElem? new⟩
      · exact earlierPublished old
    | clear =>
      change (if index < capacity then none else after capacity earlier index) = some value at held
      split at held
      · contradiction
      · exact earlierPublished held

/-- After a publication a reader finds it, followed by what stands behind it. -/
theorem readRun_publish (fits : values.length ≤ capacity) :
    (after capacity (history ++ [Write.publish values])).readRun capacity 0 =
      values ++ (after capacity history).readRun (capacity - values.length) values.length := by
  rw [after, List.foldl_append]
  exact readRun_overlay fits

/-- Nothing stands behind a publication when no longer one precedes it since the slots were cleared. -/
theorem nothing_behind_iff (fits : Fits capacity history) :
    (after capacity history).readRun (capacity - values.length) values.length = [] ↔
      ∀ earlier ∈ standing history, earlier.length ≤ values.length := by
  have filled := filledTo_after fits values.length
  have bounded := longest_standing_le fits
  rw [readRun_eq_nil_iff, ← longest_le_iff, ← Option.not_isSome_iff_eq_none, filled]
  omega

/-- After a clearing a reader finds nothing. -/
theorem readRun_clear : (after capacity (history ++ [Write.clear])).readRun capacity 0 = [] := by
  rw [after, List.foldl_append, readRun_eq_nil_iff]
  cases capacity with
  | zero => exact .inl rfl
  | succ capacity => exact .inr rfl

end Slots

end OmniControlPlane.Lib
