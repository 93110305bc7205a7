import Mathlib.Data.List.Basic
import Mathlib.Tactic.Common

/-! # Exact reads from a stream of chunks

A stream arrives as chunks of any sizes, empty ones included. A reader that takes a fixed number of
items and cannot give any back succeeds exactly where a chunk ends behind them, so a sequence of such
reads depends on where the chunks end and on nothing else of the segmentation.
-/

namespace OmniControlPlane.Lib

variable {α : Type*}

/-- How an exact read fails. -/
inductive ReadError where
  | early
  | overrun
deriving DecidableEq, Repr

/-- Read chunks until `count` items are there. A chunk with more than that is an overrun. -/
def readExact : ℕ → List (List α) → Except ReadError (List α × List (List α))
  | 0, chunks => .ok ([], chunks)
  | _ + 1, [] => .error .early
  | count + 1, chunk :: chunks =>
    if chunk.length ≤ count + 1 then
      (readExact (count + 1 - chunk.length) chunks).map fun read => (chunk ++ read.1, read.2)
    else .error .overrun
termination_by structural _ chunks => chunks

/-- Some chunk ends, or the stream begins, after `position` items. -/
def Boundary (chunks : List (List α)) (position : ℕ) : Prop :=
  ∃ front back, chunks = front ++ back ∧ front.flatten.length = position

/-- Every one of these pieces, which follow each other in the stream, ends where a chunk ends. -/
def Aligned (pieces chunks : List (List α)) : Prop :=
  ∀ front back, pieces = front ++ back → Boundary chunks front.flatten.length

variable {chunks rest pieces : List (List α)} {piece items tail : List α} {count position : ℕ}

theorem boundary_zero (chunks : List (List α)) : Boundary chunks 0 := ⟨[], chunks, rfl, rfl⟩

theorem boundary_cons {chunk : List α} (ends : Boundary (chunk :: chunks) position) (positive : 0 < position) :
    chunk.length ≤ position ∧ Boundary chunks (position - chunk.length) := by
  obtain ⟨front, back, split, size⟩ := ends
  cases front with
  | nil =>
    have zero : position = 0 := size.symm
    omega
  | cons first front =>
    obtain ⟨rfl, others⟩ := List.cons.inj split
    rw [List.flatten_cons, List.length_append] at size
    exact ⟨by omega, front, back, others, by omega⟩

/-- A read that succeeds has taken whole chunks. -/
theorem readExact_shape (read : readExact count chunks = .ok (items, rest)) :
    items.length = count ∧ ∃ front, chunks = front ++ rest ∧ front.flatten = items := by
  induction chunks generalizing count items with
  | nil =>
    cases count with
    | zero =>
      obtain ⟨rfl, rfl⟩ := Prod.mk.inj (Except.ok.inj read)
      exact ⟨rfl, [], rfl, rfl⟩
    | succ count => contradiction
  | cons chunk chunks ih =>
    cases count with
    | zero =>
      obtain ⟨rfl, rfl⟩ := Prod.mk.inj (Except.ok.inj read)
      exact ⟨rfl, [], rfl, rfl⟩
    | succ count =>
      rw [readExact] at read
      split at read
      · next fits =>
        cases later : readExact (count + 1 - chunk.length) chunks with
        | error reason =>
          rw [later] at read
          contradiction
        | ok found =>
          obtain ⟨taken, after⟩ := found
          rw [later] at read
          obtain ⟨rfl, rfl⟩ := Prod.mk.inj (Except.ok.inj read)
          obtain ⟨size, front, split, flat⟩ := ih later
          refine ⟨?_, chunk :: front, congrArg (chunk :: ·) split, by rw [List.flatten_cons, flat]⟩
          rw [List.length_append, size]
          omega
      · contradiction

/-- A read that ends where a chunk ends succeeds. -/
theorem readExact_of_boundary (stream : chunks.flatten = piece ++ tail) (ends : Boundary chunks piece.length) :
    ∃ rest, readExact piece.length chunks = .ok (piece, rest) ∧ rest.flatten = tail := by
  induction chunks generalizing piece with
  | nil =>
    obtain ⟨rfl, rfl⟩ := List.append_eq_nil_iff.mp stream.symm
    exact ⟨[], rfl, rfl⟩
  | cons chunk chunks ih =>
    cases piece with
    | nil => exact ⟨chunk :: chunks, rfl, stream⟩
    | cons item items =>
      obtain ⟨fits, later⟩ := boundary_cons ends (by rw [List.length_cons]; omega)
      rw [List.flatten_cons] at stream
      have front : chunk = (item :: items).take chunk.length := by
        have taken := congrArg (List.take chunk.length) stream
        rwa [List.take_left', List.take_append_of_le_length fits] at taken
        rfl
      obtain ⟨left, same⟩ : ∃ left, item :: items = chunk ++ left :=
        ⟨_, (List.take_append_drop chunk.length (item :: items)).symm.trans (by rw [← front])⟩
      rw [same, List.append_assoc] at stream
      have size : (item :: items).length - chunk.length = left.length := by
        rw [same, List.length_append]
        omega
      rw [size] at later
      obtain ⟨rest, read, flat⟩ := ih (List.append_cancel_left stream) later
      refine ⟨rest, ?_, flat⟩
      rw [List.length_cons] at fits size ⊢
      rw [readExact, if_pos fits, size, read, same]
      rfl

theorem boundary_append {front : List (List α)} :
    Boundary (front ++ rest) (front.flatten.length + position) ↔ Boundary rest position := by
  constructor
  · rintro ⟨before, after, split, size⟩
    rcases List.append_eq_append_iff.mp split with ⟨more, rfl, rfl⟩ | ⟨more, rfl, rfl⟩
    · rw [List.flatten_append, List.length_append] at size
      exact ⟨more, after, rfl, by omega⟩
    · rw [List.flatten_append, List.length_append] at size
      obtain rfl : position = 0 := by omega
      exact boundary_zero rest
  · rintro ⟨before, after, rfl, rfl⟩
    exact ⟨front ++ before, after, (List.append_assoc ..).symm, by rw [List.flatten_append, List.length_append]⟩

theorem aligned_nil (chunks : List (List α)) : Aligned [] chunks := by
  intro front back split
  obtain ⟨rfl, -⟩ := List.append_eq_nil_iff.mp split.symm
  exact boundary_zero chunks

/-- The pieces are aligned exactly when the first one can be read and the others are aligned in what is
left of the stream. -/
theorem aligned_cons (stream : chunks.flatten = piece ++ tail) : Aligned (piece :: pieces) chunks ↔
    ∃ rest, readExact piece.length chunks = .ok (piece, rest) ∧ rest.flatten = tail ∧ Aligned pieces rest := by
  constructor
  · intro aligned
    have first := aligned [piece] pieces rfl
    rw [List.flatten_singleton] at first
    obtain ⟨rest, read, flat⟩ := readExact_of_boundary stream first
    obtain ⟨-, before, rfl, rfl⟩ := readExact_shape read
    refine ⟨rest, read, flat, ?_⟩
    intro front back split
    have later := aligned (before.flatten :: front) back (congrArg (before.flatten :: ·) split)
    rwa [List.flatten_cons, List.length_append, boundary_append] at later
  · rintro ⟨rest, read, -, aligned⟩ front back split
    cases front with
    | nil => exact boundary_zero chunks
    | cons first front =>
      obtain ⟨rfl, others⟩ := List.cons.inj split
      obtain ⟨-, before, rfl, rfl⟩ := readExact_shape read
      rw [List.flatten_cons, List.length_append, boundary_append]
      exact aligned front back others

/-- What a read of the next piece gives, if it gives anything, is that piece. -/
theorem readExact_eq (stream : chunks.flatten = piece ++ tail)
    (read : readExact piece.length chunks = .ok (items, rest)) : items = piece ∧ rest.flatten = tail := by
  obtain ⟨size, front, rfl, rfl⟩ := readExact_shape read
  rw [List.flatten_append] at stream
  exact List.append_inj stream size

end OmniControlPlane.Lib
