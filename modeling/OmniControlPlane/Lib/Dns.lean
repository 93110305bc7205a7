import Mathlib.Data.List.Basic
import Mathlib.Tactic.Common

/-! # DNS messages

When bytes are a DNS message: a header of twelve bytes, and after it exactly the questions and the records
that the header counts. What the data of a record means is left open.
-/

namespace OmniControlPlane.Lib.Dns

abbrev Wire := List UInt8

/-- The number in two bytes. -/
def word (wire : Wire) (offset : ℕ) : ℕ := (wire.getD offset 0).toNat * 256 + (wire.getD (offset + 1) 0).toNat

/-- The bytes of the identifier. -/
def ident (wire : Wire) : Wire := wire.take 2

/-- Reads a name, and leaves what comes after it. A pointer leads to a name before it; the fuel bounds the
labels and pointers, so that no chain of pointers is endless. -/
def readName (message : Wire) : ℕ → Wire → Option Wire
  | 0, _ => none
  | _ + 1, [] => none
  | fuel + 1, first :: rest =>
    if first = 0 then some rest
    else if first.toNat < 64 then
      if rest.length < first.toNat then none else readName message fuel (rest.drop first.toNat)
    else if first.toNat < 192 then none
    else
      match rest with
      | [] => none
      | low :: after =>
        let target := (first.toNat - 192) * 256 + low.toNat
        if target + rest.length + 1 < message.length ∧ (readName message fuel (message.drop target)).isSome then some after
        else none

def dropExactly (count : ℕ) (rest : Wire) : Option Wire := if rest.length < count then none else some (rest.drop count)

/-- A name, a type and a class. -/
def readQuestion (message rest : Wire) : Option Wire := readName message message.length rest >>= dropExactly 4

/-- A name, a type, a class, a time to live, and as much data as the record says. -/
def readRecord (message rest : Wire) : Option Wire := do
  let rest ← readName message message.length rest
  if rest.length < 10 then none else dropExactly (word rest 8) (rest.drop 10)

/-- Reads as many entries as are counted. -/
def readMany (read : Wire → Option Wire) : ℕ → Wire → Option Wire
  | 0, rest => some rest
  | count + 1, rest => read rest >>= readMany read count

def questions (wire : Wire) : ℕ := word wire 4

def records (wire : Wire) : ℕ := word wire 6 + word wire 8 + word wire 10

/-- The header is whole, and the entries that it counts are all that follows. -/
def WellFormed (wire : Wire) : Prop :=
  12 ≤ wire.length ∧ (do
    let rest ← readMany (readQuestion wire) (questions wire) (wire.drop 12)
    readMany (readRecord wire) (records wire) rest) = some []

instance (wire : Wire) : Decidable (WellFormed wire) := inferInstanceAs (Decidable (_ ∧ _))

section

variable {wire : Wire}

@[simp] theorem readName_nil (message : Wire) (fuel : ℕ) : readName message fuel [] = none := by
  cases fuel <;> rfl

@[simp] theorem readQuestion_nil (message : Wire) : readQuestion message [] = none := by
  rw [readQuestion, readName_nil]
  rfl

@[simp] theorem readRecord_nil (message : Wire) : readRecord message [] = none := by
  rw [readRecord, readName_nil]
  rfl

theorem readMany_nil_iff {read : Wire → Option Wire} (fails : read [] = none) (count : ℕ) :
    readMany read count [] = some [] ↔ count = 0 := by
  cases count with
  | zero => exact iff_of_true rfl rfl
  | succ count =>
    rw [readMany, fails]
    exact iff_of_false nofun (Nat.succ_ne_zero count)

/-- A header alone is a message exactly when it counts nothing. -/
theorem wellFormed_header_iff (header : wire.length = 12) : WellFormed wire ↔ questions wire = 0 ∧ records wire = 0 := by
  have nothing : wire.drop 12 = [] := List.drop_eq_nil_of_le (Nat.le_of_eq header)
  unfold WellFormed
  rw [nothing]
  cases asked : questions wire with
  | zero =>
    simp only [readMany, Option.bind_eq_bind, Option.bind_some, true_and]
    rw [readMany_nil_iff (readRecord_nil wire)]
    exact and_iff_right (Nat.le_of_eq header.symm)
  | succ count =>
    simp [readMany]

end

end OmniControlPlane.Lib.Dns
