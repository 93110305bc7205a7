import Mathlib.Algebra.Order.Ring.Rat
import OmniControlPlane.Lib.Double
import OmniControlPlane.Lib.Json

/-! # JSON values in JavaScript

The values that `JSON.parse` gives, and what `Number` makes of them. A numeral is read exactly, and then rounded to the
nearest double.
-/

namespace OmniControlPlane.Lib.JavaScript

open Json (hexDigit?)

inductive JsNumber where
  | nan
  | infinity (negative : Bool)
  | finite (value : ℚ)
deriving DecidableEq, Repr

/-- A JSON value in JavaScript. -/
inductive Js where
  | null
  | bool (value : Bool)
  | number (value : JsNumber)
  | string (value : String)
  | array (items : List Js)
  | object (fields : List (String × Js))

abbrev Fields := List (String × Js)

/-- The own properties of a value that a request looks at; those of `null` cannot be read. -/
def Js.fields : Js → Option Fields
  | .null => none
  | .object fields => some fields
  | _ => some []

/-- What becomes of a number: the nearest double, if that is not too large. -/
def double (value : ℚ) : JsNumber :=
  let rounded := toDouble value
  if |rounded| < 2 ^ 1024 then .finite rounded else .infinity (value < 0)

/-- The longest decimal literal that a text begins with, and the rest. -/
def readDecimal (text : List Char) : Option (ℚ × List Char) :=
  let negative := text.head? = some '-'
  let text := if text.head? = some '-' ∨ text.head? = some '+' then text.tail else text
  let whole := text.takeWhile (·.isDigit)
  let rest := text.dropWhile (·.isDigit)
  let point := rest.head? = some '.'
  let fraction := if point then rest.tail.takeWhile (·.isDigit) else []
  let rest := if point then rest.tail.dropWhile (·.isDigit) else rest
  if whole = [] ∧ fraction = [] then none
  else
    let mantissa : ℚ := Nat.ofDigitChars 10 (whole ++ fraction) 0 / 10 ^ fraction.length
    let signed := if negative then -mantissa else mantissa
    let power := if rest.head? = some 'e' ∨ rest.head? = some 'E' then rest.tail else []
    let below := power.head? = some '-'
    let power := if power.head? = some '-' ∨ power.head? = some '+' then power.tail else power
    let digits := power.takeWhile (·.isDigit)
    if digits = [] then some (signed, rest)
    else
      let scale : ℚ := 10 ^ Nat.ofDigitChars 10 digits 0
      some (if below then signed / scale else signed * scale, power.dropWhile (·.isDigit))

/-- `0x`, `0o` and `0b` literals. -/
def readRadix (text : List Char) : Option ℕ :=
  let base := match text with
    | '0' :: 'x' :: _ | '0' :: 'X' :: _ => 16
    | '0' :: 'o' :: _ | '0' :: 'O' :: _ => 8
    | '0' :: 'b' :: _ | '0' :: 'B' :: _ => 2
    | _ => 0
  let digits := text.drop 2
  if digits ≠ [] ∧ digits.all (fun char => (hexDigit? char).any (· < base)) then
    some (digits.foldl (fun value char => value * base + (hexDigit? char).getD 0) 0)
  else none

/-- `Number` of a string -/
def numberOfString (text : String) : JsNumber :=
  let text := trim text
  if text = [] then .finite 0
  else if text = "Infinity".toList ∨ text = "+Infinity".toList then .infinity false
  else if text = "-Infinity".toList then .infinity true
  else
    match readRadix text with
    | some value => double value
    | none =>
      match readDecimal text with
      | some (value, []) => double value
      | _ => .nan

mutual

/-- An object whose own `toString` is no function has no primitive value. -/
def throws : Js → Bool
  | .array items => anyThrows items
  | .object fields => fields.any (·.1 = "toString")
  | _ => false

def anyThrows : List Js → Bool
  | [] => false
  | item :: items => throws item || anyThrows items

end

def plainNumber : Js → JsNumber
  | .null => .finite 0
  | .bool value => .finite (if value then 1 else 0)
  | .number value => value
  | .string text => numberOfString text
  | .array [] => .finite 0
  | .array [.bool _] => .nan
  | .array [item] => plainNumber item
  | .array _ => .nan
  | .object _ => .nan

/-- A property, `undefined` where there is none. -/
def Fields.get (fields : Fields) (key : String) : Option Js := fields.lookup key

def truthy : Option Js → Bool
  | none | some .null | some (.bool false) | some (.number .nan) | some (.number (.finite 0)) | some (.string "") => false
  | _ => true

/-- `text.includes(part)` -/
def includes (part text : String) : Bool := part.toList <:+: text.toList

def JsNumber.positive : JsNumber → Bool
  | .finite value => 0 < value
  | _ => false

/-- What the bitwise operators take a number for. -/
def toInt32 (value : ℚ) : BitVec 32 := BitVec.ofInt 32 (value.num.tdiv value.den)

/-! ## Doubles -/

theorem double_eq_finite_iff {value number : ℚ} :
    double value = .finite number ↔ |value| < overflow ∧ toDouble value = number := by
  have finite : |toDouble value| < 2 ^ 1024 ↔ |value| < overflow := by
    rw [abs_toDouble, ← toDouble_lt_iff (abs_nonneg value)]
    exact (zpow_natCast (2 : ℚ) 1024) ▸ Iff.rfl
  unfold double
  dsimp only
  split
  · next small => exact ⟨fun same => ⟨finite.mp small, JsNumber.finite.inj same⟩, fun both => congrArg _ both.2⟩
  · next large => exact ⟨nofun, fun both => absurd (finite.mpr both.1) large⟩

theorem double_natCast {value : ℕ} (small : value < 2 ^ 53) : double value = .finite value := by
  have large : (2 : ℚ) ^ 53 ≤ overflow := by
    unfold overflow
    have scaled : (2 : ℚ) ^ (1024 : ℤ) = 2 ^ 54 * 2 ^ (970 : ℤ) := by
      rw [← zpow_natCast, ← zpow_add₀ two_ne_zero]
      rfl
    have some_units : (1 : ℚ) ≤ 2 ^ (970 : ℤ) := one_le_zpow₀ one_le_two (by decide)
    rw [scaled]
    generalize (2 : ℚ) ^ (970 : ℤ) = unit at some_units
    calc (2 : ℚ) ^ 53 ≤ 2 ^ 54 - 1 := by norm_num
      _ ≤ (2 ^ 54 - 1) * unit := le_mul_of_one_le_right (by norm_num) some_units
      _ = 2 ^ 54 * unit - unit := by ring
  refine double_eq_finite_iff.mpr ⟨?_, toDouble_natCast small⟩
  rw [Nat.abs_cast]
  exact (by exact_mod_cast small : (value : ℚ) < 2 ^ 53).trans_le large

/-! ## Powers of two -/

theorem toInt32_natCast (value : ℕ) : toInt32 value = BitVec.ofNat 32 value := by
  rw [toInt32, Rat.num_natCast, Rat.den_natCast, Nat.cast_one, Int.tdiv_one, BitVec.ofInt_natCast]

/-- A number shares no bit with the number before it exactly where it is a power of two. -/
theorem toInt32_and_pred {value : ℕ} (positive : 0 < value) (small : value ≤ 2 ^ 32) :
    toInt32 value &&& toInt32 ((value : ℚ) - 1) = 0 ↔ value.isPowerOfTwo := by
  have before : ((value : ℚ) - 1) = ((value - 1 : ℕ) : ℚ) := by rw [Nat.cast_sub positive, Nat.cast_one]
  rw [before, toInt32_natCast, toInt32_natCast, ← BitVec.toNat_inj, BitVec.toNat_and, BitVec.toNat_ofNat,
    BitVec.toNat_ofNat]
  rcases Nat.lt_or_eq_of_le small with less | rfl
  · rw [Nat.mod_eq_of_lt less, Nat.mod_eq_of_lt (by omega)]
    exact Nat.and_sub_one_eq_zero_iff_isPowerOfTwo (by omega)
  · rw [Nat.mod_self, Nat.zero_and]
    exact iff_of_true rfl ⟨32, rfl⟩

/-! ## Numerals -/

/-- What a digit is not. -/
theorem digit_facts {char : Char} (digit : char.isDigit = true) : isJsSpace char = false ∧
    ∀ other ∈ [' ', '-', '+', 'x', 'X', 'o', 'O', 'b', 'B', 'I'], char ≠ other := by
  have codes : ∀ code < 58, 48 ≤ code → Char.ofNat code ∈ "0123456789".toList := by decide
  have bounds := Char.isDigit_iff_toNat.mp digit
  have listed := codes char.toNat (Nat.lt_succ_of_le bounds.2) bounds.1
  rw [Char.ofNat_toNat] at listed
  have facts := List.all_eq_true.mp (by decide : ("0123456789".toList.all fun char => !isJsSpace char &&
    [' ', '-', '+', 'x', 'X', 'o', 'O', 'b', 'B', 'I'].all fun other => char != other) = true) char listed
  rw [Bool.and_eq_true, Bool.not_eq_true', List.all_eq_true] at facts
  exact ⟨facts.1, fun other found => bne_iff_ne.mp (facts.2 other found)⟩

section

variable {digits : List Char} (nonempty : digits ≠ []) (decimal : ∀ char ∈ digits, char.isDigit = true)

include decimal in
theorem readRadix_digits : readRadix digits = none := by
  have unlike (letter : Char) (listed : letter ∈ [' ', '-', '+', 'x', 'X', 'o', 'O', 'b', 'B', 'I'])
      (tail : List Char) (same : digits = '0' :: letter :: tail) : False :=
    (digit_facts (decimal letter (by rw [same]; simp))).2 letter listed rfl
  rw [readRadix]
  · rw [if_neg]
    rintro ⟨written, small⟩
    obtain ⟨first, rest, shape⟩ := List.exists_cons_of_ne_nil written
    rw [shape, List.all_cons, Bool.and_eq_true] at small
    have below := small.1
    simp at below
  all_goals
    intro tail same
    exact unlike _ (by simp) tail same

include nonempty decimal in
theorem readDecimal_digits : readDecimal digits = some ((Nat.ofDigitChars 10 digits 0 : ℚ), []) := by
  obtain ⟨first, rest, rfl⟩ := List.exists_cons_of_ne_nil nonempty
  obtain ⟨-, unlike⟩ := digit_facts (decimal first List.mem_cons_self)
  have minus : ¬ some first = some '-' := fun same => unlike '-' (by simp) (Option.some.inj same)
  have plus : ¬ some first = some '+' := fun same => unlike '+' (by simp) (Option.some.inj same)
  have all : (first :: rest).takeWhile (·.isDigit) = first :: rest := List.takeWhile_eq_self_iff.mpr decimal
  have gone : (first :: rest).dropWhile (·.isDigit) = [] := List.dropWhile_eq_nil_iff.mpr decimal
  simp [readDecimal, minus, plus, all, gone]

include nonempty decimal in
/-- `Number` of a decimal numeral. -/
theorem numberOfString_digits :
    numberOfString (String.ofList digits) = double (Nat.ofDigitChars 10 digits 0) := by
  have trimmed : trim (String.ofList digits) = digits := by
    have kept : trim (String.ofList digits) = _ := trim_of_no_space fun char found =>
      (digit_facts (decimal char (by rwa [String.toList_ofList] at found))).1
    rwa [String.toList_ofList] at kept
  have unlike (word : List Char) (letter : 'I' ∈ word) : ¬ digits = word := by
    rintro rfl
    exact (digit_facts (decimal 'I' letter)).2 'I' (by simp) rfl
  rw [numberOfString, trimmed, if_neg nonempty, if_neg (not_or.mpr ⟨unlike _ (by decide), unlike _ (by decide)⟩),
    if_neg (unlike _ (by decide)), readRadix_digits decimal, readDecimal_digits nonempty decimal]

end

end OmniControlPlane.Lib.JavaScript
