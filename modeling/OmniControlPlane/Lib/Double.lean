import Mathlib.Data.Int.Log
import Mathlib.Data.Rat.Floor
import Mathlib.Tactic.Linarith

/-! # Doubles

The numbers of 53 binary digits, and the rounding of an exact result to one of them.
-/

namespace OmniControlPlane.Lib

/-- The nearest whole number, the even one of two. -/
def nearestEven (value : ℚ) : ℤ :=
  let below := ⌊value⌋
  if value - below < 1 / 2 ∨ value - below = 1 / 2 ∧ below % 2 = 0 then below else below + 1

/-- The distance between the doubles around a number. -/
def spacing (value : ℚ) : ℚ := 2 ^ (max (Int.log 2 |value|) (-1022) - 52)

/-- The double nearest to a number, but for its overflow. -/
def toDouble (value : ℚ) : ℚ := nearestEven (value / spacing value) * spacing value

/-- From here on a number is rounded to one that is too large: half a distance below 2 ^ 1024. -/
def overflow : ℚ := 2 ^ (1024 : ℤ) - 2 ^ (970 : ℤ)

section

variable {value bound : ℚ}

theorem nearestEven_le (value : ℚ) : nearestEven value ≤ value + 1 / 2 := by
  have below := Int.floor_le value
  unfold nearestEven
  dsimp only
  split
  · linarith
  · next far =>
    have half : 1 / 2 ≤ value - ⌊value⌋ := not_lt.mp (not_or.mp far).1
    push_cast
    linarith

theorem nearestEven_nonneg (nonneg : 0 ≤ value) : 0 ≤ nearestEven value := by
  have below : 0 ≤ ⌊value⌋ := Int.floor_nonneg.mpr nonneg
  unfold nearestEven
  dsimp only
  split
  · exact below
  · omega

theorem spacing_pos (value : ℚ) : 0 < spacing value := zpow_pos two_pos _

theorem toDouble_nonneg (nonneg : 0 ≤ value) : 0 ≤ toDouble value := by
  apply mul_nonneg
  · exact_mod_cast nearestEven_nonneg (div_nonneg nonneg (spacing_pos value).le)
  · exact (spacing_pos value).le

@[simp] theorem toDouble_zero : toDouble 0 = 0 := by
  have whole : nearestEven 0 = 0 := by simp [nearestEven]
  rw [toDouble, zero_div, whole, Int.cast_zero, zero_mul]

/-- The distance is relative to the number. -/
theorem spacing_le (positive : 0 < value) (below : value ≤ bound) (least : 2 ^ (-1022 : ℤ) ≤ bound) :
    spacing value ≤ bound / 2 ^ 52 := by
  rw [spacing, zpow_sub₀ two_ne_zero]
  apply div_le_div_of_nonneg_right _ (by positivity)
  rcases max_choice (Int.log 2 |value|) (-1022) with large | small
  · rw [large, abs_of_pos positive]
    exact (Int.zpow_log_le_self one_lt_two positive).trans below
  · rw [small]
    exact least

/-- Rounding adds at most half the distance. -/
theorem toDouble_le (nonneg : 0 ≤ value) (below : value ≤ bound) (least : 2 ^ (-1022 : ℤ) ≤ bound) :
    toDouble value ≤ value + bound / 2 ^ 53 := by
  rcases nonneg.eq_or_lt with rfl | positive
  · rw [toDouble_zero]
    positivity
  · have apart := spacing_pos value
    calc toDouble value ≤ (value / spacing value + 1 / 2) * spacing value :=
          mul_le_mul_of_nonneg_right (nearestEven_le _) apart.le
      _ = value + spacing value / 2 := by
        rw [add_mul, div_mul_cancel₀ _ apart.ne']
        ring
      _ ≤ value + bound / 2 ^ 53 := by linarith [spacing_le positive below least]

theorem le_nearestEven (value : ℚ) : value - 1 / 2 ≤ nearestEven value := by
  have above := Int.lt_floor_add_one value
  unfold nearestEven
  dsimp only
  split
  · next near =>
    have half : value - ⌊value⌋ ≤ 1 / 2 := near.elim (·.le) (·.1.le)
    linarith
  · push_cast
    linarith

/-- Rounding takes away at most half the distance. -/
theorem le_toDouble (nonneg : 0 ≤ value) (below : value ≤ bound) (least : 2 ^ (-1022 : ℤ) ≤ bound) :
    value - bound / 2 ^ 53 ≤ toDouble value := by
  rcases nonneg.eq_or_lt with rfl | positive
  · rw [toDouble_zero]
    have large : 0 ≤ bound := below
    have share : 0 ≤ bound / 2 ^ 53 := by positivity
    linarith
  · have apart := spacing_pos value
    calc value - bound / 2 ^ 53 ≤ value - spacing value / 2 := by linarith [spacing_le positive below least]
      _ = (value / spacing value - 1 / 2) * spacing value := by
        rw [sub_mul, div_mul_cancel₀ _ apart.ne']
        ring
      _ ≤ toDouble value := mul_le_mul_of_nonneg_right (le_nearestEven _) apart.le

/-- Numbers up to one stay apart where they are further apart than the distance of doubles. -/
theorem toDouble_lt_toDouble {other : ℚ} (nonneg : 0 ≤ value) (most : other ≤ 1) (apart : value + 1 / 2 ^ 52 < other) :
    toDouble value < toDouble other := by
  have least : (2 : ℚ) ^ (-1022 : ℤ) ≤ 1 := zpow_le_one_of_nonpos₀ one_le_two (by decide)
  have low := toDouble_le nonneg (show value ≤ 1 by linarith) least
  have high := le_toDouble (show 0 ≤ other by linarith) most least
  linarith

/-- Ratios of numbers that are not too large compare as doubles as they do exactly. -/
theorem toDouble_ratio_lt_iff {part whole share total : ℕ} (some_whole : 0 < whole) (some_total : 0 < total)
    (inside : part ≤ whole) (inside' : share ≤ total) (small : whole * total < 2 ^ 52) :
    toDouble (part / whole) < toDouble (share / total) ↔ part * total < share * whole := by
  have whole_pos : (0 : ℚ) < whole := by exact_mod_cast some_whole
  have total_pos : (0 : ℚ) < total := by exact_mod_cast some_total
  have small' : (whole * total : ℚ) < 2 ^ 52 := by exact_mod_cast small
  have far {a b c d : ℕ} (below : a * d + 1 ≤ c * b) (b_pos : (0 : ℚ) < b) (d_pos : (0 : ℚ) < d)
      (small : (b * d : ℚ) < 2 ^ 52) : (a / b : ℚ) + 1 / 2 ^ 52 < c / d := by
    have below' : (a * d + 1 : ℚ) ≤ c * b := by exact_mod_cast below
    have step : (1 : ℚ) / 2 ^ 52 < 1 / (b * d) := one_div_lt_one_div_of_lt (mul_pos b_pos d_pos) small
    calc (a / b : ℚ) + 1 / 2 ^ 52 < a / b + 1 / (b * d) := by linarith
      _ = (a * d + 1) / (b * d) := by field_simp
      _ ≤ c * b / (b * d) := div_le_div_of_nonneg_right below' (mul_pos b_pos d_pos).le
      _ = c / d := by field_simp
  constructor
  · intro less
    by_contra more
    rcases (not_lt.mp more).eq_or_lt with same | greater
    · have same' : (share * whole : ℚ) = part * total := by exact_mod_cast same
      have equal : (part / whole : ℚ) = share / total := by
        rw [div_eq_div_iff whole_pos.ne' total_pos.ne']
        exact same'.symm
      exact absurd less (by rw [equal]; exact lt_irrefl _)
    · have most : (part / whole : ℚ) ≤ 1 := div_le_one_of_le₀ (by exact_mod_cast inside) whole_pos.le
      have apart := far greater total_pos whole_pos (by rwa [mul_comm])
      exact absurd less (toDouble_lt_toDouble (by positivity) most apart).not_gt
  · intro less
    have most : (share / total : ℚ) ≤ 1 := div_le_one_of_le₀ (by exact_mod_cast inside') total_pos.le
    exact toDouble_lt_toDouble (by positivity) most (far less whole_pos total_pos small')

/-! ## Numbers that are doubles, and the order -/

theorem nearestEven_intCast (value : ℤ) : nearestEven value = value := by simp [nearestEven]

theorem nearestEven_mono {other : ℚ} (below : value ≤ other) : nearestEven value ≤ nearestEven other := by
  rcases (Int.floor_mono below).eq_or_lt with same | less
  · unfold nearestEven
    rw [← same]
    dsimp only
    split
    · split
      · exact le_refl _
      · exact Int.le_of_lt (Int.lt_succ _)
    · next far =>
      rw [if_neg]
      rintro (near | ⟨half, even⟩)
      · exact far (.inl (by linarith))
      · rcases (sub_le_sub_right below (⌊value⌋ : ℚ)).eq_or_lt with tie | nearer
        · exact far (.inr ⟨tie.trans half, even⟩)
        · exact far (.inl (by linarith))
  · have first : nearestEven value ≤ ⌊value⌋ + 1 := by
      unfold nearestEven
      dsimp only
      split
      · exact Int.le_of_lt (Int.lt_succ _)
      · exact le_refl _
    have second : ⌊other⌋ ≤ nearestEven other := by
      unfold nearestEven
      dsimp only
      split
      · exact le_refl _
      · exact Int.le_of_lt (Int.lt_succ _)
    omega

/-- A multiple of the distance around it is a double. -/
theorem toDouble_of_multiple {count : ℤ} (multiple : value = count * spacing value) : toDouble value = value := by
  have quotient : value / spacing value = count := by
    rw [div_eq_iff (spacing_pos value).ne']
    exact multiple
  rw [toDouble, quotient, nearestEven_intCast, ← multiple]

theorem toDouble_intCast {value : ℤ} (small : |value| < 2 ^ 53) : toDouble value = value := by
  have exponent : max (Int.log 2 |(value : ℚ)|) (-1022) - 52 ≤ 0 := by
    rw [Int.abs_eq_natAbs] at small
    rw [← Int.cast_abs, Int.abs_eq_natAbs, Int.cast_natCast, Int.log_natCast]
    have log : Nat.log 2 value.natAbs < 53 := by
      by_cases zero : value.natAbs = 0
      · rw [zero, Nat.log_zero_right]
        decide
      · exact Nat.log_lt_of_lt_pow zero (by omega)
    omega
  obtain ⟨places, same⟩ := Int.eq_ofNat_of_zero_le (Int.neg_nonneg_of_nonpos exponent)
  apply @toDouble_of_multiple _ (value * 2 ^ places)
  have power : spacing value = (2 ^ places)⁻¹ := by
    rw [spacing, ← neg_neg (max (Int.log 2 |(value : ℚ)|) (-1022) - 52), same, zpow_neg, zpow_natCast]
  rw [power]
  push_cast
  rw [mul_assoc, mul_inv_cancel₀ (by positivity), mul_one]

theorem toDouble_natCast {value : ℕ} (small : value < 2 ^ 53) : toDouble value = value := by
  exact_mod_cast @toDouble_intCast value (by rw [Nat.abs_cast]; exact_mod_cast small)

/-- Numbers in a binade are rounded inside of it, its end included. -/
theorem toDouble_binade (positive : 0 < value) : toDouble value ≤ 2 ^ (max (Int.log 2 value) (-1022) + 1) ∧
    (-1022 ≤ Int.log 2 value → 2 ^ Int.log 2 value ≤ toDouble value) := by
  obtain ⟨exponent, given⟩ : ∃ exponent, max (Int.log 2 value) (-1022) = exponent := ⟨_, rfl⟩
  have apart : spacing value = 2 ^ (exponent - 52) := by rw [spacing, abs_of_pos positive, given]
  have unit : (0 : ℚ) < 2 ^ (exponent - 52) := zpow_pos two_pos _
  have scaled (bits : ℕ) : ((2 ^ bits : ℤ) : ℚ) * 2 ^ (exponent - 52) = 2 ^ (exponent - 52 + bits) := by
    rw [zpow_add₀ two_ne_zero, zpow_natCast, mul_comm]
    push_cast
    rfl
  rw [toDouble, apart, given]
  constructor
  · have above : value < 2 ^ (exponent + 1) :=
      (Int.lt_zpow_succ_log_self one_lt_two value).trans_le
        (zpow_le_zpow_right₀ one_le_two (by have := le_max_left (Int.log 2 value) (-1022); omega))
    have quotient : value / 2 ^ (exponent - 52) ≤ ((2 ^ 53 : ℤ) : ℚ) := by
      rw [div_le_iff₀ unit, scaled]
      exact above.le.trans_eq (by congr 1; push_cast; ring)
    have rounded := (nearestEven_mono quotient).trans_eq (nearestEven_intCast _)
    calc (nearestEven (value / 2 ^ (exponent - 52)) : ℚ) * 2 ^ (exponent - 52)
        ≤ ((2 ^ 53 : ℤ) : ℚ) * 2 ^ (exponent - 52) := mul_le_mul_of_nonneg_right (by exact_mod_cast rounded) unit.le
      _ = 2 ^ (exponent + 1) := by
        rw [scaled]
        congr 1
        push_cast
        ring
  · intro normal
    rw [max_eq_left normal] at given
    have quotient : ((2 ^ 52 : ℤ) : ℚ) ≤ value / 2 ^ (exponent - 52) := by
      rw [le_div_iff₀ unit, scaled]
      have below := Int.zpow_log_le_self (b := 2) one_lt_two positive
      rw [given] at below
      exact le_trans (le_of_eq (by congr 1; push_cast; ring)) below
    have rounded := (nearestEven_intCast _).symm.trans_le (nearestEven_mono quotient)
    calc (2 : ℚ) ^ Int.log 2 value = ((2 ^ 52 : ℤ) : ℚ) * 2 ^ (exponent - 52) := by
          rw [scaled, given]
          congr 1
          push_cast
          ring
      _ ≤ _ := mul_le_mul_of_nonneg_right (by exact_mod_cast rounded) unit.le

/-- Rounding keeps the order. -/
theorem toDouble_mono {other : ℚ} (nonneg : 0 ≤ value) (below : value ≤ other) : toDouble value ≤ toDouble other := by
  rcases nonneg.eq_or_lt with rfl | positive
  · rw [toDouble_zero]
    exact toDouble_nonneg below
  have positive' := positive.trans_le below
  have logs := Int.log_mono_right (b := 2) positive below
  rcases (max_le_max_right (-1022) logs).eq_or_lt with same | less
  · have apart : spacing value = spacing other := by
      rw [spacing, spacing, abs_of_pos positive, abs_of_pos positive', same]
    rw [toDouble, toDouble, ← apart]
    apply mul_le_mul_of_nonneg_right _ (spacing_pos value).le
    exact_mod_cast nearestEven_mono (div_le_div_of_nonneg_right below (spacing_pos value).le)
  · have normal : -1022 ≤ Int.log 2 other := by
      by_contra small
      have most := le_max_right (Int.log 2 value) (-1022)
      omega
    rw [max_eq_left normal] at less
    calc toDouble value ≤ 2 ^ (max (Int.log 2 value) (-1022) + 1) := (toDouble_binade positive).1
      _ ≤ 2 ^ Int.log 2 other := zpow_le_zpow_right₀ one_le_two (by omega)
      _ ≤ toDouble other := (toDouble_binade positive').2 normal

theorem nearestEven_neg (value : ℚ) : nearestEven (-value) = -nearestEven value := by
  by_cases whole : value = ⌊value⌋
  · rw [whole, ← Int.cast_neg, nearestEven_intCast, nearestEven_intCast]
  have below := lt_of_le_of_ne (Int.floor_le value) (Ne.symm whole)
  have above := Int.lt_floor_add_one value
  have mirrored : ⌊-value⌋ = -⌊value⌋ - 1 := by
    rw [Int.floor_eq_iff]
    push_cast
    constructor <;> linarith
  unfold nearestEven
  rw [mirrored]
  clear mirrored
  generalize ⌊value⌋ = lower at *
  push_cast
  rcases lt_trichotomy (value - lower) (1 / 2) with near | tie | far
  · rw [if_neg, if_pos (.inl near)]
    · omega
    · rintro (nearer | ⟨tie, -⟩) <;> linarith
  · by_cases even : lower % 2 = 0
    · rw [if_neg, if_pos (.inr ⟨tie, even⟩)]
      · omega
      · rintro (nearer | ⟨-, other⟩)
        · linarith
        · omega
    · rw [if_pos, if_neg]
      · omega
      · rintro (nearer | ⟨-, other⟩)
        · linarith
        · exact even other
      · exact .inr ⟨by linarith, by omega⟩
  · rw [if_pos (.inl (by linarith)), if_neg]
    · omega
    · rintro (nearer | ⟨tie, -⟩) <;> linarith

theorem toDouble_neg (value : ℚ) : toDouble (-value) = -toDouble value := by
  rw [toDouble, toDouble, spacing, spacing, abs_neg, neg_div, nearestEven_neg, Int.cast_neg, neg_mul]

/-- Rounding keeps to whole numbers above and below. -/
theorem toDouble_le_natCast {most : ℕ} (small : most < 2 ^ 53) (below : value ≤ most) : toDouble value ≤ most := by
  rcases le_total 0 value with nonneg | negative
  · exact (toDouble_mono nonneg below).trans_eq (toDouble_natCast small)
  · have opposite := toDouble_nonneg (neg_nonneg.mpr negative)
    rw [toDouble_neg, neg_nonneg] at opposite
    exact opposite.trans (Nat.cast_nonneg most)

theorem natCast_le_toDouble {least : ℕ} (small : least < 2 ^ 53) (above : least ≤ value) : least ≤ toDouble value :=
  (toDouble_natCast small).symm.trans_le (toDouble_mono (Nat.cast_nonneg least) above)

theorem abs_toDouble (value : ℚ) : |toDouble value| = toDouble |value| := by
  rcases le_total 0 value with nonneg | negative
  · rw [abs_of_nonneg nonneg, abs_of_nonneg (toDouble_nonneg nonneg)]
  · have opposite := toDouble_nonneg (neg_nonneg.mpr negative)
    rw [toDouble_neg] at opposite
    rw [abs_of_nonpos negative, abs_of_nonpos (neg_nonneg.mp opposite), toDouble_neg]

/-- From the least double on, nothing is rounded to zero. -/
theorem toDouble_pos (least : 2 ^ (-1074 : ℤ) ≤ value) : 0 < toDouble value := by
  have positive : 0 < value := (zpow_pos two_pos _).trans_le least
  rcases le_or_gt (-1022) (Int.log 2 value) with normal | small
  · exact (zpow_pos two_pos _).trans_le ((toDouble_binade positive).2 normal)
  · have apart : spacing value = 2 ^ (-1074 : ℤ) := by
      rw [spacing, abs_of_pos positive, max_eq_right small.le]
      rfl
    have quotient : ((1 : ℤ) : ℚ) ≤ value / spacing value := by
      rw [le_div_iff₀ (spacing_pos value), apart, Int.cast_one, one_mul]
      exact least
    have rounded := (nearestEven_intCast 1).symm.trans_le (nearestEven_mono quotient)
    have some_units : (0 : ℚ) < nearestEven (value / spacing value) := by exact_mod_cast zero_lt_one.trans_le rounded
    exact mul_pos some_units (spacing_pos value)

theorem toDouble_lt_iff (nonneg : 0 ≤ value) : toDouble value < 2 ^ (1024 : ℤ) ↔ value < overflow := by
  obtain ⟨unit, given⟩ : ∃ unit : ℚ, 2 ^ (971 : ℤ) = unit := ⟨_, rfl⟩
  have positive_unit : 0 < unit := given ▸ zpow_pos two_pos _
  have scaled : (2 : ℚ) ^ (1024 : ℤ) = 2 ^ 53 * unit := by
    rw [← given, ← zpow_natCast, ← zpow_add₀ two_ne_zero]
    rfl
  have binade : (2 : ℚ) ^ (1023 : ℤ) = 2 ^ 52 * unit := by
    rw [← given, ← zpow_natCast, ← zpow_add₀ two_ne_zero]
    rfl
  have half : (2 : ℚ) ^ (970 : ℤ) = 1 / 2 * unit := by
    rw [← given, one_div, ← zpow_neg_one, ← zpow_add₀ two_ne_zero]
    rfl
  -- the distance in the last binade
  have last {number : ℚ} (positive : 0 < number) (log : Int.log 2 number = 1023) : spacing number = unit := by
    rw [spacing, abs_of_pos positive, log, ← given]
    rfl
  unfold overflow
  constructor
  · intro finite
    by_contra large
    rw [scaled, half, ← sub_mul] at large
    have positive : 0 < (2 ^ 53 - 1 / 2) * unit := mul_pos (by norm_num) positive_unit
    have edge : Int.log 2 ((2 ^ 53 - 1 / 2) * unit) = 1023 := by
      apply le_antisymm
      · apply Int.lt_add_one_iff.mp
        apply (Int.lt_zpow_iff_log_lt one_lt_two positive).mp
        exact (mul_lt_mul_of_pos_right (by norm_num) positive_unit).trans_eq scaled.symm
      · apply (Int.zpow_le_iff_le_log one_lt_two positive).mp
        exact binade.trans_le (mul_le_mul_of_nonneg_right (by norm_num) positive_unit.le)
    have rounded : toDouble ((2 ^ 53 - 1 / 2) * unit) = 2 ^ 53 * unit := by
      have even : nearestEven (2 ^ 53 - 1 / 2) = 2 ^ 53 := by
        have floor : ⌊(2 ^ 53 - 1 / 2 : ℚ)⌋ = 2 ^ 53 - 1 := by
          rw [Int.floor_eq_iff]
          norm_num
        unfold nearestEven
        rw [floor]
        norm_num
      rw [toDouble, last positive edge, mul_div_cancel_right₀ _ positive_unit.ne', even]
      norm_num
    have below := (toDouble_mono positive.le (not_lt.mp large)).trans_lt finite
    rw [rounded, scaled] at below
    exact lt_irrefl _ below
  · intro small
    rcases nonneg.eq_or_lt with rfl | positive
    · rw [toDouble_zero]
      exact zpow_pos two_pos _
    rcases lt_trichotomy (Int.log 2 value) 1023 with less | log | more
    · apply (toDouble_binade positive).1.trans_lt
      apply zpow_lt_zpow_right₀ one_lt_two
      omega
    · rw [toDouble, last positive log, scaled]
      apply mul_lt_mul_of_pos_right _ positive_unit
      rw [scaled, half, ← sub_mul, ← div_lt_iff₀ positive_unit] at small
      linarith [nearestEven_le (value / unit)]
    · exfalso
      have large := (Int.zpow_le_iff_le_log one_lt_two positive).mpr (show (1024 : ℤ) ≤ Int.log 2 value from more)
      have positive_share : (0 : ℚ) < 2 ^ (970 : ℤ) := zpow_pos two_pos _
      exact absurd (large.trans_lt small) (sub_lt_self _ positive_share).not_gt

/-- A number rounded to tenths is not above its bound. -/
theorem tenths_le {most : ℕ} (small : most ≤ 10000) (nonneg : 0 ≤ value) (below : value ≤ most) :
    ⌊toDouble (value * 10) + 1 / 2⌋₊ ≤ 10 * most := by
  have small' : (most : ℚ) ≤ 10000 := by exact_mod_cast small
  have least : (2 : ℚ) ^ (-1022 : ℤ) ≤ 1 := zpow_le_one_of_nonpos₀ one_le_two (by decide)
  have rounded := toDouble_le (show 0 ≤ value * 10 by linarith) (show value * 10 ≤ 100000 by linarith)
    (least.trans (by norm_num))
  apply Nat.lt_succ_iff.mp
  apply (Nat.floor_lt' (by omega)).mpr
  push_cast
  linarith

end

end OmniControlPlane.Lib
