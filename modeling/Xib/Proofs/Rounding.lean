import Mathlib.Algebra.Order.Field.Power
import Mathlib.Data.Nat.Log
import Mathlib.Tactic.FieldSimp
import Mathlib.Tactic.Linarith
import Mathlib.Tactic.Positivity
import Mathlib.Tactic.Ring
import Xib.Number.Binary

/-!
# When rounding overflows

Every operation on binary values is a quotient of naturals that is rounded once. Main statement: the
result is finite exactly if the quotient is below the midpoint between the greatest finite value and
the power of two above it, and then mantissa and exponent are in their ranges
(`isFinite_ofRatio_iff`, `ofRatio_fits`). What an operation makes of finite values is then a matter
of comparing quotients.
-/

namespace Xib.Number

set_option autoImplicit false

section Nearest

variable {numerator denominator bound : Nat} {tie : Tie}

/-- Rounding adds at most one to the quotient, and that exactly if more than a half remains, or a
half that the tie does not leave. -/
theorem nearest_eq (numerator denominator : Nat) (tie : Tie) :
    nearest numerator denominator tie = numerator / denominator +
      if denominator < 2 * (numerator % denominator) ∨ denominator = 2 * (numerator % denominator) ∧
        (tie = .away ∨ numerator / denominator % 2 = 1) then 1 else 0 := by
  unfold nearest
  simp only
  split
  · rename_i less
    rw [Nat.compare_eq_lt] at less
    rw [if_neg (by omega), Nat.add_zero]
  · rename_i more
    rw [Nat.compare_eq_gt] at more
    rw [if_pos (.inl more)]
  · rename_i half
    rw [Nat.compare_eq_eq] at half
    rw [if_pos (.inr ⟨half.symm, .inl rfl⟩)]
  · rename_i half
    rw [Nat.compare_eq_eq] at half
    by_cases even : numerator / denominator % 2 = 0
    · rw [if_pos even, if_neg (by simp [half, even]), Nat.add_zero]
    · rw [if_neg even, if_pos (.inr ⟨half.symm, .inr (by omega)⟩)]

theorem nearest_le (positive : 0 < denominator)
    (below : 2 * numerator < (2 * bound + 1) * denominator) :
    nearest numerator denominator tie ≤ bound := by
  have split := Nat.div_add_mod numerator denominator
  rw [nearest_eq]
  generalize numerator / denominator = quotient at *
  generalize numerator % denominator = remainder at *
  have low : quotient ≤ bound := by
    by_contra high
    have product : denominator * (bound + 1) ≤ denominator * quotient :=
      Nat.mul_le_mul_left denominator (Nat.lt_of_not_le high)
    nlinarith
  split_ifs with rounded
  · -- A remainder of a half or more leaves room for one more.
    have strict : quotient ≠ bound := by
      rintro rfl
      have half : denominator ≤ 2 * remainder := by omega
      nlinarith
    omega
  · exact low

theorem lt_nearest (positive : 0 < denominator) (breaks : tie = .away ∨ bound % 2 = 1)
    (above : (2 * bound + 1) * denominator ≤ 2 * numerator) :
    bound < nearest numerator denominator tie := by
  have split := Nat.div_add_mod numerator denominator
  have small := Nat.mod_lt numerator positive
  rw [nearest_eq]
  generalize numerator / denominator = quotient at *
  generalize numerator % denominator = remainder at *
  have high : bound ≤ quotient := by
    by_contra low
    have product : denominator * (quotient + 1) ≤ denominator * bound :=
      Nat.mul_le_mul_left denominator (Nat.lt_of_not_le low)
    nlinarith
  rcases Nat.eq_or_lt_of_le high with rfl | more
  · have half : denominator ≤ 2 * remainder := by nlinarith
    rw [if_pos (by rcases Nat.eq_or_lt_of_le half with same | less <;> tauto)]
    omega
  · omega

theorem nearest_le_self (positive : 0 < denominator) :
    nearest numerator denominator tie ≤ numerator := by
  apply nearest_le positive
  nlinarith

end Nearest

namespace Binary

def magnitude : Binary → ℚ
  | .finite _ mantissa exponent => mantissa * 2 ^ exponent
  | .infinite _ | .undefined => 0

/-- The midpoint between the greatest finite value and the power of two above it. It is rounded up,
to the even mantissa. -/
def overflowBound : ℚ :=
  (2 ^ 54 - 1) * 2 ^ (970 : ℤ)

def Fits : Binary → Prop
  | .finite _ mantissa exponent => mantissa < 2 ^ 53 ∧ -1074 ≤ exponent ∧ exponent ≤ 971
  | .infinite _ | .undefined => True

/-- A power is a quotient of two natural powers, one of which is one. -/
theorem zpow_eq_div (base : ℚ) (exponent : ℤ) :
    base ^ exponent = base ^ exponent.toNat / base ^ (-exponent).toNat := by
  rcases le_total 0 exponent with positive | negative
  · have none : (-exponent).toNat = 0 := by omega
    rw [none, pow_zero, div_one, ← zpow_natCast, Int.toNat_of_nonneg positive]
  · have none : exponent.toNat = 0 := by omega
    rw [none, pow_zero, ← zpow_natCast, Int.toNat_of_nonneg (by omega), one_div, ← zpow_neg,
      neg_neg]

theorem two_zpow_pos (exponent : ℤ) : (0 : ℚ) < 2 ^ exponent :=
  zpow_pos (by norm_num) exponent

theorem two_zpow_le {low high : ℤ} (ordered : low ≤ high) : (2 : ℚ) ^ low ≤ 2 ^ high :=
  zpow_le_zpow_right₀ (by norm_num) ordered

theorem two_pow_pos (power : Nat) : 0 < Nat.pow 2 power :=
  Nat.pow_pos (by decide)

theorem scaled_ratio (numerator denominator : Nat) (exponent : ℤ) :
    ((numerator * Nat.pow 2 (-exponent).toNat : Nat) : ℚ) /
        ((denominator * Nat.pow 2 exponent.toNat : Nat) : ℚ) =
      numerator / denominator / 2 ^ exponent := by
  rw [zpow_eq_div]
  push_cast [Nat.pow_eq]
  field_simp

section Exponent

variable {numerator denominator : Nat}

theorem scaled_pos (positive : 0 < denominator) (exponent : ℤ) :
    0 < denominator * Nat.pow 2 exponent.toNat :=
  Nat.mul_pos positive (two_pow_pos _)

theorem scaled_lt_iff (positive : 0 < denominator) (exponent : ℤ) (bits : Nat) :
    numerator * Nat.pow 2 (-exponent).toNat < denominator * Nat.pow 2 exponent.toNat *
        Nat.pow 2 bits ↔
      (numerator : ℚ) / denominator < 2 ^ (exponent + bits) := by
  have scaledPositive : (0 : ℚ) < ((denominator * Nat.pow 2 exponent.toNat : Nat) : ℚ) :=
    Nat.cast_pos.mpr (scaled_pos positive exponent)
  rw [zpow_add₀ (by norm_num), ← div_lt_iff₀' (two_zpow_pos exponent), ← scaled_ratio,
    div_lt_iff₀' scaledPositive, zpow_natCast]
  norm_cast

/-- The numbers of bits decide a quotient up to a factor of two. -/
theorem ratio_lt_log (positive : 0 < denominator) :
    (numerator : ℚ) / denominator < 2 ^ ((numerator.log2 : ℤ) - denominator.log2 + 1) := by
  have above : (numerator : ℚ) < 2 ^ (numerator.log2 + 1) := by
    exact_mod_cast Nat.lt_log2_self
  have below : (2 : ℚ) ^ denominator.log2 ≤ denominator := by
    exact_mod_cast Nat.log2_self_le positive.ne'
  have powers : (numerator.log2 : ℤ) - denominator.log2 + 1 =
      ((numerator.log2 + 1 : Nat) : ℤ) - (denominator.log2 : Nat) := by
    omega
  rw [powers, zpow_sub₀ (by norm_num), zpow_natCast, zpow_natCast]
  exact div_lt_div₀ above below (by positivity) (by positivity)

theorem log_lt_ratio (nonzero : 0 < numerator) (positive : 0 < denominator) :
    (2 : ℚ) ^ ((numerator.log2 : ℤ) - denominator.log2 - 1) < numerator / denominator := by
  have below : (2 : ℚ) ^ numerator.log2 ≤ numerator := by
    exact_mod_cast Nat.log2_self_le nonzero.ne'
  have above : (denominator : ℚ) < 2 ^ (denominator.log2 + 1) := by
    exact_mod_cast Nat.lt_log2_self
  have powers : (numerator.log2 : ℤ) - denominator.log2 - 1 =
      (numerator.log2 : Nat) - ((denominator.log2 + 1 : Nat) : ℤ) := by
    omega
  have positiveQ : (0 : ℚ) < denominator := by exact_mod_cast positive
  rw [powers, zpow_sub₀ (by norm_num), zpow_natCast, zpow_natCast]
  exact div_lt_div₀' below above (by positivity) positiveQ

/-- Before it is raised to the least one, the exponent gives a quotient 53 bits. -/
theorem exists_exponentOf_eq_max (nonzero : 0 < numerator) (positive : 0 < denominator) :
    ∃ exponent : ℤ, exponentOf numerator denominator = max exponent (-1074) ∧
      2 ^ (exponent + 52) ≤ (numerator : ℚ) / denominator ∧
      (numerator : ℚ) / denominator < 2 ^ (exponent + 53) := by
  have above : (numerator : ℚ) / denominator < _ := ratio_lt_log positive
  have below := log_lt_ratio nonzero positive
  simp only [exponentOf]
  generalize guessed : (numerator.log2 : ℤ) - denominator.log2 - 52 = guess
  have test : _ ↔ (numerator : ℚ) / denominator < _ := scaled_lt_iff positive guess 52
  split_ifs with less
  · refine ⟨guess - 1, rfl, ?_, ?_⟩
    · refine le_trans (two_zpow_le ?_) below.le
      omega
    · refine lt_of_lt_of_le (test.mp less) (two_zpow_le ?_)
      omega
  · refine ⟨guess, rfl, ?_, ?_⟩
    · exact le_of_not_gt fun more => less (test.mpr more)
    · refine lt_of_lt_of_le above (two_zpow_le ?_)
      omega

/-- The exponent of a quotient gives its mantissa 53 bits, or it is the least one and the mantissa
may have fewer. -/
theorem exponentOf_bounds (nonzero : 0 < numerator) (positive : 0 < denominator) :
    -1074 ≤ exponentOf numerator denominator ∧
      (numerator : ℚ) / denominator < 2 ^ (exponentOf numerator denominator + 53) ∧
      (-1074 < exponentOf numerator denominator →
        2 ^ (exponentOf numerator denominator + 52) ≤ (numerator : ℚ) / denominator) := by
  obtain ⟨exponent, same, low, high⟩ := exists_exponentOf_eq_max nonzero positive
  rw [same]
  refine ⟨le_max_right _ _, lt_of_lt_of_le high (two_zpow_le ?_), fun more => ?_⟩
  · have larger := le_max_left exponent (-1074)
    omega
  · rw [max_eq_left (by omega)]
    exact low

end Exponent

section Ratio

variable {negative : Bool} {numerator denominator : Nat}

theorem normalize_fits {mantissa : Nat} {exponent : ℤ} (small : mantissa ≤ 2 ^ 53)
    (least : -1074 ≤ exponent) : (normalize negative mantissa exponent).Fits := by
  unfold normalize
  by_cases carried : mantissa = Nat.pow 2 53
  · simp only [carried, if_true]
    split_ifs with beyond
    · exact trivial
    · exact ⟨by decide, by omega, by omega⟩
  · simp only [carried, if_false]
    split_ifs with beyond
    · exact trivial
    · exact ⟨lt_of_le_of_ne small carried, least, by omega⟩

theorem normalize_eq_infinite {mantissa : Nat} {exponent : ℤ}
    (beyond : (normalize negative mantissa exponent).isFinite = false) :
    normalize negative mantissa exponent = .infinite negative := by
  unfold normalize at *
  generalize (if mantissa = Nat.pow 2 53 then (Nat.pow 2 52, exponent + 1)
    else (mantissa, exponent)) = parts at *
  simp only at *
  split_ifs at * with high
  · rfl
  · cases beyond

theorem isFinite_normalize_iff {mantissa : Nat} {exponent : ℤ} :
    (normalize negative mantissa exponent).isFinite = true ↔
      exponent ≤ 970 ∨ exponent = 971 ∧ mantissa ≠ 2 ^ 53 := by
  unfold normalize
  by_cases carried : mantissa = Nat.pow 2 53
  · simp only [carried, if_true, ne_eq, Nat.pow_eq, not_true, and_false, or_false]
    split_ifs with beyond
    · simp only [isFinite, Bool.false_eq_true, false_iff]
      omega
    · simp only [isFinite, true_iff]
      omega
  · have different : mantissa ≠ 2 ^ 53 := carried
    simp only [carried, if_false, different, ne_eq, not_false_iff, and_true]
    split_ifs with beyond
    · simp only [isFinite, Bool.false_eq_true, false_iff]
      omega
    · simp only [isFinite, true_iff]
      omega

/-- Rounding at the exponent of a quotient gives a mantissa of 53 bits, or carries to the next power
of two. -/
theorem nearest_exponentOf_le (nonzero : 0 < numerator) (positive : 0 < denominator) :
    nearest (numerator * Nat.pow 2 (-exponentOf numerator denominator).toNat)
      (denominator * Nat.pow 2 (exponentOf numerator denominator).toNat) .even ≤ 2 ^ 53 := by
  have below := (scaled_lt_iff positive (exponentOf numerator denominator) 53).mpr
    (exponentOf_bounds nonzero positive).2.1
  apply nearest_le (scaled_pos positive _)
  have bits : Nat.pow 2 53 = 2 ^ 53 := rfl
  rw [bits] at below
  generalize numerator * Nat.pow 2 (-exponentOf numerator denominator).toNat = left at *
  generalize denominator * Nat.pow 2 (exponentOf numerator denominator).toNat = right at *
  omega

theorem ofRatio_fits (positive : 0 < denominator) :
    (ofRatio negative numerator denominator).Fits := by
  unfold ofRatio
  split_ifs with zero
  · exact ⟨by decide, by decide, by decide⟩
  · have nonzero := Nat.pos_of_ne_zero zero
    exact normalize_fits (nearest_exponentOf_le nonzero positive)
      (exponentOf_bounds nonzero positive).1

theorem ofRatio_eq_infinite (beyond : (ofRatio negative numerator denominator).isFinite = false) :
    ofRatio negative numerator denominator = .infinite negative := by
  unfold ofRatio at *
  split_ifs at * with zero
  · cases beyond
  · exact normalize_eq_infinite beyond

theorem scaled_lt_midpoint_iff (positive : 0 < denominator) (exponent : ℤ) (bound : Nat) :
    2 * (numerator * Nat.pow 2 (-exponent).toNat) <
        (2 * bound + 1) * (denominator * Nat.pow 2 exponent.toNat) ↔
      (numerator : ℚ) / denominator < (2 * bound + 1) * 2 ^ (exponent - 1) := by
  have scaledPositive : (0 : ℚ) < ((denominator * Nat.pow 2 exponent.toNat : Nat) : ℚ) :=
    Nat.cast_pos.mpr (scaled_pos positive exponent)
  have halved : (2 * bound + 1) * (2 : ℚ) ^ (exponent - 1) =
      (2 * bound + 1) / 2 * 2 ^ exponent := by
    rw [zpow_sub_one₀ (by norm_num)]
    ring
  rw [halved, ← div_lt_iff₀ (two_zpow_pos exponent), ← scaled_ratio, div_lt_iff₀ scaledPositive,
    div_mul_eq_mul_div, lt_div_iff₀' (by norm_num)]
  norm_cast

/-- Below an odd mantissa the midpoint above it is the bound: a tie carries. -/
theorem nearest_scaled_le_iff (positive : 0 < denominator) (exponent : ℤ) {bound : Nat}
    (odd : bound % 2 = 1) :
    nearest (numerator * Nat.pow 2 (-exponent).toNat)
        (denominator * Nat.pow 2 exponent.toNat) .even ≤ bound ↔
      (numerator : ℚ) / denominator < (2 * bound + 1) * 2 ^ (exponent - 1) := by
  have scaledPositive := scaled_pos positive exponent
  rw [← scaled_lt_midpoint_iff positive]
  constructor
  · intro kept
    by_contra above
    exact absurd kept (lt_nearest scaledPositive (.inr odd) (not_lt.mp above)).not_ge
  · exact nearest_le scaledPositive

theorem overflowBound_eq : overflowBound = (2 * (2 ^ 53 - 1 : Nat) + 1) * 2 ^ ((971 : ℤ) - 1) := by
  rw [overflowBound]
  norm_num

theorem le_overflowBound : 2 ^ (1023 : ℤ) ≤ overflowBound := by
  have power : (2 : ℚ) ^ (1023 : ℤ) = 2 ^ 53 * 2 ^ (970 : ℤ) := by
    rw [← zpow_natCast, ← zpow_add₀ (by norm_num)]
    norm_num
  rw [power, overflowBound]
  exact mul_le_mul_of_nonneg_right (by norm_num) (two_zpow_pos 970).le

theorem overflowBound_le : overflowBound ≤ 2 ^ (1024 : ℤ) := by
  have power : (2 : ℚ) ^ (1024 : ℤ) = 2 ^ 54 * 2 ^ (970 : ℤ) := by
    rw [← zpow_natCast, ← zpow_add₀ (by norm_num)]
    norm_num
  rw [power, overflowBound]
  exact mul_le_mul_of_nonneg_right (by norm_num) (two_zpow_pos 970).le

theorem overflowBound_pos : 0 < overflowBound :=
  lt_of_lt_of_le (two_zpow_pos 1023) le_overflowBound

/-- Rounding a quotient overflows exactly from the midpoint on. -/
theorem isFinite_ofRatio_iff (positive : 0 < denominator) :
    (ofRatio negative numerator denominator).isFinite = true ↔
      (numerator : ℚ) / denominator < overflowBound := by
  unfold ofRatio
  split_ifs with zero
  · have bounded : (numerator : ℚ) / denominator < overflowBound := by
      rw [zero, Nat.cast_zero, zero_div]
      exact overflowBound_pos
    simp only [bounded, iff_true]
    rfl
  · have nonzero := Nat.pos_of_ne_zero zero
    obtain ⟨_, below, above⟩ := exponentOf_bounds nonzero positive
    have small := nearest_exponentOf_le nonzero positive
    simp only [isFinite_normalize_iff]
    generalize exponentOf numerator denominator = exponent at *
    rcases lt_trichotomy exponent 971 with less | greatest | more
    · have bounded : (numerator : ℚ) / denominator < overflowBound :=
        lt_of_lt_of_le below (le_trans (two_zpow_le (by omega)) le_overflowBound)
      simp only [bounded, iff_true]
      omega
    · rw [overflowBound_eq, ← greatest, ← nearest_scaled_le_iff positive exponent (by decide)]
      omega
    · have beyond : ¬(numerator : ℚ) / denominator < overflowBound :=
        not_lt.mpr (le_trans (le_trans overflowBound_le (two_zpow_le (by omega)))
          (above (by omega)))
      simp only [beyond, iff_false]
      omega

end Ratio

section Operations

variable {value left right : Binary}

theorem isFinite_scale_iff (factor : Nat) (finite : value.isFinite = true) :
    (value.scale factor).isFinite = true ↔ factor * value.magnitude < overflowBound := by
  cases value with
  | finite negative mantissa exponent =>
      have product : (factor : ℚ) * (mantissa * 2 ^ exponent) =
          ((mantissa * factor * Nat.pow 2 exponent.toNat : Nat) : ℚ) /
            (Nat.pow 2 (-exponent).toNat : Nat) := by
        rw [zpow_eq_div]
        push_cast [Nat.pow_eq]
        ring
      rw [scale, magnitude, isFinite_ofRatio_iff (two_pow_pos _), product]
  | infinite negative => cases finite
  | undefined => cases finite

/-- Rounding to an integer and dividing start from no more than the greatest finite value. -/
theorem mantissa_lt_overflowBound {mantissa : Nat} {exponent : ℤ} (small : mantissa < 2 ^ 53)
    (most : exponent ≤ 971) :
    ((mantissa * Nat.pow 2 exponent.toNat : Nat) : ℚ) < overflowBound := by
  have power : ((Nat.pow 2 exponent.toNat : Nat) : ℚ) ≤ 2 * 2 ^ (970 : ℤ) := by
    have raised : (2 : ℚ) ^ (exponent.toNat : ℤ) ≤ 2 ^ (1 + 970 : ℤ) := two_zpow_le (by omega)
    rw [zpow_one_add₀ (by norm_num), zpow_natCast] at raised
    exact_mod_cast raised
  have digits : (mantissa : ℚ) ≤ 2 ^ 53 - 1 := by
    have less : ((mantissa + 1 : Nat) : ℚ) ≤ (2 ^ 53 : Nat) := Nat.cast_le.mpr small
    push_cast at less
    linarith
  have positive := two_zpow_pos 970
  calc ((mantissa * Nat.pow 2 exponent.toNat : Nat) : ℚ)
      = mantissa * (Nat.pow 2 exponent.toNat : Nat) := Nat.cast_mul _ _
    _ ≤ (2 ^ 53 - 1) * (2 * 2 ^ (970 : ℤ)) :=
        mul_le_mul digits power (Nat.cast_nonneg _) (by norm_num)
    _ < overflowBound := by
        rw [overflowBound, ← mul_assoc]
        exact mul_lt_mul_of_pos_right (by norm_num) positive

theorem isFinite_round (fits : value.Fits) : value.round.isFinite = value.isFinite := by
  cases value with
  | finite negative mantissa exponent =>
      obtain ⟨small, -, most⟩ := fits
      rw [round, isFinite, isFinite_ofRatio_iff one_pos, Nat.cast_one, div_one]
      refine lt_of_le_of_lt ?_ (mantissa_lt_overflowBound small most)
      exact Nat.cast_le.mpr (nearest_le_self (two_pow_pos _))
  | infinite negative => rfl
  | undefined => rfl

theorem isFinite_unscale {divisor : Nat} (positive : 0 < divisor) (fits : value.Fits) :
    (value.unscale divisor).isFinite = value.isFinite := by
  cases value with
  | finite negative mantissa exponent =>
      obtain ⟨small, -, most⟩ := fits
      have denominator : 0 < divisor * Nat.pow 2 (-exponent).toNat :=
        Nat.mul_pos positive (two_pow_pos _)
      rw [unscale, isFinite, isFinite_ofRatio_iff denominator]
      refine lt_of_le_of_lt ?_ (mantissa_lt_overflowBound small most)
      exact div_le_self (by positivity) (by exact_mod_cast denominator)
  | infinite negative => rfl
  | undefined => rfl

theorem isFinite_divide_iff (dividend : left.isFinite = true) (divisor : right.isFinite = true)
    (nonzero : right.isZero = false) :
    (left.divide right).isFinite = true ↔ left.magnitude / right.magnitude < overflowBound := by
  match left, right with
  | .finite negative mantissa exponent, .finite negative' mantissa' exponent' =>
      have positive : 0 < mantissa' * Nat.pow 2 (exponent' - exponent).toNat := by
        refine Nat.mul_pos (Nat.pos_of_ne_zero ?_) (two_pow_pos _)
        simpa [isZero] using nonzero
      have quotient : (mantissa : ℚ) * 2 ^ exponent / (mantissa' * 2 ^ exponent') =
          ((mantissa * Nat.pow 2 (exponent - exponent').toNat : Nat) : ℚ) /
            ((mantissa' * Nat.pow 2 (exponent' - exponent).toNat : Nat) : ℚ) := by
        have difference := zpow_eq_div 2 (exponent - exponent')
        rw [zpow_sub₀ (by norm_num), neg_sub] at difference
        push_cast [Nat.pow_eq]
        rw [mul_div_mul_comm, mul_div_mul_comm, difference]
      rw [divide, magnitude, magnitude, isFinite_ofRatio_iff positive, quotient]
  | .infinite _, _ => cases dividend
  | .undefined, _ => cases dividend
  | .finite .., .infinite _ => cases divisor
  | .finite .., .undefined => cases divisor

/-- Zero keeps its sign, and so does what is infinite. -/
def isNegative : Binary → Bool
  | .finite negative _ _ | .infinite negative => negative
  | .undefined => false

theorem scale_eq_infinite {factor : Nat} (finite : value.isFinite = true)
    (beyond : (value.scale factor).isFinite = false) :
    value.scale factor = .infinite value.isNegative := by
  cases value with
  | finite negative mantissa exponent => exact ofRatio_eq_infinite beyond
  | infinite negative => cases finite
  | undefined => cases finite

theorem divide_eq_infinite (dividend : left.isFinite = true) (divisor : right.isFinite = true)
    (beyond : (left.divide right).isFinite = false) :
    left.divide right = .infinite (left.isNegative != right.isNegative) := by
  match left, right with
  | .finite .., .finite .. => exact ofRatio_eq_infinite beyond
  | .infinite _, _ => cases dividend
  | .undefined, _ => cases dividend
  | .finite .., .infinite _ => cases divisor
  | .finite .., .undefined => cases divisor

theorem scale_fits (factor : Nat) : (value.scale factor).Fits := by
  cases value with
  | finite negative mantissa exponent => exact ofRatio_fits (two_pow_pos _)
  | infinite negative => trivial
  | undefined => trivial

theorem round_fits : value.round.Fits := by
  cases value with
  | finite negative mantissa exponent => exact ofRatio_fits one_pos
  | infinite negative => trivial
  | undefined => trivial

end Operations

end Binary

end Xib.Number
