import Mathlib.Algebra.Order.Field.Power
import Mathlib.Algebra.Order.Field.Rat
import Mathlib.Tactic.Linarith
import Mathlib.Tactic.Positivity
import Mathlib.Tactic.Ring
import Numeral.Number.Binary64

/-!
# Differences of binary64 numbers

All finite numbers of the format are whole multiples of its least positive one, and so are their
differences, as long as they are not rounded. Rounding sends no such multiple to zero but zero
itself: what lies below the normal numbers is spaced like them, down to zero. So a difference of two
numbers is zero iff the numbers are equal, even though it is rounded.

- `two_zpow_exponent_mul_le`: the exponent of a quotient from below.
- `exists_roundQuotient_eq`: a rounded quotient is a multiple of its last place, and falls short of
  the exact one by at most half of that.
- `least`, `IsMultiple`: the least positive number, and its multiples.
- `isMultiple_of_toRat?`, `roundQuotient_ne_zero`: the finite numbers are multiples, and no multiple
  but zero is rounded to zero.
- `toRat?_ofRat_sub_eq_zero_iff`: the difference of two finite numbers.
-/

namespace Numeral.Binary64

/-! ## Exponents and places -/

section Round

variable {num den : Nat}

private theorem two_zpow_of_nonneg {e : Int} (h : 0 ≤ e) : (2 : Rat) ^ e = (2 : Rat) ^ e.toNat := by
  rw [← zpow_natCast, Int.toNat_of_nonneg h]

private theorem two_zpow_mul_of_nonpos {e : Int} (h : e ≤ 0) :
    (2 : Rat) ^ e * (2 : Rat) ^ (-e).toNat = 1 := by
  rw [← two_zpow_of_nonneg (Int.neg_nonneg.mpr h), ← zpow_add₀ two_ne_zero, Int.add_right_neg,
    zpow_zero]

/-- The quotient of the leading powers is too large by at most a factor of two. -/
private theorem two_zpow_log2_sub_mul_le (hnum : num ≠ 0) (den : Nat) :
    (2 : Rat) ^ ((num.log2 : Int) - den.log2 - 1) * den ≤ num := by
  have hnumLog : (2 : Rat) ^ num.log2 ≤ num := by
    exact_mod_cast Nat.log2_self_le hnum
  have hdenLog : (den : Rat) ≤ (2 : Rat) ^ (den.log2 + 1) := by
    exact_mod_cast Nat.lt_log2_self.le
  calc (2 : Rat) ^ ((num.log2 : Int) - den.log2 - 1) * den
      ≤ (2 : Rat) ^ ((num.log2 : Int) - den.log2 - 1) * (2 : Rat) ^ (den.log2 + 1) := by gcongr
    _ = (2 : Rat) ^ num.log2 := by
      rw [← zpow_natCast, ← zpow_natCast, ← zpow_add₀ two_ne_zero]
      congr 1
      push_cast
      omega
    _ ≤ num := hnumLog

/-- The power of two of the exponent is no more than the quotient. -/
theorem two_zpow_exponent_mul_le (hnum : num ≠ 0) :
    (2 : Rat) ^ exponent num den * den ≤ num := by
  have hbelow := two_zpow_log2_sub_mul_le hnum den
  unfold exponent
  -- The estimate by logarithms is right or one too high, and the comparison tells which.
  generalize (num.log2 : Int) - den.log2 = e at hbelow ⊢
  dsimp only
  split
  · rename_i hsign
    split
    · exact hbelow
    · rename_i hle
      have hle : ((den * Nat.pow 2 e.toNat : Nat) : Rat) ≤ num := by
        exact_mod_cast Nat.le_of_not_lt hle
      rw [two_zpow_of_nonneg hsign, mul_comm]
      simpa using hle
  · rename_i hsign
    split
    · exact hbelow
    · rename_i hle
      have hle : (den : Rat) ≤ ((num * Nat.pow 2 (-e).toNat : Nat) : Rat) := by
        exact_mod_cast Nat.le_of_not_lt hle
      calc (2 : Rat) ^ e * den ≤ (2 : Rat) ^ e * (num * (2 : Rat) ^ (-e).toNat) := by
            gcongr
            simpa using hle
        _ = (2 : Rat) ^ e * (2 : Rat) ^ (-e).toNat * num := by ring
        _ = num := by rw [two_zpow_mul_of_nonpos (by omega), one_mul]

/-- A rounded quotient is a multiple of the last place that the format keeps, and falls short of the
exact one by at most half of it. -/
theorem exists_roundQuotient_eq (hnum : num ≠ 0) (hden : 0 < den) :
    ∃ n : Nat, roundQuotient num den = n * (2 : Rat) ^ lastPlace num den ∧
      2 * (num : Rat) ≤ (2 * n + 1) * ((2 : Rat) ^ lastPlace num den * den) := by
  unfold roundQuotient
  rw [if_neg hnum]
  generalize lastPlace num den = place
  simp only [Nat.pow_eq]
  split
  · rename_i hplace
    have hhalf := le_roundDiv_mul num (Nat.mul_pos hden (Nat.two_pow_pos place.toNat))
    rw [two_zpow_of_nonneg hplace]
    refine ⟨roundDiv num (den * 2 ^ place.toNat), by push_cast; rfl, ?_⟩
    generalize roundDiv num (den * 2 ^ place.toNat) = n at hhalf ⊢
    have hhalf : (2 * num : Rat) ≤ 2 * (n * (den * 2 ^ place.toNat)) + den * 2 ^ place.toNat := by
      exact_mod_cast hhalf
    refine hhalf.trans (le_of_eq ?_)
    ring
  · rename_i hplace
    -- Below the point the dividend was scaled up in place of the divisor.
    have hone := two_zpow_mul_of_nonpos (Int.le_of_not_le hplace)
    have hpos : (0 : Rat) < 2 ^ place := zpow_pos two_pos _
    have hhalf := le_roundDiv_mul (num * 2 ^ (-place).toNat) hden
    refine ⟨roundDiv (num * 2 ^ (-place).toNat) den, ?_, ?_⟩
    · rw [Rat.mkRat_eq_div, div_eq_iff (by positivity)]
      push_cast
      rw [mul_assoc, hone, mul_one]
    · generalize roundDiv (num * 2 ^ (-place).toNat) den = n at hhalf ⊢
      have hhalf : (2 * (num * 2 ^ (-place).toNat) : Rat) ≤ 2 * (n * den) + den := by
        exact_mod_cast hhalf
      calc (2 * num : Rat) = 2 ^ place * (2 * (num * 2 ^ (-place).toNat)) := by
            rw [mul_left_comm, mul_left_comm (2 ^ place), hone, mul_one]
        _ ≤ 2 ^ place * (2 * (n * den) + den) := by gcongr
        _ = (2 * n + 1) * (2 ^ place * den) := by ring

/-- A quotient that is no less than its last place is not rounded to zero. -/
theorem roundQuotient_ne_zero (hnum : num ≠ 0) (hden : 0 < den)
    (h : (2 : Rat) ^ lastPlace num den * den ≤ num) : roundQuotient num den ≠ 0 := by
  obtain ⟨n, hround, hhalf⟩ := exists_roundQuotient_eq hnum hden
  rw [hround]
  have hn : n ≠ 0 := by
    rintro rfl
    have hpos : (0 : Rat) < num := by exact_mod_cast Nat.pos_of_ne_zero hnum
    push_cast at hhalf
    linarith
  positivity

end Round

/-! ## Multiples of the least number -/

/-- The least positive number of the format. -/
def least : Rat :=
  (2 : Rat) ^ (-1074 : Int)

/-- `q` is a whole number of times the least number. -/
def IsMultiple (q : Rat) : Prop :=
  ∃ n : Int, q = n * least

section Multiples

variable {q r start stop a b : Rat}

private theorem least_pos : 0 < least :=
  zpow_pos two_pos _

theorem isMultiple_zero : IsMultiple 0 :=
  ⟨0, by simp⟩

theorem IsMultiple.neg (h : IsMultiple q) : IsMultiple (-q) := by
  obtain ⟨n, rfl⟩ := h
  exact ⟨-n, by push_cast; ring⟩

theorem IsMultiple.sub (hq : IsMultiple q) (hr : IsMultiple r) : IsMultiple (q - r) := by
  obtain ⟨m, rfl⟩ := hq
  obtain ⟨n, rfl⟩ := hr
  exact ⟨m - n, by push_cast; ring⟩

theorem IsMultiple.least_le_abs (h : IsMultiple q) (hq : q ≠ 0) : least ≤ |q| := by
  obtain ⟨n, rfl⟩ := h
  have hn : n ≠ 0 := by
    rintro rfl
    simp at hq
  have hone : (1 : Rat) ≤ |(n : Rat)| := by exact_mod_cast Int.one_le_abs hn
  rw [abs_mul, abs_of_pos least_pos]
  exact le_mul_of_one_le_left least_pos.le hone

/-- The last place is a power of two from the least number on. -/
theorem isMultiple_roundQuotient (num : Nat) {den : Nat} (hden : 0 < den) :
    IsMultiple (roundQuotient num den) := by
  by_cases hnum : num = 0
  · rw [roundQuotient, if_pos hnum]
    exact isMultiple_zero
  · obtain ⟨n, hround, -⟩ := exists_roundQuotient_eq hnum hden
    have hplace : -1074 ≤ lastPlace num den := le_max_right _ _
    have hpow : (2 : Rat) ^ lastPlace num den =
        (2 : Rat) ^ (lastPlace num den + 1074).toNat * least := by
      rw [least, ← two_zpow_of_nonneg (by omega), ← zpow_add₀ two_ne_zero]
      congr 1
      omega
    refine ⟨n * 2 ^ (lastPlace num den + 1074).toNat, ?_⟩
    rw [hround, hpow]
    push_cast
    ring

/-- A finite number is the rounded magnitude with a sign. -/
theorem eq_roundQuotient_of_toRat? (h : (ofRat q).toRat? = some r) :
    r = roundQuotient q.num.natAbs q.den ∨ r = -roundQuotient q.num.natAbs q.den := by
  unfold ofRat ofMagnitude at h
  dsimp only at h
  split at h
  · cases h
  · simp only [toRat?, Option.some.injEq] at h
    split at h
    · exact .inr h.symm
    · exact .inl h.symm

theorem isMultiple_of_toRat? (h : (ofRat q).toRat? = some r) : IsMultiple r := by
  have hround := isMultiple_roundQuotient q.num.natAbs q.den_pos
  rcases eq_roundQuotient_of_toRat? h with rfl | rfl
  · exact hround
  · exact hround.neg

theorem isMultiple_of_ofQuotient (h : ofQuotient q = .ok r) : IsMultiple r := by
  unfold ofQuotient at h
  split at h
  · rename_i hr
    cases h
    exact isMultiple_of_toRat? hr
  · cases h

private theorem bound_pos : 0 < bound := by
  unfold bound
  generalize 1024 = k
  exact Nat.cast_pos.mpr (Nat.pow_pos Nat.two_pos)

theorem ofRat_zero : ofRat 0 = .finite false 0 := by
  have hround : roundQuotient (0 : Rat).num.natAbs (0 : Rat).den = 0 := rfl
  rw [ofRat, ofMagnitude, hround, if_neg (not_le_of_gt bound_pos)]
  rfl

private theorem abs_mul_den (q : Rat) : |q| * q.den = q.num.natAbs := by
  rw [← Nat.abs_cast q.den, ← abs_mul, Rat.mul_den_eq_num, Nat.cast_natAbs, Int.cast_abs]

/-- The last place that is kept of a multiple is no more than the multiple itself. -/
theorem IsMultiple.two_zpow_lastPlace_mul_le (h : IsMultiple q) (hq : q ≠ 0) :
    (2 : Rat) ^ lastPlace q.num.natAbs q.den * q.den ≤ q.num.natAbs := by
  have hnum : q.num.natAbs ≠ 0 := by simpa using hq
  rw [lastPlace]
  rcases max_choice (exponent q.num.natAbs q.den - 52) (-1074) with hmax | hmax
  · have hpow : (2 : Rat) ^ (exponent q.num.natAbs q.den - 52) ≤
        (2 : Rat) ^ exponent q.num.natAbs q.den :=
      zpow_le_zpow_right₀ one_le_two (Int.sub_le_self _ (by decide))
    rw [hmax]
    exact (mul_le_mul_of_nonneg_right hpow q.den.cast_nonneg).trans
      (two_zpow_exponent_mul_le hnum)
  · rw [hmax, ← abs_mul_den, ← least]
    exact mul_le_mul_of_nonneg_right (h.least_le_abs hq) q.den.cast_nonneg

/-- **Gradual underflow.** No multiple of the least number but zero is rounded to zero. -/
theorem IsMultiple.toRat?_ofRat_eq_zero_iff (h : IsMultiple q) :
    (ofRat q).toRat? = some 0 ↔ q = 0 := by
  constructor
  · intro hzero
    by_contra hq
    have hround := roundQuotient_ne_zero (by simpa using hq) q.den_pos
      (h.two_zpow_lastPlace_mul_le hq)
    rcases eq_roundQuotient_of_toRat? hzero with heq | heq
    · exact hround heq.symm
    · exact hround (neg_eq_zero.mp heq.symm)
  · rintro rfl
    exact congrArg toRat? ofRat_zero

/-- **Differences.** The difference of two finite numbers is rounded to zero iff the numbers are
equal. -/
theorem toRat?_ofRat_sub_eq_zero_iff (ha : ofQuotient start = .ok a) (hb : ofQuotient stop = .ok b) :
    (ofRat (b - a)).toRat? = some 0 ↔ a = b := by
  have hsub := (isMultiple_of_ofQuotient hb).sub (isMultiple_of_ofQuotient ha)
  rw [hsub.toRat?_ofRat_eq_zero_iff, sub_eq_zero, eq_comm]

end Multiples

end Numeral.Binary64
