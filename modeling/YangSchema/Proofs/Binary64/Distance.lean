import Mathlib.Algebra.Order.Ring.Rat
import Mathlib.Data.Nat.Prime.Basic
import Mathlib.Tactic.FieldSimp
import Mathlib.Tactic.Linarith
import Mathlib.Tactic.NormNum.Prime
import Mathlib.Tactic.Positivity
import YangSchema.Proofs.Binary64.Rounding

/-!
# Rounding a decimal and writing it again

A quotient is rounded by at most half of the distance between the numbers around it. A decimal that
is rounded so and then written with as many places comes back unless these numbers lie further apart
than the decimals do, and it is never off by more than one part in `2^53` and half a unit of the
last place.
-/
namespace YangSchema

theorem abs_roundQuotient_sub_le {den : Nat} (hd : 0 < den) (num : Nat) :
    |(roundQuotient num den : ℚ) - num / den| ≤ 1 / 2 := by
  have hden : (0 : ℚ) < den := by exact_mod_cast hd
  have hsplit : (num / den : ℚ) = (num / den : Nat) + (num % den : Nat) / den := by
    have hnum : (num : ℚ) = den * (num / den : Nat) + (num % den : Nat) := by
      exact_mod_cast (Nat.div_add_mod num den).symm
    rw [div_eq_iff hden.ne', add_mul, div_mul_cancel₀ _ hden.ne', hnum]
    ring
  have hrest : ((num % den : Nat) / den : ℚ) < 1 := by
    rw [div_lt_one hden]
    exact_mod_cast Nat.mod_lt num hd
  have hpos : (0 : ℚ) ≤ (num % den : Nat) / den := by positivity
  rw [hsplit]
  simp only [roundQuotient, Bool.or_eq_true, Bool.and_eq_true, decide_eq_true_eq]
  split
  · next hup =>
    have hhalf : (1 / 2 : ℚ) ≤ (num % den : Nat) / den := by
      rw [div_le_div_iff₀ two_pos hden, one_mul, mul_comm]
      exact_mod_cast (show den ≤ 2 * (num % den) by omega)
    push_cast
    rw [abs_le]
    constructor <;> linarith
  · next hdown =>
    have hhalf : ((num % den : Nat) / den : ℚ) ≤ 1 / 2 := by
      rw [div_le_div_iff₀ hden two_pos, one_mul, mul_comm]
      exact_mod_cast (show 2 * (num % den) ≤ den by omega)
    rw [abs_le]
    constructor <;> linarith

namespace Binary64

/-- A quotient is rounded by at most half a step. -/
theorem abs_roundBits_sub_le {den : Nat} (hd : 0 < den) (num : Nat) :
    |(roundBits num den : ℚ) - num / den| ≤ 2 ^ excessBits (num / den) / 2 := by
  rw [roundBits_eq]
  generalize excessBits (num / den) = e
  have hden : (den : ℚ) ≠ 0 := by exact_mod_cast hd.ne'
  have hstep : (0 : ℚ) < 2 ^ e := by positivity
  have hclose := abs_roundQuotient_sub_le (Nat.mul_pos hd (Nat.two_pow_pos e)) num
  push_cast at hclose ⊢
  calc |(roundQuotient num (den * 2 ^ e) : ℚ) * 2 ^ e - num / den|
      = |(roundQuotient num (den * 2 ^ e) - num / (den * 2 ^ e) : ℚ) * 2 ^ e| := by
        congr 1
        field_simp
    _ = |(roundQuotient num (den * 2 ^ e) - num / (den * 2 ^ e) : ℚ)| * 2 ^ e := by
        rw [abs_mul, abs_of_pos hstep]
    _ ≤ 1 / 2 * 2 ^ e := mul_le_mul_of_nonneg_right hclose hstep.le
    _ = 2 ^ e / 2 := by ring

/-- From 53 bits on, the leading bit tells the step. -/
theorem two_pow_excessBits_mul {n : Nat} (h : 2 ^ 52 ≤ n) :
    2 ^ excessBits n * 2 ^ 52 ≤ n := by
  have hn : n ≠ 0 := by
    rintro rfl
    simp at h
  have hlog : 52 ≤ n.log2 := (Nat.le_log2 hn).2 h
  rw [← Nat.pow_add, show excessBits n + 52 = n.log2 by rw [excessBits]; omega]
  exact Nat.log2_self_le hn

theorem exists_one_eq : ∃ k, one = 2 ^ k ∧ 128 ≤ k := by
  refine ⟨1074, ?_, by omega⟩
  unfold one
  generalize 1074 = k
  exact Nat.pow_eq

def decimalUnits (places n : Nat) : Nat :=
  roundBits (n * one) (10 ^ places)

def writtenBack (places n : Nat) : Nat :=
  roundQuotient (decimalUnits places n * 10 ^ places) one

/-- The step at which a decimal is rounded, in units. -/
def decimalStep (places n : Nat) : Nat :=
  2 ^ excessBits (n * one / 10 ^ places)

variable {places n : Nat}

theorem abs_writtenBack_sub_le (places n : Nat) :
    |(writtenBack places n : ℚ) - n| ≤ 1 / 2 + 10 ^ places * decimalStep places n / one / 2 := by
  have hone : (0 : ℚ) < one := by exact_mod_cast one_pos
  have hten : (0 : ℚ) < 10 ^ places := by positivity
  have hwrite := abs_roundQuotient_sub_le one_pos (decimalUnits places n * 10 ^ places)
  have hread := abs_roundBits_sub_le (Nat.pow_pos (n := places) (show 0 < 10 by decide)) (n * one)
  change |(decimalUnits places n : ℚ) - _| ≤ _ at hread
  change |(writtenBack places n : ℚ) - _| ≤ _ at hwrite
  have hstep : (decimalStep places n : ℚ) = 2 ^ excessBits (n * one / 10 ^ places) := by
    rw [decimalStep, Nat.cast_pow, Nat.cast_ofNat]
  rw [← hstep] at hread
  simp only [Nat.cast_mul, Nat.cast_pow, Nat.cast_ofNat] at hread hwrite
  generalize (decimalStep places n : ℚ) = step at hread ⊢
  generalize (decimalUnits places n : ℚ) = units at hread hwrite
  generalize (one : ℚ) = o at hread hwrite hone ⊢
  generalize (10 : ℚ) ^ places = t at hread hwrite hten ⊢
  have hoff : |units * t / o - n| ≤ t * step / o / 2 := by
    calc |units * t / o - n| = |(units - n * o / t) * (t / o)| := by
          congr 1
          field_simp
      _ = |units - n * o / t| * (t / o) := by rw [abs_mul, abs_of_pos (div_pos hten hone)]
      _ ≤ step / 2 * (t / o) := mul_le_mul_of_nonneg_right hread (div_pos hten hone).le
      _ = t * step / o / 2 := by ring
  exact (abs_sub_le _ _ _).trans (add_le_add hwrite hoff)

/-- What differs by less than one is the same. -/
theorem writtenBack_eq_of_lt (h : |(writtenBack places n : ℚ) - n| < 1) :
    writtenBack places n = n := by
  obtain ⟨hlow, hhigh⟩ := abs_lt.1 h
  have h₁ : (n : ℚ) < writtenBack places n + 1 := by linarith
  have h₂ : (writtenBack places n : ℚ) < n + 1 := by linarith
  have h₁' : n < writtenBack places n + 1 := by exact_mod_cast h₁
  have h₂' : writtenBack places n < n + 1 := by exact_mod_cast h₂
  omega

/-- A decimal is off by at most one part in `2^53` and half a unit of its last place. -/
theorem abs_writtenBack_sub_le_div (hplaces : places ≤ 18) (n : Nat) :
    |(writtenBack places n : ℚ) - n| ≤ n / 2 ^ 53 + 1 / 2 := by
  have hone : (0 : ℚ) < one := by exact_mod_cast one_pos
  have hten : (0 : ℚ) < 10 ^ places := by positivity
  by_cases hn : n = 0
  · subst hn
    simp [writtenBack, decimalUnits, roundBits, roundQuotient]
  have hlarge : 2 ^ 52 ≤ n * one / 10 ^ places := by
    obtain ⟨k, hk, hk128⟩ := exists_one_eq
    rw [Nat.le_div_iff_mul_le (by positivity)]
    calc 2 ^ 52 * 10 ^ places ≤ 2 ^ 52 * 10 ^ 18 :=
          Nat.mul_le_mul_left _ (Nat.pow_le_pow_right (by decide) hplaces)
      _ ≤ 2 ^ 128 := by norm_num
      _ ≤ 2 ^ k := Nat.pow_le_pow_right (by decide) hk128
      _ ≤ n * one := by
          rw [hk]
          exact Nat.le_mul_of_pos_left _ (Nat.pos_of_ne_zero hn)
  have hstep : (decimalStep places n : ℚ) * 2 ^ 52 ≤ n * one / 10 ^ places := by
    have hle := (Nat.le_div_iff_mul_le (by positivity)).1 (two_pow_excessBits_mul hlarge)
    rw [le_div_iff₀ hten]
    exact_mod_cast hle
  rw [le_div_iff₀ hten] at hstep
  have hclose := abs_writtenBack_sub_le places n
  generalize (decimalStep places n : ℚ) = step at hstep hclose
  generalize (one : ℚ) = o at hstep hclose hone
  have hoff : 10 ^ places * step / o / 2 ≤ n / 2 ^ 53 := by
    rw [div_div, div_le_div_iff₀ (mul_pos hone two_pos) (by positivity)]
    calc 10 ^ places * step * 2 ^ 53 = step * 2 ^ 52 * 10 ^ places * 2 := by ring
      _ ≤ n * o * 2 := mul_le_mul_of_nonneg_right hstep two_pos.le
      _ = n * (o * 2) := by ring
  linarith

/-- No power of ten but one is a power of two. -/
theorem ten_pow_mul_two_pow_ne (hplaces : 1 ≤ places) (j k : Nat) :
    10 ^ places * 2 ^ j ≠ 2 ^ k := by
  intro heq
  have hfive : 5 ∣ 2 ^ k := by
    rw [← heq]
    exact ((show 5 ∣ 10 by decide).trans (dvd_pow_self 10 (by omega))).trans (Nat.dvd_mul_right _ _)
  have := (show Nat.Prime 5 by norm_num).dvd_of_dvd_pow hfive
  omega

/-- A decimal comes back if the numbers around it lie no further apart than the decimals do. -/
theorem writtenBack_eq_of_step (hplaces : 1 ≤ places)
    (h : 10 ^ places * decimalStep places n ≤ one) : writtenBack places n = n := by
  obtain ⟨k, hk, -⟩ := exists_one_eq
  have hlt : 10 ^ places * decimalStep places n < one :=
    lt_of_le_of_ne h (hk ▸ ten_pow_mul_two_pow_ne hplaces _ k)
  have hone : (0 : ℚ) < one := by exact_mod_cast one_pos
  have hoff : 10 ^ places * (decimalStep places n : ℚ) / one < 1 := by
    rw [div_lt_one hone]
    exact_mod_cast hlt
  have hclose := abs_writtenBack_sub_le places n
  exact writtenBack_eq_of_lt (by linarith)

/-- Below a power of two, the numbers lie as close as this power divided by `2^53`. -/
theorem mul_decimalStep_le_one (hplaces : places ≤ 18) {k : ℤ} (hn : (n / 10 ^ places : ℚ) < 2 ^ k)
    (hk : (2 : ℚ) ^ k * 10 ^ places ≤ 2 ^ 53) : 10 ^ places * decimalStep places n ≤ one := by
  obtain ⟨j, hj, hj128⟩ := exists_one_eq
  have hten : (0 : ℚ) < 10 ^ places := by positivity
  by_cases hlarge : n * one / 10 ^ places < 2 ^ 53
  · have hzero : excessBits (n * one / 10 ^ places) = 0 := Nat.le_zero.1 (excessBits_le hlarge)
    calc 10 ^ places * decimalStep places n = 10 ^ places := by
          rw [decimalStep, hzero, Nat.pow_zero, Nat.mul_one]
      _ ≤ 10 ^ 18 := Nat.pow_le_pow_right (by decide) hplaces
      _ ≤ 2 ^ 128 := by norm_num
      _ ≤ one := by
          rw [hj]
          exact Nat.pow_le_pow_right (by decide) hj128
  · have hstep := two_pow_excessBits_mul (show 2 ^ 52 ≤ n * one / 10 ^ places by omega)
    rw [decimalStep]
    generalize excessBits (n * one / 10 ^ places) = e at hstep ⊢
    rw [Nat.le_div_iff_mul_le (by positivity), hj] at hstep
    -- the step has at most the exponent that the power of two allows
    have hexponent : (e : ℤ) + 52 < k + j := by
      refine (zpow_lt_zpow_iff_right₀ (show (1 : ℚ) < 2 by norm_num)).1 ?_
      have hstep' : (2 : ℚ) ^ e * 2 ^ 52 * 10 ^ places ≤ n * 2 ^ j := by exact_mod_cast hstep
      rw [zpow_add₀ two_ne_zero, zpow_add₀ two_ne_zero, zpow_natCast, zpow_natCast]
      calc (2 : ℚ) ^ e * 2 ^ (52 : ℤ) ≤ n * 2 ^ j / 10 ^ places := by
            rw [le_div_iff₀ hten]
            exact_mod_cast hstep'
        _ = n / 10 ^ places * 2 ^ j := by ring
        _ < 2 ^ k * 2 ^ j := mul_lt_mul_of_pos_right hn (by positivity)
    have hle : (10 : ℚ) ^ places * 2 ^ e ≤ 2 ^ j := by
      have hpow : (2 : ℚ) ^ e * 2 ^ 53 ≤ 2 ^ k * 2 ^ j := by
        rw [← zpow_natCast, ← zpow_natCast, ← zpow_natCast, ← zpow_add₀ two_ne_zero,
          ← zpow_add₀ two_ne_zero]
        exact zpow_le_zpow_right₀ (by norm_num) (by push_cast; omega)
      refine le_of_mul_le_mul_right ?_ (show (0 : ℚ) < 2 ^ 53 by positivity)
      calc (10 : ℚ) ^ places * 2 ^ e * 2 ^ 53 = 10 ^ places * (2 ^ e * 2 ^ 53) := by ring
        _ ≤ 10 ^ places * (2 ^ k * 2 ^ j) := mul_le_mul_of_nonneg_left hpow hten.le
        _ = 2 ^ k * 10 ^ places * 2 ^ j := by ring
        _ ≤ 2 ^ 53 * 2 ^ j := mul_le_mul_of_nonneg_right hk (by positivity)
        _ = 2 ^ j * 2 ^ 53 := by ring
    rw [hj]
    exact_mod_cast hle

end Binary64
end YangSchema
