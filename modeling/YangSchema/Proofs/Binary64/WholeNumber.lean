import YangSchema.Proofs.Binary64.Rounding

/-!
# Numbers that integers are rounded to

An integer is rounded to an integer, and this is not rounded again. So what is nearest to an integer
can be written as one, and is read back from its digits as the same number.
-/
namespace YangSchema.Binary64

variable {x : Binary64} {n v low high : Int}

theorem lt_two_pow_excessBits (units : Nat) : units < 2 ^ (excessBits units + 53) := by
  calc units < 2 ^ (units.log2 + 1) := Nat.lt_log2_self
    _ ≤ 2 ^ (excessBits units + 53) := Nat.pow_le_pow_right (by decide) (by rw [excessBits]; omega)

/-- Rounding twice is rounding once. -/
theorem rounded_rounded (units : Nat) : rounded (rounded units) = rounded units := by
  have hlt := lt_two_pow_excessBits units
  rw [rounded_eq units]
  generalize excessBits units = e at hlt ⊢
  have hq : roundQuotient units (2 ^ e) ≤ 2 ^ 53 := by
    have hmono := roundQuotient_mono hlt.le (2 ^ e)
    rwa [Nat.pow_add, Nat.mul_comm, roundQuotient_mul _ (Nat.two_pow_pos e)] at hmono
  exact rounded_mul_two_pow hq e

/-- From `2^53` on, the step of rounding is an integer. -/
theorem one_dvd_rounded (n : Nat) : one ∣ rounded (n * one) := by
  obtain hle | hge := Nat.le_total n (2 ^ 53)
  · rw [rounded_mul_one hle]
    exact Nat.dvd_mul_left ..
  · obtain ⟨k, _, hk, -, -⟩ := exists_eq_two_pow
    rw [hk, rounded_eq]
    refine (Nat.pow_dvd_pow 2 ?_).trans (Nat.dvd_mul_left ..)
    -- so many leading bits leave a step of at least one
    have hne : n * 2 ^ k ≠ 0 := Nat.mul_ne_zero (by omega) (Nat.two_pow_pos k).ne'
    have hlog : 53 + k ≤ (n * 2 ^ k).log2 := by
      rw [Nat.le_log2 hne, Nat.pow_add]
      exact Nat.mul_le_mul_right _ hge
    rw [excessBits]
    omega

theorem natAbs_signedUnits (s : Bool) (m : Nat) : (signedUnits s m).natAbs = m := by
  cases s <;> simp [signedUnits]

theorem signedUnits_mul (s : Bool) (m k : Nat) : signedUnits s (m * k) = signedUnits s m * k := by
  cases s <;> simp [signedUnits]

theorem signedUnits_natAbs (v : Int) : signedUnits (v < 0) v.natAbs = v := by
  simp only [signedUnits, decide_eq_true_eq]
  split <;> omega

/-- What is nearest to an integer is an integer, which is not rounded again. -/
theorem IsNearest.exists_toInt? (h : IsNearest x n) :
    ∃ v, x.toInt? = some v ∧ nearestUnits n = v * one ∧ nearestUnits v = nearestUnits n := by
  obtain ⟨s, m, rfl, hm⟩ := h
  have habs : m = rounded (n.natAbs * one) := by
    rw [← natAbs_signedUnits s m, hm, nearestUnits, natAbs_signedUnits]
  obtain ⟨k, hk⟩ : one ∣ m := habs ▸ one_dvd_rounded n.natAbs
  rw [Nat.mul_comm] at hk
  have hwhole : nearestUnits n = signedUnits s k * one := by
    rw [← hm, hk, signedUnits_mul]
  refine ⟨signedUnits s k, ?_, hwhole, ?_⟩
  · rw [toInt?, hk, Nat.mul_mod_left, Nat.mul_div_cancel k one_pos]
    rfl
  · have hfixed : rounded (k * one) = k * one := by
      rw [← hk, habs, rounded_rounded]
    rw [nearestUnits, natAbs_signedUnits, hfixed, signedUnits_mul, hwhole]
    congr 1
    have hsign := signedUnits_natAbs (signedUnits s k)
    rwa [natAbs_signedUnits] at hsign

theorem natAbs_nearestUnits_le (h : n.natAbs ≤ 2 ^ 64) :
    (nearestUnits n).natAbs ≤ 2 ^ 64 * one := by
  obtain ⟨k, _, hk, -, -⟩ := exists_eq_two_pow
  have hmono := rounded_mono (Nat.mul_le_mul_right one h)
  have hpow : rounded (2 ^ 64 * one) = 2 ^ 64 * one := by
    rw [hk, ← Nat.pow_add, rounded_two_pow]
  rwa [nearestUnits, natAbs_signedUnits, ← hpow]

/-- What is between the numbers nearest to two integers of 64 bits is hardly larger than these. -/
theorem natAbs_le_of_between (hlow : low.natAbs ≤ 2 ^ 64) (hhigh : high.natAbs ≤ 2 ^ 64)
    (h₁ : nearestUnits low ≤ v * one) (h₂ : v * one ≤ nearestUnits high) : v.natAbs ≤ 2 ^ 64 := by
  have hl := natAbs_nearestUnits_le hlow
  have hh := natAbs_nearestUnits_le hhigh
  have hone : (0 : Int) < one := by exact_mod_cast one_pos
  have hbelow : -(2 ^ 64) * (one : Int) ≤ v * one := by omega
  have habove : v * one ≤ 2 ^ 64 * (one : Int) := by omega
  have := Int.le_of_mul_le_mul_right hbelow hone
  have := Int.le_of_mul_le_mul_right habove hone
  omega

end YangSchema.Binary64
