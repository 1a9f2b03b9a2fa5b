import Mathlib.Algebra.Order.Group.Nat
import Mathlib.Data.Nat.Log
import Mathlib.Tactic.Ring
import YangSchema.Binary64.Reading
import YangSchema.Proofs.Text.Numeral

/-!
# Rounding whole numbers

Rounding keeps the order. It keeps a whole number as it is up to `2^53`, and beyond that it can only
bring two numbers together.
-/
namespace YangSchema

theorem roundQuotient_mul (k : Nat) {den : Nat} (hd : 0 < den) :
    roundQuotient (k * den) den = k := by
  simp only [roundQuotient, Nat.mul_mod_left, Nat.mul_div_cancel k hd]
  rw [if_neg]
  simp
  omega

theorem roundQuotient_mono {a b : Nat} (h : a ≤ b) (den : Nat) :
    roundQuotient a den ≤ roundQuotient b den := by
  have hq : a / den ≤ b / den := Nat.div_le_div_right h
  simp only [roundQuotient, Bool.or_eq_true, Bool.and_eq_true, decide_eq_true_eq]
  obtain hlt | heq := hq.lt_or_eq
  · -- the quotient itself grows, which makes up for rounding up
    split <;> split <;> omega
  · have hr : a % den ≤ b % den := by
      have ha := Nat.div_add_mod a den
      have hb := Nat.div_add_mod b den
      rw [heq] at ha
      omega
    rw [heq]
    split <;> split <;> omega

theorem roundQuotient_mul_mul {k : Nat} (hk : 0 < k) (num den : Nat) :
    roundQuotient (k * num) (k * den) = roundQuotient num den := by
  have htwice : 2 * (k * (num % den)) = k * (2 * (num % den)) := by ring
  simp only [roundQuotient, Nat.mul_div_mul_left _ _ hk, Nat.mul_mod_mul_left, htwice, gt_iff_lt,
    Nat.mul_lt_mul_left hk, Nat.mul_right_inj hk.ne']

namespace Binary64

/-- Both are powers of two, far apart. -/
theorem exists_eq_two_pow : ∃ k m, one = 2 ^ k ∧ limit = 2 ^ m ∧ k + 65 ≤ m := by
  refine ⟨1074, 2098, ?_, ?_, by omega⟩
  -- the numbers themselves are too large to be computed here
  · unfold one
    generalize 1074 = k
    exact Nat.pow_eq
  · unfold limit
    generalize 2098 = m
    exact Nat.pow_eq

theorem roundBits_eq (num den : Nat) :
    roundBits num den =
      roundQuotient num (den * 2 ^ excessBits (num / den)) * 2 ^ excessBits (num / den) := by
  simp only [roundBits, Nat.pow_eq]

theorem roundBits_mul_mul {k : Nat} (hk : 0 < k) (num den : Nat) :
    roundBits (k * num) (k * den) = roundBits num den := by
  rw [roundBits_eq, roundBits_eq, Nat.mul_div_mul_left _ _ hk, Nat.mul_assoc,
    roundQuotient_mul_mul hk]

/-- A power of two that is not finer than the rounding bounds it from above. -/
theorem roundBits_le_two_pow {num den k : Nat} (hd : 0 < den) (h : num ≤ 2 ^ k * den)
    (hk : excessBits (num / den) ≤ k) : roundBits num den ≤ 2 ^ k := by
  rw [roundBits_eq]
  generalize excessBits (num / den) = e at hk ⊢
  have hpow : 2 ^ k = 2 ^ (k - e) * 2 ^ e := by
    rw [← Nat.pow_add, Nat.sub_add_cancel hk]
  have hmono := roundQuotient_mono h (den * 2 ^ e)
  rw [show 2 ^ k * den = 2 ^ (k - e) * (den * 2 ^ e) by rw [hpow]; ring,
    roundQuotient_mul _ (Nat.mul_pos hd (Nat.two_pow_pos _))] at hmono
  rw [hpow]
  exact Nat.mul_le_mul_right _ hmono

theorem two_pow_le_roundBits {num den k : Nat} (hd : 0 < den) (h : 2 ^ k * den ≤ num)
    (hk : excessBits (num / den) ≤ k) : 2 ^ k ≤ roundBits num den := by
  rw [roundBits_eq]
  generalize excessBits (num / den) = e at hk ⊢
  have hpow : 2 ^ k = 2 ^ (k - e) * 2 ^ e := by
    rw [← Nat.pow_add, Nat.sub_add_cancel hk]
  have hmono := roundQuotient_mono h (den * 2 ^ e)
  rw [show 2 ^ k * den = 2 ^ (k - e) * (den * 2 ^ e) by rw [hpow]; ring,
    roundQuotient_mul _ (Nat.mul_pos hd (Nat.two_pow_pos _))] at hmono
  rw [hpow]
  exact Nat.mul_le_mul_right _ hmono

theorem roundBits_mono {a b den : Nat} (hd : 0 < den) (h : a ≤ b) :
    roundBits a den ≤ roundBits b den := by
  by_cases he : excessBits (a / den) = excessBits (b / den)
  · rw [roundBits_eq, roundBits_eq, he]
    exact Nat.mul_le_mul_right _ (roundQuotient_mono h _)
  · have hq : a / den ≤ b / den := Nat.div_le_div_right h
    have hb : b / den ≠ 0 := by
      intro hb
      rw [hb, Nat.le_zero] at hq
      exact he (by rw [hq, hb])
    -- the greatest power of two up to the second quotient lies between the two
    have hlow := Nat.log2_self_le hb
    have hhigh : a / den < 2 ^ (b / den).log2 := by
      by_contra hle
      have ha : a / den ≠ 0 := by
        have := Nat.two_pow_pos (b / den).log2
        omega
      have hlog : (a / den).log2 = (b / den).log2 := by
        refine Nat.le_antisymm ?_ ((Nat.le_log2 ha).2 (Nat.le_of_not_lt hle))
        exact (Nat.le_log2 hb).2 ((Nat.log2_self_le ha).trans hq)
      exact he (by rw [excessBits, excessBits, hlog])
    have hea : excessBits (a / den) ≤ (b / den).log2 := by
      by_cases ha : a / den = 0
      · simp [ha, excessBits]
      · have := (Nat.log2_lt ha).2 hhigh
        rw [excessBits]
        omega
    have heb : excessBits (b / den) ≤ (b / den).log2 := by
      rw [excessBits]
      omega
    exact (roundBits_le_two_pow hd ((Nat.div_lt_iff_lt_mul hd).1 hhigh).le hea).trans
      (two_pow_le_roundBits hd ((Nat.le_div_iff_mul_le hd).1 hlow) heb)

def rounded (units : Nat) : Nat :=
  roundBits units 1

theorem rounded_eq (units : Nat) :
    rounded units = roundQuotient units (2 ^ excessBits units) * 2 ^ excessBits units := by
  rw [rounded, roundBits_eq, Nat.div_one, Nat.one_mul]

theorem rounded_of_dvd {units : Nat} (h : 2 ^ excessBits units ∣ units) :
    rounded units = units := by
  obtain ⟨k, hk⟩ := h
  rw [rounded_eq]
  conv_rhs => rw [hk]
  conv_lhs => arg 1; arg 1; rw [hk, Nat.mul_comm]
  rw [roundQuotient_mul k (Nat.two_pow_pos _), Nat.mul_comm]

theorem rounded_le_two_pow {units k : Nat} (h : units ≤ 2 ^ k) (hk : excessBits units ≤ k) :
    rounded units ≤ 2 ^ k :=
  roundBits_le_two_pow Nat.one_pos (by rwa [Nat.mul_one]) (by rwa [Nat.div_one])

theorem excessBits_le {units k : Nat} (h : units < 2 ^ (k + 53)) : excessBits units ≤ k := by
  by_cases h0 : units = 0
  · subst h0
    simp [excessBits]
  · have := (Nat.log2_lt h0).2 h
    rw [excessBits]
    omega

theorem rounded_mono {a b : Nat} (h : a ≤ b) : rounded a ≤ rounded b :=
  roundBits_mono Nat.one_pos h

theorem one_pos : 0 < one := by
  obtain ⟨k, _, hk, -, -⟩ := exists_eq_two_pow
  exact hk ▸ Nat.two_pow_pos k

/-- Numbers of units up to `2^53` stay as they are, in units of any power of two. -/
theorem rounded_mul_two_pow {n : Nat} (h : n ≤ 2 ^ 53) (k : Nat) :
    rounded (n * 2 ^ k) = n * 2 ^ k := by
  refine rounded_of_dvd ?_
  obtain hlt | rfl := h.lt_or_eq
  · have hexcess : excessBits (n * 2 ^ k) ≤ k := by
      refine excessBits_le ?_
      rw [Nat.pow_add, Nat.mul_comm]
      exact Nat.mul_lt_mul_of_pos_left hlt (Nat.two_pow_pos k)
    exact (Nat.pow_dvd_pow 2 hexcess).trans (Nat.dvd_mul_left (2 ^ k) n)
  · have hexcess : excessBits (2 ^ (53 + k)) ≤ 53 + k :=
      excessBits_le (Nat.pow_lt_pow_right (by omega) (by omega))
    rw [← Nat.pow_add]
    exact Nat.pow_dvd_pow 2 hexcess

theorem rounded_two_pow (k : Nat) : rounded (2 ^ k) = 2 ^ k := by
  simpa using rounded_mul_two_pow (show 1 ≤ 2 ^ 53 by decide) k

/-- Up to `2^53` whole numbers stay as they are. -/
theorem rounded_mul_one {n : Nat} (h : n ≤ 2 ^ 53) : rounded (n * one) = n * one := by
  obtain ⟨k, _, hk, -, -⟩ := exists_eq_two_pow
  rw [hk]
  exact rounded_mul_two_pow h k

/-- The units, with their sign, of the number that an integer is rounded to. -/
def nearestUnits (n : Int) : Int :=
  signedUnits (n < 0) (rounded (n.natAbs * one))

theorem nearestUnits_mono {a b : Int} (h : a ≤ b) : nearestUnits a ≤ nearestUnits b := by
  have hmono {m n : Nat} (h : m ≤ n) : rounded (m * one) ≤ rounded (n * one) :=
    rounded_mono (Nat.mul_le_mul_right one h)
  simp only [nearestUnits, signedUnits]
  by_cases ha : a < 0
  · by_cases hb : b < 0
    · have := hmono (show b.natAbs ≤ a.natAbs by omega)
      simp only [ha, hb, decide_true, if_true]
      omega
    · simp only [ha, hb, decide_true, decide_false, if_true, Bool.false_eq_true, if_false]
      omega
  · have hb : ¬ b < 0 := by omega
    have := hmono (show a.natAbs ≤ b.natAbs by omega)
    simp only [ha, hb, decide_false, Bool.false_eq_true, if_false]
    omega

theorem nearestUnits_of_le {n : Int} (h : n.natAbs ≤ 2 ^ 53) : nearestUnits n = n * one := by
  rw [nearestUnits, rounded_mul_one h, signedUnits]
  by_cases hn : n < 0
  · have habs : (n.natAbs : Int) = -n := by omega
    rw [if_pos (decide_eq_true hn), Int.natCast_mul, habs, Int.neg_mul, Int.neg_neg]
  · have habs : (n.natAbs : Int) = n := by omega
    rw [if_neg (by simpa using hn), Int.natCast_mul, habs]

/-- Two whole numbers out of order have one nearest number only if both are large. -/
theorem le_of_nearestUnits_le {a b : Int} (h : nearestUnits a ≤ nearestUnits b) :
    a ≤ b ∨ nearestUnits a = nearestUnits b ∧ 2 ^ 53 ≤ a.natAbs ∧ 2 ^ 53 ≤ b.natAbs := by
  by_cases hab : a ≤ b
  · exact .inl hab
  · right
    have hone : (0 : Int) < one := by exact_mod_cast one_pos
    refine ⟨h.antisymm (nearestUnits_mono (by omega)), ?_, ?_⟩
    · by_contra ha
      have hb := nearestUnits_mono (show b ≤ a - 1 by omega)
      rw [nearestUnits_of_le (by omega : (a - 1).natAbs ≤ 2 ^ 53), Int.sub_mul] at hb
      rw [nearestUnits_of_le (by omega : a.natAbs ≤ 2 ^ 53)] at h
      omega
    · by_contra hb
      have ha := nearestUnits_mono (show b + 1 ≤ a by omega)
      rw [nearestUnits_of_le (by omega : (b + 1).natAbs ≤ 2 ^ 53), Int.add_mul] at ha
      rw [nearestUnits_of_le (by omega : b.natAbs ≤ 2 ^ 53)] at h
      omega

theorem ofInt_eq (n : Int) : ofInt n = ofUnits (n < 0) (rounded (n.natAbs * one)) := by
  rw [ofInt, ofQuotient, rounded]

theorem rounded_pos {n : Nat} (h : 2 ^ 53 ≤ n) : 0 < rounded (n * one) := by
  have hmono := rounded_mono (Nat.mul_le_mul_right one h)
  rw [rounded_mul_one le_rfl] at hmono
  have hone := one_pos
  omega

theorem ofInt_eq_of_nearestUnits_eq {a b : Int} (h : nearestUnits a = nearestUnits b)
    (ha : 2 ^ 53 ≤ a.natAbs) (hb : 2 ^ 53 ≤ b.natAbs) : ofInt a = ofInt b := by
  have hpa := rounded_pos ha
  have hpb := rounded_pos hb
  have hsame : (a < 0 ↔ b < 0) ∧ rounded (a.natAbs * one) = rounded (b.natAbs * one) := by
    simp only [nearestUnits, signedUnits, decide_eq_true_eq] at h
    split at h <;> split at h <;> omega
  rw [ofInt_eq, ofInt_eq, hsame.2, decide_eq_decide.2 hsame.1]

/-- Both zeros are nearest to zero. -/
def IsNearest (x : Binary64) (n : Int) : Prop :=
  ∃ s m, x = finite s m ∧ signedUnits s m = nearestUnits n

theorem IsNearest.le_iff {x y : Binary64} {a b : Int} (hx : IsNearest x a) (hy : IsNearest y b) :
    x.le y = true ↔ nearestUnits a ≤ nearestUnits b := by
  obtain ⟨s, m, rfl, hm⟩ := hx
  obtain ⟨t, n, rfl, hn⟩ := hy
  rw [← hm, ← hn, le, decide_eq_true_eq]

theorem ofUnits_of_lt {s : Bool} {m : Nat} (h : m < limit) : ofUnits s m = finite s m :=
  if_pos h

theorem isNearest_ofUnits {s : Bool} {m : Nat} {n : Int}
    (h : (ofUnits s m).isInfinite = false) (hm : signedUnits s m = nearestUnits n) :
    IsNearest (ofUnits s m) n := by
  by_cases hlt : m < limit
  · exact ⟨s, m, ofUnits_of_lt hlt, hm⟩
  · simp [ofUnits, hlt, isInfinite] at h

theorem isNearest_ofInt {n : Int} (h : (ofInt n).isInfinite = false) : IsNearest (ofInt n) n := by
  rw [ofInt_eq] at h ⊢
  exact isNearest_ofUnits h (by rw [nearestUnits])

/-- Integers of 64 bits are far from being too large. -/
theorem isInfinite_ofInt {n : Int} (h : n.natAbs ≤ 2 ^ 64) : (ofInt n).isInfinite = false := by
  have hlt : rounded (n.natAbs * one) < limit := by
    obtain ⟨k, m, hk, hlimit, hkm⟩ := exists_eq_two_pow
    have hle : n.natAbs * one ≤ 2 ^ (k + 64) := by
      rw [hk, Nat.add_comm k, Nat.pow_add]
      exact Nat.mul_le_mul_right _ h
    have hpow {j : Nat} (hj : k + 64 < j) : 2 ^ (k + 64) < 2 ^ j :=
      Nat.pow_lt_pow_right (by omega) hj
    have hexcess : excessBits (n.natAbs * one) ≤ k + 64 :=
      excessBits_le (hle.trans_lt (hpow (by omega)))
    rw [hlimit]
    exact (rounded_le_two_pow hle hexcess).trans_lt (hpow (by omega))
  rw [ofInt_eq, ofUnits_of_lt hlt, isInfinite]
  simp

section Digits
open Text

variable {negative : Bool} {digits : Nat}

/-- Whole digits are read as the integer that they are, unless there are far too many. -/
theorem ofDecimal_eq_ofInt (h0 : digits ≠ 0) (hlength : (Nat.toDigits 10 digits).length ≤ 400) :
    ofDecimal negative digits 0 = ofInt (Numeral.signed negative digits) := by
  have hsign : decide (Numeral.signed negative digits < 0) = negative := by
    cases negative <;> simp [Numeral.signed]
    omega
  have habs : (Numeral.signed negative digits).natAbs = digits := by
    cases negative <;> simp [Numeral.signed]
  have htop : ¬ (0 + (Nat.toDigits 10 digits).length : Int) > 400 := by omega
  have hbottom : ¬ (0 + (Nat.toDigits 10 digits).length : Int) < -400 := by omega
  simp only [ofDecimal, if_neg h0, if_neg htop, if_neg hbottom, ofInt, hsign, habs,
    Int.toNat_zero, Int.neg_zero, Nat.pow_eq, Nat.pow_zero, Nat.mul_one]

/-- The number that whole digits are read as, unless it is infinite. -/
theorem isNearest_ofDecimal (h : (ofDecimal negative digits 0).isInfinite = false) :
    IsNearest (ofDecimal negative digits 0) (Numeral.signed negative digits) := by
  by_cases h0 : digits = 0
  · subst h0
    have hsigned : Numeral.signed negative (0 : Nat) = 0 := by cases negative <;> rfl
    refine ⟨negative, 0, by simp only [ofDecimal, if_true], ?_⟩
    rw [hsigned, nearestUnits_of_le (by omega), Int.zero_mul, signedUnits]
    cases negative <;> rfl
  · by_cases hlength : (Nat.toDigits 10 digits).length ≤ 400
    · rw [ofDecimal_eq_ofInt h0 hlength] at h ⊢
      exact isNearest_ofInt h
    · have htop : (0 + (Nat.toDigits 10 digits).length : Int) > 400 := by omega
      simp only [ofDecimal, if_neg h0, if_pos htop, isInfinite] at h
      cases h

/-- The digits of an integer of 64 bits are read as a finite number. -/
theorem isInfinite_ofDecimal (negative : Bool) (h : digits ≤ 2 ^ 64) :
    (ofDecimal negative digits 0).isInfinite = false := by
  by_cases h0 : digits = 0
  · simp only [ofDecimal, if_pos h0, isInfinite]
  · have hlength := Numeral.length_toDigits_le h
    rw [ofDecimal_eq_ofInt h0 (by omega)]
    exact isInfinite_ofInt (by cases negative <;> simpa [Numeral.signed] using h)

end Digits

end Binary64
end YangSchema
