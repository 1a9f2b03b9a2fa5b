import YangSchema.Proofs.Types.DecimalLiteral

/-!
# Decimals read and written again

A decimal64 keeps its values as binary numbers. Every decimal with at most its places and at most 63
bits is read, and what is read is written with exactly its places. The number is the same wherever
the binary numbers lie no further apart than the decimals, and from there on it can differ.
-/
namespace YangSchema
open Text Numeral Binary64

namespace Codec

variable {d places n digits : Nat} {negative : Bool}

theorem decimalUnits_zero (d : Nat) : decimalUnits d 0 = 0 := by
  simp [decimalUnits, roundBits, roundQuotient]

theorem decimalUnits_mono (d : Nat) {m n : Nat} (h : m ≤ n) :
    decimalUnits d m ≤ decimalUnits d n :=
  roundBits_mono (by positivity) (Nat.mul_le_mul_right one h)

/-- No decimal of 63 bits is too large. -/
theorem decimalUnits_lt_limit (d : Nat) (hn : n ≤ 2 ^ 63) : decimalUnits d n < limit := by
  obtain ⟨k, m, hk, hm, hkm⟩ := exists_eq_two_pow
  have hten : 0 < 10 ^ d := by positivity
  have hunits : n * one ≤ 2 ^ (k + 63) := by
    rw [hk, Nat.add_comm, Nat.pow_add]
    exact Nat.mul_le_mul_right _ hn
  have hexcess : excessBits (n * one / 10 ^ d) ≤ k + 63 := by
    apply excessBits_le
    calc n * one / 10 ^ d ≤ n * one := Nat.div_le_self ..
      _ ≤ 2 ^ (k + 63) := hunits
      _ < 2 ^ (k + 63 + 53) := Nat.pow_lt_pow_right (by decide) (by omega)
  calc decimalUnits d n ≤ 2 ^ (k + 63) :=
        roundBits_le_two_pow hten (hunits.trans (Nat.le_mul_of_pos_right _ hten)) hexcess
    _ < 2 ^ m := Nat.pow_lt_pow_right (by decide) (by omega)
    _ = limit := hm.symm

/-- Digits with fewer places are read as those with zeros behind them. -/
theorem ofDecimal_eq (hplaces : places ≤ d) (hd : d ≤ 18)
    (hdigits : digits * 10 ^ (d - places) ≤ 2 ^ 63) :
    ofDecimal negative digits (-places) =
      finite negative (decimalUnits d (digits * 10 ^ (d - places))) := by
  by_cases h0 : digits = 0
  · rw [h0, Nat.zero_mul, decimalUnits_zero, ofDecimal, if_pos rfl]
  have hlength : (Nat.toDigits 10 digits).length ≤ 20 := by
    refine length_toDigits_le ?_
    calc digits ≤ digits * 10 ^ (d - places) := Nat.le_mul_of_pos_right _ (by positivity)
      _ ≤ 2 ^ 63 := hdigits
      _ ≤ 2 ^ 64 := by norm_num
  have hscale : roundBits (digits * one) (10 ^ places) =
      decimalUnits d (digits * 10 ^ (d - places)) := by
    unfold decimalUnits
    generalize one = o
    calc roundBits (digits * o) (10 ^ places)
        = roundBits (10 ^ (d - places) * (digits * o)) (10 ^ (d - places) * 10 ^ places) :=
          (roundBits_mul_mul (by positivity) _ _).symm
      _ = roundBits (digits * 10 ^ (d - places) * o) (10 ^ d) := by
          rw [← Nat.pow_add, Nat.sub_add_cancel hplaces, Nat.mul_left_comm, Nat.mul_assoc]
  have hexponent : (-(places : ℤ)).toNat = 0 := by omega
  simp only [ofDecimal, if_neg h0, if_neg (show ¬ -(places : ℤ) +
    (Nat.toDigits 10 digits).length > 400 by omega), if_neg (show ¬ -(places : ℤ) +
    (Nat.toDigits 10 digits).length < -400 by omega), hexponent, neg_neg, Int.toNat_natCast,
    Nat.pow_eq, Nat.pow_zero, Nat.mul_one, ofQuotient, hscale]
  exact ofUnits_of_lt (decimalUnits_lt_limit d hdigits)

theorem ofQuotient_limit (negative : Bool) (d : Nat) :
    ofQuotient negative (Nat.pow 2 63) (Nat.pow 10 d) =
      finite negative (decimalUnits d (2 ^ 63)) := by
  rw [ofQuotient, Nat.pow_eq, Nat.pow_eq, ← decimalUnits,
    ofUnits_of_lt (decimalUnits_lt_limit d le_rfl)]

/-- What is read of 63 bits is within the limits. -/
theorem within_limits (negative : Bool) (d : Nat) (hn : n ≤ 2 ^ 63) :
    ((DecimalScale.mk d).low.le (finite negative (decimalUnits d n)) &&
      (finite negative (decimalUnits d n)).le (DecimalScale.mk d).high) = true := by
  have hle := decimalUnits_mono d hn
  rw [DecimalScale.low, DecimalScale.high, ofQuotient_limit, ofQuotient_limit]
  generalize decimalUnits d n = m at hle
  generalize decimalUnits d (2 ^ 63) = M at hle
  cases negative <;> simp [le, signedUnits] <;> omega

theorem abs_signed_sub_signed (negative : Bool) (m n : Nat) :
    |(signed negative m : ℚ) - signed negative n| = |(m : ℚ) - n| := by
  cases negative with
  | false => rfl
  | true =>
    simp only [signed, if_true, Int.cast_neg, Int.cast_natCast]
    rw [neg_sub_neg, abs_sub_comm]

theorem abs_signed (negative : Bool) (n : Nat) : |(signed negative n : ℚ)| = n := by
  cases negative <;> simp [signed]

/-- The number of a literal, in units of the last of all places. -/
theorem exists_signed_of_writes {s : List Char} {q : ℚ} (h : WritesDecimal s places q)
    (hplaces : places ≤ d) (hd : d ≤ 18) (hq : |q| * 10 ^ d ≤ 2 ^ 63) :
    ∃ negative n, q = (signed negative n : ℤ) / 10 ^ d ∧ n ≤ 2 ^ 63 ∧
      readDecimal? s = some (finite negative (decimalUnits d n)) := by
  cases h with
  | @intro sign whole fraction negative hs hw hf =>
    rw [readDecimal?_append hs hw hf]
    generalize value (whole ++ fraction) = digits at hq ⊢
    generalize fraction.length = places at hplaces hq ⊢
    have hten : (0 : ℚ) < 10 ^ places := by positivity
    have hsplit : (10 : ℚ) ^ d = 10 ^ (d - places) * 10 ^ places := by
      rw [← pow_add, Nat.sub_add_cancel hplaces]
    have hscaled : ((signed negative digits : ℤ) / 10 ^ places : ℚ) =
        (signed negative (digits * 10 ^ (d - places)) : ℤ) / 10 ^ d := by
      have hsigned : (signed negative (digits * 10 ^ (d - places)) : ℤ) =
          signed negative digits * 10 ^ (d - places) := by
        cases negative <;> simp [signed]
      rw [hsigned, hsplit]
      push_cast
      field_simp
    have hn : digits * 10 ^ (d - places) ≤ 2 ^ 63 := by
      rw [hscaled, abs_div, abs_signed, abs_of_pos (by positivity), div_mul_cancel₀ _
        (by positivity)] at hq
      exact_mod_cast hq
    exact ⟨negative, _, hscaled, hn, by rw [ofDecimal_eq hplaces hd hn]⟩

/-- What a number of 63 bits is read and written as. -/
theorem exists_text_of_read (hd : 1 ≤ d) {text : String} (hn : n ≤ 2 ^ 63)
    (hread : readDecimal? text.toList = some (finite negative (decimalUnits d n))) :
    ∃ text', (decimal ⟨d⟩).parse text =
        .ok (some (.float (finite negative (decimalUnits d n)))) ∧
      (decimal ⟨d⟩).serialize (.float (finite negative (decimalUnits d n))) = some text' ∧
        WritesDecimal text'.toList d ((signed negative (writtenBack d n) : ℤ) / 10 ^ d) := by
  have hwithin := within_limits negative d hn
  refine ⟨_, ?_, ?_, writesDecimal_fixed hd negative (decimalUnits d n)⟩
  · rw [parse, hread, Option.bind_some, if_pos hwithin]
  · rw [serialize, if_pos hwithin]

end Codec

open Codec

/-- Every decimal of a decimal64 is read, and is written again with all of its places. It is off by
at most one part in `2^53` and half a unit of the last place. Below `2^52` such units it is the same
number, and so is every other one below a power of two at which the binary numbers lie no further
apart than the decimals. -/
theorem decimal_read_and_written {d places : Nat} {text : String} {q : ℚ} {n : ℤ} (hd : 1 ≤ d)
    (hd' : d ≤ 18) (hw : WritesDecimal text.toList places q) (hplaces : places ≤ d)
    (hn : q * 10 ^ d = n) (hlow : -2 ^ 63 ≤ n) (hhigh : n < 2 ^ 63) :
    ∃ x text' q', (decimal ⟨d⟩).parse text = .ok (some (.float x)) ∧
      (decimal ⟨d⟩).serialize (.float x) = some text' ∧ WritesDecimal text'.toList d q' ∧
        |q' - q| * 10 ^ d ≤ |q| * 10 ^ d / 2 ^ 53 + 1 / 2 ∧
          (|n| < 2 ^ 52 ∨ (∃ k : ℤ, |q| < 2 ^ k ∧ (2 : ℚ) ^ k * 10 ^ d ≤ 2 ^ 53) → q' = q) := by
  have hten : (0 : ℚ) < 10 ^ d := by positivity
  have hq : |q| * 10 ^ d = |n| := by
    rw [Int.cast_abs, ← hn, abs_mul, abs_of_pos hten]
  have hbound : |q| * 10 ^ d ≤ 2 ^ 63 := by
    rw [hq]
    exact_mod_cast (abs_le.2 ⟨hlow, hhigh.le⟩ : |n| ≤ 2 ^ 63)
  obtain ⟨negative, m, rfl, hm, hread⟩ := exists_signed_of_writes hw hplaces hd' hbound
  obtain ⟨text', hparse, hserialize, hwrites⟩ := exists_text_of_read hd hm hread
  have habs : (m : ℚ) = |n| := by
    rw [← hq, abs_div, abs_signed, abs_of_pos hten, div_mul_cancel₀ _ hten.ne']
  have hoff : |((signed negative (writtenBack d m) : ℤ) / 10 ^ d : ℚ) -
      (signed negative m : ℤ) / 10 ^ d| * 10 ^ d = |(writtenBack d m : ℚ) - m| := by
    rw [← sub_div, abs_div, abs_signed_sub_signed, abs_of_pos hten, div_mul_cancel₀ _ hten.ne']
  have hclose := abs_writtenBack_sub_le_div hd' m
  refine ⟨_, text', _, hparse, hserialize, hwrites, ?_, ?_⟩
  · rw [hoff, hq, ← habs]
    exact hclose
  · intro hsmall
    have hsame : writtenBack d m = m := by
      obtain hsmall | ⟨k, hk, hpow⟩ := hsmall
      · have hlt : (m : ℚ) < 2 ^ 52 := by
          rw [habs]
          exact_mod_cast hsmall
        exact writtenBack_eq_of_lt (by linarith)
      · rw [abs_div, abs_signed, abs_of_pos hten] at hk
        exact writtenBack_eq_of_step hd (mul_decimalStep_le_one hd' hk hpow)
    rw [hsame]

/-- The last decimal of two places below `2^46`, around which the binary numbers lie `2^-7` apart.
-/
theorem decimal_read_and_written_below_step : ∃ x text',
    (decimal ⟨2⟩).parse "-70368744177663.99" = .ok (some (.float x)) ∧
      (decimal ⟨2⟩).serialize (.float x) = some text' ∧
        WritesDecimal text'.toList 2 ((-7036874417766399 : ℤ) / 10 ^ 2) := by
  have hw : WritesDecimal "-70368744177663.99".toList 2 ((-7036874417766399 : ℤ) / 10 ^ 2) :=
    @WritesDecimal.intro ['-'] "70368744177663".toList ['9', '9'] true .minus (by decide)
      (by decide)
  obtain ⟨x, text', q', hparse, hserialize, hwrites, -, hsame⟩ :=
    decimal_read_and_written (n := -7036874417766399) (by decide) (by decide) hw le_rfl
      (by norm_num) (by norm_num) (by norm_num)
  have hstep : ∃ k : ℤ, |((-7036874417766399 : ℤ) / 10 ^ 2 : ℚ)| < 2 ^ k ∧
      (2 : ℚ) ^ k * 10 ^ 2 ≤ 2 ^ 53 := by
    refine ⟨46, ?_, by norm_num⟩
    rw [abs_lt]
    constructor <;> norm_num
  obtain rfl := hsame (.inr hstep)
  exact ⟨x, text', hparse, hserialize, hwrites⟩

/-- From `2^46` on the binary numbers lie further apart than the decimals of two places, and the
first decimal there is written as the second. -/
theorem not_decimal_kept :
    ¬ ∀ (d places : Nat) (text : String) (q : ℚ) (n : ℤ), 1 ≤ d → d ≤ 18 →
      WritesDecimal text.toList places q → places ≤ d → q * 10 ^ d = n → -2 ^ 63 ≤ n →
        n < 2 ^ 63 → ∃ x text', (decimal ⟨d⟩).parse text = .ok (some (.float x)) ∧
          (decimal ⟨d⟩).serialize (.float x) = some text' ∧ WritesDecimal text'.toList d q := by
  intro hall
  have hw : WritesDecimal "70368744177664.01".toList 2 ((7036874417766401 : ℤ) / 10 ^ 2) :=
    @WritesDecimal.intro [] "70368744177664".toList ['0', '1'] false .none (by decide) (by decide)
  have hother : WritesDecimal "70368744177664.02".toList 2 ((7036874417766402 : ℤ) / 10 ^ 2) :=
    @WritesDecimal.intro [] "70368744177664".toList ['0', '2'] false .none (by decide) (by decide)
  have hrun : ((decimal ⟨2⟩).parse "70368744177664.01").toOption.bind
      (fun v => v.bind (decimal ⟨2⟩).serialize) = some "70368744177664.02" := by
    decide +kernel
  obtain ⟨x, text', hparse, hserialize, hsame⟩ := hall 2 2 _ _ 7036874417766401 (by decide)
    (by decide) hw le_rfl (by norm_num) (by norm_num) (by norm_num)
  simp only [hparse, Except.toOption, Option.bind_some, hserialize] at hrun
  obtain rfl := Option.some.inj hrun
  have hequal := (hsame.unique hother).2
  norm_num at hequal

end YangSchema
