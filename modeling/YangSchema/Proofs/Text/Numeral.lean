import Mathlib.Algebra.Group.Nat.Defs
import Mathlib.Data.List.Induction
import YangSchema.Text.Numeral

/-!
# Numerals and their numbers

A numeral is read as its number unless it has too many digits, and the numeral that a number is
written with is read as this number. With zeros in front it is the one row of digits of its length
and value.
-/
namespace YangSchema.Text.Numeral

variable {digits : List Char} {n : Nat}

theorem toNat_of_isDigit {c : Char} (h : c.isDigit = true) : 48 ≤ c.toNat ∧ c.toNat ≤ 57 := by
  simpa [Char.isDigit, Char.le_def, UInt32.le_iff_toNat_le] using h

theorem isNumeral_iff :
    isNumeral digits = true ↔ digits ≠ [] ∧ ∀ c ∈ digits, c.isDigit = true := by
  simp [isNumeral]

theorem ne_nil_of_isNumeral (h : isNumeral digits = true) : digits ≠ [] :=
  (isNumeral_iff.1 h).1

theorem ofDigits_eq (h : isNumeral digits = true) :
    ofDigits digits = if maxDigits < digits.length then .error (.tooLong digits.length)
      else .ok (value digits) := by
  rw [ofDigits, if_neg (by simp [ne_nil_of_isNumeral h])]

theorem value_toDigits (n : Nat) : value (Nat.toDigits 10 n) = n :=
  Nat.ofDigitChars_toDigits (by decide) (by decide)

theorem isNumeral_toDigits (n : Nat) : isNumeral (Nat.toDigits 10 n) = true :=
  isNumeral_iff.2 ⟨Nat.toDigits_ne_nil, fun _ hc =>
    Nat.isDigit_of_mem_toDigits (by decide) (by decide) hc⟩

/-- Twenty digits are enough for an integer of 64 bits. -/
theorem length_toDigits_le (h : n ≤ 2 ^ 64) : (Nat.toDigits 10 n).length ≤ 20 :=
  (Nat.length_toDigits_le_iff (by decide) (by decide)).2 (Nat.lt_of_le_of_lt h (by decide))

theorem value_replicate_append (k : Nat) (digits : List Char) :
    value (List.replicate k '0' ++ digits) = value digits := by
  induction k with
  | zero => rfl
  | succ k ih => exact ih

theorem value_leftpad (k : Nat) (digits : List Char) :
    value (digits.leftpad k '0') = value digits :=
  value_replicate_append _ digits

theorem isNumeral_leftpad (k : Nat) (hd : isNumeral digits = true) :
    isNumeral (digits.leftpad k '0') = true := by
  obtain ⟨hne, hdigits⟩ := isNumeral_iff.1 hd
  refine isNumeral_iff.2 ⟨by simp [List.leftpad, hne], fun c hc => ?_⟩
  rcases List.mem_append.1 hc with hc | hc
  · rw [List.eq_of_mem_replicate hc]
    rfl
  · exact hdigits c hc

theorem value_append_singleton (digits : List Char) (c : Char) :
    value (digits ++ [c]) = 10 * value digits + digitValue c :=
  Nat.ofDigitChars_append ..

theorem digitValue_bounds {c : Char} (h : c.isDigit = true) :
    digitValue c < 10 ∧ c.toNat = 48 + digitValue c := by
  have hc := toNat_of_isDigit h
  have hzero : '0'.toNat = 48 := rfl
  rw [digitValue, hzero]
  omega

/-- Rows of digits of one length are told apart by their values. -/
theorem eq_of_value_eq {digits' : List Char} (hlength : digits.length = digits'.length)
    (h : ∀ c ∈ digits, c.isDigit = true) (h' : ∀ c ∈ digits', c.isDigit = true)
    (hvalue : value digits = value digits') : digits = digits' := by
  induction digits using List.reverseRecOn generalizing digits' with
  | nil => exact (List.eq_nil_of_length_eq_zero hlength.symm).symm
  | append_singleton digits c ih =>
    induction digits' using List.reverseRecOn with
    | nil => simp at hlength
    | append_singleton digits' c' _ =>
      obtain ⟨hdigits, hc⟩ := List.forall_mem_append.1 h
      obtain ⟨hdigits', hc'⟩ := List.forall_mem_append.1 h'
      obtain ⟨hlast, hcode⟩ := digitValue_bounds (hc c (List.mem_singleton_self c))
      obtain ⟨hlast', hcode'⟩ := digitValue_bounds (hc' c' (List.mem_singleton_self c'))
      -- by ten, the last digits are the remainders and what is before them the quotients
      simp only [value_append_singleton] at hvalue
      simp only [List.length_append, List.length_singleton, Nat.add_right_cancel_iff] at hlength
      obtain rfl := ih hlength hdigits hdigits' (by omega)
      obtain rfl : c = c' := Char.toNat_inj.1 (by omega)
      rfl

structure IsFixed (width n : Nat) (digits : List Char) : Prop where
  length_eq : digits.length = width
  isDigit : ∀ c ∈ digits, c.isDigit = true
  value_eq : value digits = n

theorem IsFixed.valued {width : Nat} (h : IsFixed width n digits) :
    IsFixed width (value digits) digits :=
  ⟨h.length_eq, h.isDigit, rfl⟩

/-- One row of digits of each length has a value that is not too large: the number with zeros in
front. -/
theorem isFixed_iff_padded {width : Nat} (hw : 0 < width) (hn : n < 10 ^ width) :
    IsFixed width n digits ↔ digits = (padded width n).toList := by
  have hpadded : IsFixed width n (padded width n).toList := by
    rw [padded, String.toList_ofList]
    refine ⟨?_, (isNumeral_iff.1 (isNumeral_leftpad width (isNumeral_toDigits n))).2, ?_⟩
    · have hlength := (Nat.length_toDigits_le_iff (by decide) hw).2 hn
      rw [List.length_leftpad, Nat.max_eq_left hlength]
    · rw [value_leftpad, value_toDigits]
  constructor
  · intro h
    exact eq_of_value_eq (h.length_eq.trans hpadded.length_eq.symm) h.isDigit hpadded.isDigit
      (h.value_eq.trans hpadded.value_eq.symm)
  · rintro rfl
    exact hpadded

end YangSchema.Text.Numeral
