import YangSchema.Proofs.Text.Numeral
import YangSchema.Proofs.Text.Trim
import YangSchema.Types.Codec

/-!
# Literals of integer types

An integer is written by digits with a sign before them, if any, and ASCII white space around. Such
a text is read as its integer if this is within the limits of the type; all other texts are no
literals. A row of digits that is too long is not even compared with the limits: leading zeros
count, and it is refused with its length.
-/
namespace YangSchema

namespace Text.Numeral

/-- What may stand before digits, and whether it makes their number negative. -/
inductive IsSign : List Char → Bool → Prop where
  | none : IsSign [] false
  | plus : IsSign ['+'] false
  | minus : IsSign ['-'] true

variable {sign digits s : List Char} {negative : Bool}

theorem splitSign_append_cons {c : Char} (hs : IsSign sign negative) (hc : c.isDigit = true) :
    splitSign (sign ++ c :: s) = (negative, c :: s) := by
  cases hs with
  | none =>
    rw [List.nil_append]
    unfold splitSign
    split
    · next heq =>
      cases heq
      exact absurd hc (by decide)
    · next heq =>
      cases heq
      exact absurd hc (by decide)
    · rfl
  | plus => rfl
  | minus => rfl

theorem splitSign_append (hs : IsSign sign negative) (hd : ∀ c ∈ digits, c.isDigit = true) :
    splitSign (sign ++ digits) = (negative, digits) := by
  cases digits with
  | nil => cases hs <;> rfl
  | cons c r => exact splitSign_append_cons hs (hd c List.mem_cons_self)

theorem exists_sign_of_splitSign (h : splitSign s = (negative, digits)) :
    ∃ sign, IsSign sign negative ∧ s = sign ++ digits := by
  unfold splitSign at h
  split at h <;> cases h
  · exact ⟨_, .plus, rfl⟩
  · exact ⟨_, .minus, rfl⟩
  · exact ⟨_, .none, rfl⟩

theorem toList_toString_natCast (n : Nat) : (toString (n : Int)).toList = Nat.toDigits 10 n := by
  change (Nat.repr n).toList = _
  rw [Nat.repr_eq_ofList_toDigits, String.toList_ofList]

/-- An integer is written with its digits, and with a sign if it is negative. -/
theorem exists_sign_toString (n : Int) : ∃ sign negative, IsSign sign negative ∧
    (toString n).toList = sign ++ Nat.toDigits 10 n.natAbs ∧ signed negative n.natAbs = n := by
  cases n with
  | ofNat m => exact ⟨[], false, .none, toList_toString_natCast m, rfl⟩
  | negSucc m =>
    refine ⟨['-'], true, .minus, ?_, rfl⟩
    change ("-" ++ Nat.repr (m + 1)).toList = _
    simp only [String.toList_append, Nat.repr_eq_ofList_toDigits, String.toList_ofList]
    rfl

/-- A character that is neither a sign nor a digit is not among signs and digits. -/
theorem notMem_sign_append {c : Char} (hc : c.isDigit = false) (hp : c ≠ '+') (hm : c ≠ '-')
    (hs : IsSign sign negative) (hd : isNumeral digits = true) : c ∉ sign ++ digits := by
  rw [List.mem_append, not_or]
  constructor
  · cases hs <;> simp [hp, hm]
  · intro hmem
    rw [(isNumeral_iff.1 hd).2 c hmem] at hc
    cases hc

end Text.Numeral

namespace Codec
open Text Numeral Binary64

/-- A text writes an integer by a row of digits. -/
inductive WritesInteger : List Char → List Char → Int → Prop where
  | intro {before sign digits after : List Char} {negative : Bool} :
    (∀ c ∈ before, isAsciiBlank c = true) → IsSign sign negative →
      digits ≠ [] → (∀ c ∈ digits, c.isDigit = true) →
      (∀ c ∈ after, isAsciiBlank c = true) →
        WritesInteger (before ++ (sign ++ digits) ++ after) digits (signed negative (value digits))

variable {s digits : List Char} {n : Int} {limits : IntegerLimits} {text : String}

/-- White space around is not needed. -/
theorem writesInteger_append {sign : List Char} {negative : Bool} (hs : IsSign sign negative)
    (hn : isNumeral digits = true) :
    WritesInteger (sign ++ digits) digits (signed negative (value digits)) := by
  obtain ⟨hne, hdigits⟩ := isNumeral_iff.1 hn
  simpa using @WritesInteger.intro [] sign digits [] negative (by simp) hs hne hdigits (by simp)

theorem isAsciiBlank_of_isDigit {c : Char} (h : c.isDigit = true) : isAsciiBlank c = false := by
  have hc := toNat_of_isDigit h
  have hspace : c ≠ ' ' := by
    rintro rfl
    exact absurd hc (by decide)
  simp [isAsciiBlank, hspace]
  omega

theorem IsSign.solid {sign : List Char} {negative : Bool} (h : IsSign sign negative) :
    ∀ c ∈ sign, isAsciiBlank c = false := by
  cases h <;> simp [isAsciiBlank]

theorem readInteger_of_writes (h : WritesInteger s digits n) :
    readInteger s = some (if maxDigits < digits.length then .error (.tooLong digits.length)
      else .ok n) := by
  cases h with
  | @intro before sign _ after negative hb hs hne hd ha =>
    have hsolid : ∀ c ∈ sign ++ digits, isAsciiBlank c = false := fun c hc =>
      (List.mem_append.1 hc).elim (IsSign.solid hs c) fun hc => isAsciiBlank_of_isDigit (hd c hc)
    have htrim : trimAscii (before ++ (sign ++ digits) ++ after) = sign ++ digits :=
      trimBy_append hb ha (by simp [hne]) (hsolid _ (List.head_mem _))
        (hsolid _ (List.getLast_mem _))
    have hn := isNumeral_iff.2 ⟨hne, hd⟩
    simp only [readInteger, htrim, splitSign_append hs hd, hn, if_true, ofDigits_eq hn]
    split <;> rfl

theorem exists_writes_of_readInteger {r : Except Numeral.Fault Int} (h : readInteger s = some r) :
    ∃ digits n, WritesInteger s digits n := by
  obtain ⟨before, after, hb, ha, htext⟩ := exists_eq_append_trimBy isAsciiBlank s
  cases hsplit : splitSign (trimAscii s) with
  | mk negative digits =>
    obtain ⟨sign, hs, htrim⟩ := exists_sign_of_splitSign hsplit
    change trimBy isAsciiBlank s = sign ++ digits at htrim
    rw [htrim] at htext
    simp only [readInteger, hsplit] at h
    split at h
    · next hn =>
      obtain ⟨hne, hd⟩ := isNumeral_iff.1 hn
      rw [htext]
      exact ⟨digits, _, .intro hb hs hne hd ha⟩
    · cases h

/-- A written integer is read if its digits are not too many, and is a literal if it is within the
limits. -/
theorem parse_of_writes (h : WritesInteger text.toList digits n) :
    (integer limits).parse text =
      if maxDigits < digits.length then .error (.tooLong digits.length)
      else .ok (if limits.low ≤ n ∧ n ≤ limits.high then some (.int n) else none) := by
  rw [parse, readInteger_of_writes h]
  by_cases hlong : maxDigits < digits.length
  · simp only [if_pos hlong]
  · simp only [if_neg hlong]

theorem parse_of_not_writes (h : ¬ ∃ digits n, WritesInteger text.toList digits n) :
    (integer limits).parse text = .ok none := by
  cases hr : readInteger text.toList with
  | none => rw [parse, hr]
  | some r => exact absurd (exists_writes_of_readInteger hr) h

theorem exists_writes_of_parse {r : Except Numeral.Fault (Option Value)}
    (h : (integer limits).parse text = r) (hr : r ≠ .ok none) :
    ∃ digits n, WritesInteger text.toList digits n := by
  by_contra hnot
  rw [parse_of_not_writes hnot] at h
  exact hr h.symm

theorem parse_integer_eq_some_iff {v : Value} :
    (integer limits).parse text = .ok (some v) ↔ ∃ digits n, WritesInteger text.toList digits n ∧
      digits.length ≤ maxDigits ∧ limits.low ≤ n ∧ n ≤ limits.high ∧ v = .int n := by
  constructor
  · intro h
    obtain ⟨digits, n, hw⟩ := exists_writes_of_parse h (by simp)
    rw [parse_of_writes hw] at h
    split at h
    · cases h
    · next hlong =>
      obtain ⟨⟨hlow, hhigh⟩, rfl⟩ : (limits.low ≤ n ∧ n ≤ limits.high) ∧ .int n = v := by
        simpa using h
      exact ⟨digits, n, hw, Nat.le_of_not_lt hlong, hlow, hhigh, rfl⟩
  · rintro ⟨digits, n, hw, hshort, hlow, hhigh, rfl⟩
    rw [parse_of_writes hw, if_neg (Nat.not_lt.2 hshort), if_pos ⟨hlow, hhigh⟩]

theorem parse_integer_eq_none_iff :
    (integer limits).parse text = .ok none ↔ ∀ digits n, WritesInteger text.toList digits n →
      digits.length ≤ maxDigits ∧ ¬ (limits.low ≤ n ∧ n ≤ limits.high) := by
  constructor
  · intro h digits n hw
    rw [parse_of_writes hw] at h
    split at h
    · cases h
    · next hlong => exact ⟨Nat.le_of_not_lt hlong, by simpa using h⟩
  · intro h
    by_cases hw : ∃ digits n, WritesInteger text.toList digits n
    · obtain ⟨digits, n, hw⟩ := hw
      obtain ⟨hshort, hout⟩ := h digits n hw
      rw [parse_of_writes hw, if_neg (Nat.not_lt.2 hshort), if_neg hout]
    · exact parse_of_not_writes hw

theorem parse_integer_eq_error_iff {f : Numeral.Fault} :
    (integer limits).parse text = .error f ↔ ∃ digits n, WritesInteger text.toList digits n ∧
      maxDigits < digits.length ∧ f = .tooLong digits.length := by
  constructor
  · intro h
    obtain ⟨digits, n, hw⟩ := exists_writes_of_parse h (by simp)
    rw [parse_of_writes hw] at h
    split at h
    · next hlong =>
      cases h
      exact ⟨digits, n, hw, hlong, rfl⟩
    · cases h
  · rintro ⟨digits, n, hw, hlong, rfl⟩
    rw [parse_of_writes hw, if_pos hlong]

end Codec

namespace Primitive

variable {p : Primitive} {limits : IntegerLimits}

theorem codec?_of_limits (hp : p.limits? = some limits) : p.codec? = some (.integer limits) := by
  cases p <;> first | cases hp; rfl | cases hp

theorem limits_bounds (hp : p.limits? = some limits) :
    limits.low ≤ limits.high ∧ limits.low.natAbs ≤ 2 ^ 64 ∧ limits.high.natAbs ≤ 2 ^ 64 := by
  cases p <;> cases hp <;> decide

end Primitive

open Codec Text Numeral

/-- What an integer type reads of every text: an integer that is written and within the limits, or
the fault of digits that are too many, or nothing. -/
theorem parse_integer {p : Primitive} {limits : IntegerLimits} {c : Codec}
    (hp : p.limits? = some limits) (hc : p.codec? = some c) (text : String) :
    (∀ v, c.parse text = .ok (some v) ↔ ∃ digits n, WritesInteger text.toList digits n ∧
        digits.length ≤ maxDigits ∧ limits.low ≤ n ∧ n ≤ limits.high ∧ v = .int n) ∧
      (c.parse text = .ok none ↔ ∀ digits n, WritesInteger text.toList digits n →
        digits.length ≤ maxDigits ∧ ¬ (limits.low ≤ n ∧ n ≤ limits.high)) ∧
      ∀ f, c.parse text = .error f ↔ ∃ digits n, WritesInteger text.toList digits n ∧
        maxDigits < digits.length ∧ f = .tooLong digits.length := by
  obtain rfl : Codec.integer limits = c :=
    Option.some.inj ((Primitive.codec?_of_limits hp).symm.trans hc)
  exact ⟨fun _ => parse_integer_eq_some_iff, parse_integer_eq_none_iff,
    fun _ => parse_integer_eq_error_iff⟩

/-- Zeros in front of a number can make it too long, white space and a sign cannot. -/
theorem parse_integer_padded :
    (Codec.integer (.signed 8)).parse "\t+007 " = .ok (some (.int 7)) ∧
      (Codec.integer (.signed 8)).parse (String.ofList (List.replicate 4301 '0')) =
        .error (.tooLong 4301) := by
  constructor
  · have hw : WritesInteger (['\t'] ++ (['+'] ++ ['0', '0', '7']) ++ [' ']) ['0', '0', '7'] 7 :=
      .intro (List.all_eq_true.1 (by decide)) .plus (by decide) (List.all_eq_true.1 (by decide))
        (List.all_eq_true.1 (by decide))
    exact ((parse_integer (p := .int8) rfl rfl _).1 _).2
      ⟨_, 7, hw, by decide, by decide, by decide, rfl⟩
  · have hzeros (k : Nat) (hk : k ≠ 0) : isNumeral (List.replicate k '0') = true := by
      refine isNumeral_iff.2 ⟨by simpa using hk, fun c hc => ?_⟩
      rw [List.eq_of_mem_replicate hc]
      rfl
    have hw (k : Nat) (hk : k ≠ 0) :
        WritesInteger (String.ofList (List.replicate k '0')).toList (List.replicate k '0')
          (signed false (value (List.replicate k '0'))) := by
      rw [String.toList_ofList]
      exact writesInteger_append .none (hzeros k hk)
    refine ((parse_integer (p := .int8) rfl rfl _).2.2 _).2 ⟨_, _, hw 4301 (by decide), ?_, ?_⟩
    · rw [List.length_replicate]
      decide
    · rw [List.length_replicate]

end YangSchema
