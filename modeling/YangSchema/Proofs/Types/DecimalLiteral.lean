import YangSchema.Proofs.Binary64.Distance
import YangSchema.Proofs.Types.IntegerLiteral

/-!
# Literals of decimal64

A decimal number is written by a sign, if any, and digits on both sides of a point. All of these
texts are read, and a number is written in this form with a fixed count of places.
-/
namespace YangSchema
namespace Codec
open Text Numeral Binary64

/-- A text writes a decimal number, with so many digits behind the point. -/
inductive WritesDecimal : List Char → Nat → ℚ → Prop where
  | intro {sign whole fraction : List Char} {negative : Bool} :
    IsSign sign negative → isNumeral whole = true → isNumeral fraction = true →
      WritesDecimal (sign ++ (whole ++ '.' :: fraction)) fraction.length
        ((signed negative (value (whole ++ fraction)) : ℤ) / 10 ^ fraction.length)

variable {sign whole fraction s : List Char} {negative : Bool} {places places' : Nat}
  {q q' : ℚ}

theorem takeWhile_isDigit_append (hw : isNumeral whole = true) :
    (whole ++ '.' :: fraction).takeWhile Char.isDigit = whole := by
  rw [List.takeWhile_append_of_pos (isNumeral_iff.1 hw).2, List.takeWhile_cons_of_neg (by decide),
    List.append_nil]

theorem dropWhile_isDigit_append (hw : isNumeral whole = true) :
    (whole ++ '.' :: fraction).dropWhile Char.isDigit = '.' :: fraction := by
  rw [List.dropWhile_append_of_pos (isNumeral_iff.1 hw).2, List.dropWhile_cons_of_neg (by decide)]

theorem splitSign_append_point (fraction : List Char) (hs : IsSign sign negative)
    (hw : isNumeral whole = true) :
    splitSign (sign ++ (whole ++ '.' :: fraction)) = (negative, whole ++ '.' :: fraction) := by
  obtain ⟨hne, hdigits⟩ := isNumeral_iff.1 hw
  obtain ⟨c, r, rfl⟩ := List.exists_cons_of_ne_nil hne
  exact splitSign_append_cons hs (hdigits c List.mem_cons_self)

/-- A text writes one number, in one way. -/
theorem WritesDecimal.unique (h : WritesDecimal s places q) (h' : WritesDecimal s places' q') :
    places = places' ∧ q = q' := by
  cases h with
  | @intro sign whole fraction negative hs hw hf =>
    generalize hs' : sign ++ (whole ++ '.' :: fraction) = s at h'
    cases h' with
    | @intro sign' whole' fraction' negative' hsign' hw' hf' =>
      have hsplit := splitSign_append_point fraction hs hw
      rw [hs', splitSign_append_point fraction' hsign' hw'] at hsplit
      obtain ⟨rfl, hrest⟩ := Prod.mk.inj hsplit
      have hwhole := congrArg (List.takeWhile Char.isDigit) hrest
      have hfraction := congrArg (List.dropWhile Char.isDigit) hrest
      rw [takeWhile_isDigit_append hw, takeWhile_isDigit_append hw'] at hwhole
      rw [dropWhile_isDigit_append hw, dropWhile_isDigit_append hw'] at hfraction
      obtain rfl := hwhole
      obtain rfl := List.tail_eq_of_cons_eq hfraction
      exact ⟨rfl, rfl⟩

theorem trimAscii_decimal (hs : IsSign sign negative) (hw : isNumeral whole = true)
    (hf : isNumeral fraction = true) :
    trimAscii (sign ++ (whole ++ '.' :: fraction)) = sign ++ (whole ++ '.' :: fraction) := by
  have hsolid : ∀ c ∈ sign ++ (whole ++ '.' :: fraction), isAsciiBlank c = false := by
    intro c hc
    simp only [List.mem_append, List.mem_cons] at hc
    obtain hc | hc | rfl | hc := hc
    · exact IsSign.solid hs c hc
    · exact isAsciiBlank_of_isDigit ((isNumeral_iff.1 hw).2 c hc)
    · decide
    · exact isAsciiBlank_of_isDigit ((isNumeral_iff.1 hf).2 c hc)
  have hnone : ∀ c ∈ ([] : List Char), isAsciiBlank c = true := by simp
  have htrim := trimBy_append hnone hnone (by simp) (hsolid _ (List.head_mem _))
    (hsolid _ (List.getLast_mem _))
  rwa [List.nil_append, List.append_nil] at htrim

theorem readDecimal?_append (hs : IsSign sign negative) (hw : isNumeral whole = true)
    (hf : isNumeral fraction = true) :
    readDecimal? (sign ++ (whole ++ '.' :: fraction)) =
      some (ofDecimal negative (value (whole ++ fraction)) (-fraction.length)) := by
  have hne := ne_nil_of_isNumeral hw
  simp only [readDecimal?, trimAscii_decimal hs hw hf, splitSign_append_point fraction hs hw,
    takeWhile_isDigit_append hw, dropWhile_isDigit_append hw, hf]
  simp [hne]

/-- With at least one place, a number is written as a decimal. -/
theorem writesDecimal_fixed (hplaces : 1 ≤ places) (negative : Bool) (units : Nat) :
    WritesDecimal (fixed places (finite negative units)).toList places
      ((signed negative (roundQuotient (units * 10 ^ places) one) : ℤ) / 10 ^ places) := by
  generalize hn : roundQuotient (units * 10 ^ places) one = n
  generalize hds : (Nat.toDigits 10 n).leftpad (places + 1) '0' = ds
  have hlength : places + 1 ≤ ds.length := by
    rw [← hds, List.length_leftpad]
    exact Nat.le_max_left ..
  have hdigits : ∀ c ∈ ds, c.isDigit = true := by
    rw [← hds]
    exact (isNumeral_iff.1 (isNumeral_leftpad _ (isNumeral_toDigits n))).2
  have hvalue : value ds = n := by rw [← hds, value_leftpad, value_toDigits]
  have hwhole : isNumeral (ds.take (ds.length - places)) = true := by
    refine isNumeral_iff.2 ⟨?_, fun c hc => hdigits c (List.mem_of_mem_take hc)⟩
    apply List.ne_nil_of_length_pos
    rw [List.length_take]
    omega
  have hdrop : (ds.drop (ds.length - places)).length = places := by
    rw [List.length_drop]
    omega
  have hfraction : isNumeral (ds.drop (ds.length - places)) = true :=
    isNumeral_iff.2 ⟨List.ne_nil_of_length_pos (by omega),
      fun c hc => hdigits c (List.mem_of_mem_drop hc)⟩
  have htext (sign : List Char) (hs : IsSign sign negative) :
      WritesDecimal (sign ++ (ds.take (ds.length - places) ++
        '.' :: ds.drop (ds.length - places))) places ((signed negative n : ℤ) / 10 ^ places) := by
    have hw := WritesDecimal.intro hs hwhole hfraction
    rwa [List.take_append_drop, hvalue, hdrop] at hw
  simp only [fixed, Nat.pow_eq, hn, hds, withSign, String.toList_ofList,
    if_neg (show places ≠ 0 by omega)]
  cases negative with
  | false => exact htext [] .none
  | true => exact htext ['-'] .minus

end Codec
end YangSchema
