import YangSchema.Proofs.Argument.IntervalText
import YangSchema.Proofs.Argument.WrittenLength
import YangSchema.Proofs.Binary64.WholeNumber
import YangSchema.Proofs.Restriction.IntegerRange

/-!
# Texts of restrictions

What a length or a range is written as behind its keyword is an argument that is read as the same
intervals. The bounds of a range on an integer type are written as the integers that they were
rounded to, which may lie beyond the limits of the type but not beyond these limits as they are
rounded.
-/
namespace YangSchema
namespace Argument
open Text Numeral Binary64

variable {text : String} {is : List (Interval Int)} {token digits sign : List Char} {n : Int}
  {negative wholeOnly : Bool} {lower upper x : Binary64} {limits : IntegerLimits}

theorem lengthBound_toString {k : Nat} (h : k < 2 ^ 64) :
    lengthBound text (toString (k : Int)).toList = .ok k := by
  obtain ⟨hne, hdigits⟩ := isNumeral_iff.1 (isNumeral_toDigits k)
  have hlength := length_toDigits_le h.le
  have hwritten := IsLength.numeral hne hdigits (by rwa [value_toDigits])
  rw [value_toDigits] at hwritten
  have hshort : ¬ LongNumeral (Nat.toDigits 10 k) := by
    rintro ⟨-, hlong⟩
    rw [maxDigits] at hlong
    omega
  rw [toList_toString_natCast]
  exact lengthBound_eq_ok_iff.2 ⟨hwritten, hshort⟩

theorem bar_notMem_toString (n : Int) : '|' ∉ (toString n).toList := by
  obtain ⟨sign, negative, hs, htext, -⟩ := exists_sign_toString n
  rw [htext]
  exact notMem_sign_append (by decide) (by decide) (by decide) hs (isNumeral_toDigits _)

theorem readsBack_lengthBound (h : IsLength token n) : ReadsBack (lengthBound text) n := by
  obtain ⟨k, rfl, hk⟩ := h.exists_natCast
  refine ⟨bar_notMem_toString k, k, lengthBound_toString hk, ?_⟩
  simp [Bound.Same, Bound.le]

theorem boundText_of_digits (hs : IsSign sign negative) (hd : isNumeral digits = true) :
    BoundText.of? (sign ++ digits) = some ⟨negative, digits, none⟩ := by
  obtain ⟨hne, hdigits⟩ := isNumeral_iff.1 hd
  obtain ⟨c, r, rfl⟩ := List.exists_cons_of_ne_nil hne
  simp only [BoundText.of?, splitSign_append hs hdigits, List.takeWhile_eq_self_iff.2 hdigits,
    List.dropWhile_eq_nil_iff.2 hdigits]

/-- A sign and digits are read as their number, if it is between the limits. -/
theorem rangeBound_of_digits (hs : IsSign sign negative) (hd : isNumeral digits = true)
    (hx : ofDecimal negative (value digits) 0 = x) (hlow : lower.le x = true)
    (hhigh : x.le upper = true) :
    rangeBound text lower upper wholeOnly (sign ++ digits) = .ok x := by
  have hm := notMem_sign_append (c := 'm') (by decide) (by decide) (by decide) hs hd
  have hmin : sign ++ digits ≠ minKeyword := fun heq => hm (heq ▸ by decide)
  have hmax : sign ++ digits ≠ maxKeyword := fun heq => hm (heq ▸ by decide)
  have hvalue : BoundText.value ⟨negative, digits, none⟩ = x := by
    simpa [BoundText.value] using hx
  rw [rangeBound, if_neg hmin, if_neg hmax, boundText_of_digits hs hd]
  simp [hvalue, hlow, hhigh]

/-- The bound of a range is written as the integer that it is, and read back as the same number. -/
theorem readsBack_rangeBound (hlow : IsNearest lower limits.low)
    (hhigh : IsNearest upper limits.high) (hl : limits.low.natAbs ≤ 2 ^ 64)
    (hh : limits.high.natAbs ≤ 2 ^ 64) (h : BoundOf limits token x n) :
    ReadsBack (rangeBound text lower upper wholeOnly) x := by
  obtain ⟨v, hv, hunits, hsame⟩ := h.nearest.exists_toInt?
  obtain ⟨sign, negative, hs, htext, hsigned⟩ := exists_sign_toString v
  have hbrief : Bound.brief x = toString v := by
    simp only [Bound.brief, hv]
  have hle : v.natAbs ≤ 2 ^ 64 := natAbs_le_of_between hl hh (hunits ▸ h.low) (hunits ▸ h.high)
  have hread : IsNearest (ofDecimal negative v.natAbs 0) v := by
    have hnearest := isNearest_ofDecimal (isInfinite_ofDecimal negative hle)
    rwa [hsigned] at hnearest
  refine ⟨?_, ofDecimal negative v.natAbs 0, ?_, ?_, ?_⟩
  · rw [hbrief]
    exact bar_notMem_toString v
  · rw [hbrief, htext]
    refine rangeBound_of_digits hs (isNumeral_toDigits _) (by rw [value_toDigits]) ?_ ?_
    -- the limits are rounded as the bound was, so it is still between them
    · exact (hlow.le_iff hread).2 (hsame ▸ h.low)
    · exact (hread.le_iff hhigh).2 (hsame ▸ h.high)
  · exact (h.nearest.le_iff hread).2 hsame.ge
  · exact (hread.le_iff h.nearest).2 hsame.le

theorem eq_of_same {i j : Interval Int} (h : i.Same j) : i = j := by
  obtain ⟨low, high, _⟩ := i
  obtain ⟨low', high', _⟩ := j
  simp only [Interval.Same, Bound.Same, Bound.le, decide_eq_true_eq] at h
  obtain rfl : low = low' := by omega
  obtain rfl : high = high' := by omega
  rfl

/-- The text of the intervals of a length is read as these intervals. -/
theorem length_intervalsText (h : length text = .ok is) : length (intervalsText is) = .ok is := by
  have hback : ∀ i ∈ is, ReadsBack (lengthBound (intervalsText is)) i.low ∧
      ReadsBack (lengthBound (intervalsText is)) i.high := by
    intro i hi
    obtain ⟨⟨_, hlow⟩, _, hhigh⟩ := bounds_of_readParts h hi
    exact ⟨readsBack_lengthBound (lengthBound_eq_ok_iff.1 hlow).1,
      readsBack_lengthBound (lengthBound_eq_ok_iff.1 hhigh).1⟩
  obtain ⟨js, hjs, hsame⟩ : ∃ js, length (intervalsText is) = .ok js ∧
      List.Forall₂ Interval.Same is js :=
    readParts_intervalsText isToken_of_lengthBound (ne_nil_of_readParts h)
      (readParts_eq_ok_iff.1 h).2 hback
  have heq := hsame.imp fun _ _ => eq_of_same
  rw [List.forall₂_eq_eq_eq] at heq
  rw [hjs, heq]

/-- The text of the intervals of a range on an integer type is read as the same intervals. -/
theorem exists_range_intervalsText {is : List (Interval Binary64)} (hle : limits.low ≤ limits.high)
    (hl : limits.low.natAbs ≤ 2 ^ 64) (hh : limits.high.natAbs ≤ 2 ^ 64)
    (h : range text (ofInt limits.low) (ofInt limits.high) true = .ok is) :
    ∃ js, range (intervalsText is) (ofInt limits.low) (ofInt limits.high) true = .ok js ∧
      List.Forall₂ Interval.Same is js := by
  have hlow := isNearest_ofInt (isInfinite_ofInt hl)
  have hhigh := isNearest_ofInt (isInfinite_ofInt hh)
  have hback {token : List Char} {x : Binary64}
      (hx : rangeBound text (ofInt limits.low) (ofInt limits.high) true token = .ok x) :
      ReadsBack (rangeBound (intervalsText is) (ofInt limits.low) (ofInt limits.high) true) x :=
    have ⟨_, hn⟩ := boundOf_of_rangeBound hle hlow hhigh hx
    readsBack_rangeBound hlow hhigh hl hh hn
  refine readParts_intervalsText (fun _ _ => isToken_of_rangeBound hle hlow hhigh)
    (ne_nil_of_readParts h) (readParts_eq_ok_iff.1 h).2 fun i hi => ?_
  obtain ⟨⟨_, hi₁⟩, _, hi₂⟩ := bounds_of_readParts h hi
  exact ⟨hback hi₁, hback hi₂⟩

end Argument

open Argument Binary64

/-- Behind its keyword, the text of a restriction by lengths, or by ranges on an integer type, is an
argument for the same restriction. -/
theorem reads_restriction_text :
    (∀ text is, length text = .ok is → ∃ c, Condition.ofLengths is = .ok c ∧
      ∀ notes, ∃ written, (Restriction.mk c notes).text = "length " ++ written ∧
        length written = .ok is) ∧
    ∀ (p : Primitive) limits text is, p.limits? = some limits →
      range text (ofInt limits.low) (ofInt limits.high) true = .ok is →
        ∃ c, Condition.ofRanges is = .ok c ∧
          ∀ notes, ∃ written, (Restriction.mk c notes).text = "range " ++ written ∧
            ∃ js, range written (ofInt limits.low) (ofInt limits.high) true = .ok js ∧
              List.Forall₂ Interval.Same is js := by
  constructor
  · intro text is h
    exact ⟨.length is, ofLengths_of_length h, fun _ => ⟨_, rfl, length_intervalsText h⟩⟩
  · intro p limits text is hp h
    obtain ⟨hle, hl, hh⟩ := Primitive.limits_bounds hp
    have hranges : Condition.ofRanges is = .ok (.range is) := by
      rw [Condition.ofRanges, if_neg (by simpa using ne_nil_of_readParts h)]
    exact ⟨.range is, hranges, fun _ => ⟨_, rfl, exists_range_intervalsText hle hl hh h⟩⟩

theorem exists_of_condition_text {α : Type} {x : Argument α} {t : String}
    {f : α → Except RestrictionFault Condition}
    (h : (x.toOption.bind fun a => (f a).toOption.map Condition.text) = some t) :
    ∃ a c, x = .ok a ∧ f a = .ok c ∧ c.text = t := by
  obtain ⟨a, ha, h⟩ := Option.bind_eq_some_iff.1 h
  obtain ⟨c, hc, htext⟩ := Option.map_eq_some_iff.1 h
  exact ⟨a, c, toOption_eq_some.1 ha, toOption_eq_some.1 hc, htext⟩

/-- A zero loses its sign, and the greatest integer of 64 bits is written as the power of two that
it is rounded to. -/
theorem reads_restriction_text_of_limits :
    (∃ is c, length "4|7 .. max" = .ok is ∧ Condition.ofLengths is = .ok c ∧
      (Restriction.mk c {}).text = "length 4 | 7..18446744073709551615" ∧
        length "4 | 7..18446744073709551615" = .ok is) ∧
    ∃ is c js, range " -0 |1..max" (ofInt 0) (ofInt (2 ^ 64 - 1)) true = .ok is ∧
      Condition.ofRanges is = .ok c ∧
        (Restriction.mk c {}).text = "range 0 | 1..18446744073709551616" ∧
          range "0 | 1..18446744073709551616" (ofInt 0) (ofInt (2 ^ 64 - 1)) true = .ok js ∧
            List.Forall₂ Interval.Same is js := by
  constructor
  · obtain ⟨is, c, his, hc, htext⟩ : ∃ is c, length "4|7 .. max" = .ok is ∧
        Condition.ofLengths is = .ok c ∧ c.text = "length 4 | 7..18446744073709551615" :=
      exists_of_condition_text (by decide +kernel)
    obtain ⟨c', hc', hreads⟩ := reads_restriction_text.1 _ is his
    obtain rfl : c' = c := Except.ok.inj (hc'.symm.trans hc)
    obtain ⟨written, hwritten, hread⟩ := hreads {}
    obtain rfl : written = "4 | 7..18446744073709551615" :=
      (String.append_right_inj _).1 (hwritten.symm.trans (htext.trans (by decide)))
    exact ⟨is, c', his, hc, htext, hread⟩
  · obtain ⟨is, c, his, hc, htext⟩ : ∃ is c,
        range " -0 |1..max" (ofInt 0) (ofInt (2 ^ 64 - 1)) true = .ok is ∧
          Condition.ofRanges is = .ok c ∧ c.text = "range 0 | 1..18446744073709551616" :=
      exists_of_condition_text (by decide +kernel)
    obtain ⟨c', hc', hreads⟩ := reads_restriction_text.2 .uint64 _ _ is rfl his
    obtain rfl : c' = c := Except.ok.inj (hc'.symm.trans hc)
    obtain ⟨written, hwritten, js, hread, hsame⟩ := hreads {}
    obtain rfl : written = "0 | 1..18446744073709551616" :=
      (String.append_right_inj _).1 (hwritten.symm.trans (htext.trans (by decide)))
    exact ⟨is, c', js, his, hc, htext, hread, hsame⟩

end YangSchema
