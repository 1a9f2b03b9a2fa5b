import YangSchema.Proofs.Binary64.Order
import YangSchema.Proofs.Restriction.IntegerRange

/-!
# Ranges admit what they write

The intervals of a range lie within the limits of its base type and ascend without touching. On an
integer type both the bounds and the values are rounded, but rounding keeps their order: an integer
that a part writes is never refused.
-/
namespace YangSchema
namespace Argument
open Binary64

variable {text : String} {lower upper x : Binary64} {wholeOnly : Bool} {token : List Char}
  {is : List (Interval Binary64)} {limits : IntegerLimits}

/-- Intervals between limits, each above the one before it. -/
structure Orderly (lower upper : Binary64) (is : List (Interval Binary64)) : Prop where
  nonempty : is ≠ []
  ordered : ∀ i ∈ is, i.low.le i.high = true
  within : ∀ i ∈ is, ∀ x ∈ [i.low, i.high], lower.le x = true ∧ x.le upper = true
  ascending : is.Pairwise fun a b => a.high.lt b.low = true

theorem within_of_rangeBound (hle : lower.le upper = true)
    (h : rangeBound text lower upper wholeOnly token = .ok x) :
    lower.le x = true ∧ x.le upper = true := by
  unfold rangeBound at h
  split at h
  · cases h
    exact ⟨le_self_left hle, hle⟩
  · split at h
    · cases h
      exact ⟨hle, le_self_right hle⟩
    · split at h
      · cases h
      · split at h
        · cases h
        · split at h
          · next hin =>
            cases h
            simpa using hin
          · cases h

/-- Where each interval starts above the end of the one before, it starts above the ends of all
before. -/
theorem pairwise_of_isAscending (hordered : ∀ i ∈ is, i.low.le i.high = true)
    (h : isAscending is = true) : is.Pairwise fun a b => a.high.lt b.low = true := by
  rw [isAscending_iff_isChain] at h
  induction is with
  | nil => exact .nil
  | cons a is ih =>
    obtain ⟨ha, his⟩ := List.forall_mem_cons.1 hordered
    have hrest := ih his h.of_cons
    refine .cons (fun c hc => ?_) hrest
    cases is with
    | nil => cases hc
    | cons b r =>
      obtain ⟨hb, -⟩ := List.forall_mem_cons.1 his
      have hab : a.high.lt b.low = true :=
        lt_of_not_le (le_self_left hb) (le_self_right ha) (List.isChain_cons_cons.1 h).1
      obtain rfl | hc := List.mem_cons.1 hc
      · exact hab
      · exact lt_trans (lt_of_lt_of_le hab hb) (List.rel_of_pairwise_cons hrest hc)

/-- The intervals of a range are in order, on any base type with limits. -/
theorem orderly_of_range (hle : lower.le upper = true)
    (h : range text lower upper wholeOnly = .ok is) : Orderly lower upper is := by
  have hwithin (i) (hi : i ∈ is) :
      ∀ x ∈ [i.low, i.high], lower.le x = true ∧ x.le upper = true := by
    obtain ⟨⟨_, hlow⟩, _, hhigh⟩ := bounds_of_readParts h hi
    simpa using ⟨within_of_rangeBound hle hlow, within_of_rangeBound hle hhigh⟩
  have hordered (i) (hi : i ∈ is) : i.low.le i.high = true :=
    le_of_not_lt (le_self_right (hwithin i hi i.high (by simp)).1)
      (le_self_right (hwithin i hi i.low (by simp)).1) i.ordered
  exact ⟨ne_nil_of_readParts h, hordered, hwithin,
    pairwise_of_isAscending hordered (readParts_eq_ok_iff.1 h).2⟩

theorem says_of_intervalOf {part : List Char} {i : Interval Binary64}
    (h : IntervalOf limits part i) : ∃ low high, Says limits part low high := by
  obtain ⟨a, b, m, n, hpart, hm, hn⟩ := h
  exact ⟨m, n, a, b, hpart, hm.written, hn.written⟩

/-- What is nearest to an integer is between the ends that are nearest to those around it. -/
theorem contains_of_between {part : List Char} {i : Interval Binary64} {v low high : Int}
    (hi : IntervalOf limits part i) (hs : Says limits part low high) (hx : IsNearest x v)
    (hl : low ≤ v) (hh : v ≤ high) : i.contains x = true := by
  obtain ⟨⟨_, hlow⟩, _, hhigh⟩ := boundsOf_of_says hi hs
  have hlower : Bound.le i.low x = true := (hlow.nearest.le_iff hx).2 (nearestUnits_mono hl)
  have hupper : Bound.le x i.high = true := (hx.le_iff hhigh.nearest).2 (nearestUnits_mono hh)
  rw [Interval.contains, hlower, hupper, Bool.and_self]

theorem allows_of_contains {i : Interval Binary64} {v : Int} {notes : Notes} (hi : i ∈ is)
    (hv : (ofInt v).isInfinite = false) (h : i.contains (ofInt v) = true) :
    (Restriction.mk (.range is) notes).allows (.int v) = .ok true := by
  have hany : is.any (·.contains (ofInt v)) = true := List.any_eq_true.2 ⟨i, hi, h⟩
  rw [Restriction.allows, Condition.allows, toBinary64?_int, hv]
  generalize ofInt v = x at hany
  simp [hany]

end Argument

open Argument

variable {text : String} {is : List (Interval Binary64)} {p : Primitive} {limits : IntegerLimits}

/-- A range that is accepted with the limits of an integer type refuses no integer that it writes,
and its intervals are in order. -/
theorem allows_written_of_range (hp : p.limits? = some limits)
    (h : range text (Binary64.ofInt limits.low) (Binary64.ofInt limits.high) true = .ok is) :
    Orderly (Binary64.ofInt limits.low) (Binary64.ofInt limits.high) is ∧
      (∀ part ∈ text.toList.splitOn '|', ∃ low high, Says limits part low high) ∧
      ∃ c, Condition.ofRanges is = .ok c ∧
        ∀ (notes : Notes) (v low high : Int), limits.low ≤ v → v ≤ limits.high →
          Writes limits text low high → low ≤ v → v ≤ high →
            (Restriction.mk c notes).allows (.int v) = .ok true := by
  obtain ⟨hle, hlow, hhigh⟩ := Primitive.limits_bounds hp
  have hlower := Binary64.isNearest_ofInt (Binary64.isInfinite_ofInt hlow)
  have hupper := Binary64.isNearest_ofInt (Binary64.isInfinite_ofInt hhigh)
  have horderly := orderly_of_range ((hlower.le_iff hupper).2 (Binary64.nearestUnits_mono hle)) h
  have hparts := forall₂_of_range hle hlower hupper h
  refine ⟨horderly, fun part hpart => ?_, .range is, ?_, ?_⟩
  · obtain ⟨i, -, hi⟩ := exists_mem_of_forall₂ hparts hpart
    exact says_of_intervalOf hi
  · rw [Condition.ofRanges, if_neg (by simpa using horderly.nonempty)]
  · rintro notes v low high hv₁ hv₂ ⟨part, hpart, hs⟩ hl hh
    obtain ⟨i, hi, hof⟩ := exists_mem_of_forall₂ hparts hpart
    have hfinite : (Binary64.ofInt v).isInfinite = false := Binary64.isInfinite_ofInt (by omega)
    exact allows_of_contains hi hfinite
      (contains_of_between hof hs (Binary64.isNearest_ofInt hfinite) hl hh)

/-- The integer above `2^53` is no floating-point number, but `20..max` is written. -/
theorem allows_written_beyond_exact :
    ∃ is c,
      range " 1 .. 10|20..max" (Binary64.ofInt 0) (Binary64.ofInt (2 ^ 64 - 1)) true = .ok is ∧
      Condition.ofRanges is = .ok c ∧
        (Restriction.mk c {}).allows (.int (2 ^ 53 + 1)) = .ok true := by
  have hsome : (range " 1 .. 10|20..max" (Binary64.ofInt 0) (Binary64.ofInt (2 ^ 64 - 1))
      true).toOption.isSome = true := by decide +kernel
  obtain ⟨is, his⟩ := Option.isSome_iff_exists.1 hsome
  rw [toOption_eq_some] at his
  have hsplit : splitPart .range "" "20..max".toList = .ok ("20".toList, maxKeyword) := by decide
  have hwritten : Writes (.unsigned 64) " 1 .. 10|20..max" 20 (2 ^ 64 - 1) :=
    ⟨_, by decide, _, _, isPart_of_splitPart hsplit, by decide, by decide⟩
  obtain ⟨-, -, c, hc, hallows⟩ := allows_written_of_range (p := .uint64) rfl his
  exact ⟨is, c, his, hc, hallows {} _ _ _ (by decide) (by decide) hwritten (by decide) (by decide)⟩

end YangSchema
