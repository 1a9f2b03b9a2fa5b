import Mathlib.Algebra.Group.Int.Defs
import Mathlib.Data.List.Chain
import YangSchema.Proofs.Argument.LongNumeral
import YangSchema.Proofs.Argument.Parts
import YangSchema.Restriction.Basic

/-!
# Lengths as they are written

A length is accepted exactly if it is written in parts between bars: each is one bound or two with
dots between them, with white space around, no part is reversed, and each starts above the end of
the one before. What is accepted admits the values whose length a part says, and no others. Only
numerals too long to be read are kept out.
-/
namespace YangSchema
namespace Argument
open Text

variable {text : String} {token part : List Char} {n low high : Int} {is : List (Interval Int)}

inductive IsLength : List Char → Int → Prop where
  | min : IsLength minKeyword 0
  | max : IsLength maxKeyword (2 ^ 64 - 1)
  | numeral {digits : List Char} : digits ≠ [] → (∀ c ∈ digits, c.isDigit = true) →
    Numeral.value digits < 2 ^ 64 → IsLength digits (Numeral.value digits)

def SaysLength (part : List Char) (low high : Int) : Prop :=
  ∃ a b, IsPart part a b ∧ IsLength a low ∧ IsLength b high

/-- The ends of the parts of a length, which ascend. -/
structure IsLengthArgument (text : String) (ends : List (Int × Int)) : Prop where
  parts : List.Forall₂ (fun part e => SaysLength part e.1 e.2) (text.toList.splitOn '|') ends
  ordered : ∀ e ∈ ends, e.1 ≤ e.2
  ascending : ends.IsChain fun e f => e.2 < f.1

def WritesLength (text : String) (low high : Int) : Prop :=
  ∃ part ∈ text.toList.splitOn '|', SaysLength part low high

def ShortDigits (text : String) : Prop :=
  ∀ run, run <:+: text.toList → (∀ c ∈ run, c.isDigit = true) → run.length ≤ Numeral.maxDigits

theorem IsLength.isToken (h : IsLength token n) : IsToken token := by
  cases h with
  | min => exact isToken_minKeyword
  | max => exact isToken_maxKeyword
  | numeral hne hdigits _ => exact isToken_of_numeral (Numeral.isNumeral_iff.2 ⟨hne, hdigits⟩)

theorem IsLength.exists_natCast (h : IsLength token n) : ∃ k : Nat, n = k ∧ k < 2 ^ 64 := by
  cases h with
  | min => exact ⟨0, rfl, by decide⟩
  | max => exact ⟨2 ^ 64 - 1, rfl, by decide⟩
  | numeral _ _ hlt => exact ⟨_, rfl, hlt⟩

theorem IsLength.nonneg (h : IsLength token n) : 0 ≤ n := by
  obtain ⟨k, rfl, -⟩ := h.exists_natCast
  exact Int.natCast_nonneg k

/-- A bound is read as it is written, if it is not too long. -/
theorem lengthBound_eq_ok_iff :
    lengthBound text token = .ok n ↔ IsLength token n ∧ ¬ LongNumeral token := by
  constructor
  · intro h
    unfold lengthBound at h
    split at h
    · next hmin =>
      subst hmin
      cases h
      exact ⟨.min, not_longNumeral rfl⟩
    · split at h
      · next hmax =>
        subst hmax
        cases h
        exact ⟨.max, not_longNumeral rfl⟩
      · split at h
        · next hn =>
          obtain ⟨k, hk, h⟩ := except_bind_eq_ok.1 h
          obtain ⟨hshort, rfl⟩ := (readNumeral_eq_ok_iff hn).1 hk
          obtain ⟨hne, hdigits⟩ := Numeral.isNumeral_iff.1 hn
          split at h
          · cases h
          · next hle =>
            cases h
            have hmax : lengthMax = 2 ^ 64 - 1 := rfl
            exact ⟨.numeral hne hdigits (by omega), hshort⟩
        · cases h
  · rintro ⟨h, hshort⟩
    cases h with
    | min => rfl
    | max => rfl
    | numeral hne hdigits hlt =>
      have hn := Numeral.isNumeral_iff.2 ⟨hne, hdigits⟩
      have hkeyword {keyword : List Char} (hk : Numeral.isNumeral keyword = false) :
          token ≠ keyword := by
        rintro rfl
        rw [hn] at hk
        cases hk
      have hle : ¬ lengthMax < (Numeral.value token : Int) := by
        have hmax : lengthMax = 2 ^ 64 - 1 := rfl
        omega
      rw [lengthBound, if_neg (hkeyword rfl), if_neg (hkeyword rfl), if_pos hn,
        (readNumeral_eq_ok_iff hn).2 ⟨hshort, rfl⟩]
      exact if_neg hle

theorem isToken_of_lengthBound (token : List Char) (n : Int)
    (h : lengthBound text token = .ok n) : IsToken token :=
  (lengthBound_eq_ok_iff.1 h).1.isToken

/-- What is read of a part is what it says. -/
theorem saysLength_of_readsPart {i : Interval Int} (h : ReadsPart (lengthBound text) part i) :
    SaysLength part i.low i.high := by
  obtain ⟨a, b, hpart, ha, hb⟩ := h
  exact ⟨a, b, hpart, (lengthBound_eq_ok_iff.1 ha).1, (lengthBound_eq_ok_iff.1 hb).1⟩

/-- A part that is read says nothing else. -/
theorem ends_of_saysLength {i : Interval Int} (h : ReadsPart (lengthBound text) part i)
    (hs : SaysLength part low high) : i.low = low ∧ i.high = high := by
  obtain ⟨a, b, hpart, ha, hb⟩ := h
  obtain ⟨a', b', hpart', hlow, hhigh⟩ := hs
  obtain ⟨rfl, rfl⟩ := hpart.unique hpart' (isToken_of_lengthBound _ _ ha)
    (isToken_of_lengthBound _ _ hb) hlow.isToken hhigh.isToken
  rw [lengthBound_eq_ok_iff.2 ⟨hlow, (lengthBound_eq_ok_iff.1 ha).2⟩] at ha
  rw [lengthBound_eq_ok_iff.2 ⟨hhigh, (lengthBound_eq_ok_iff.1 hb).2⟩] at hb
  exact ⟨(Except.ok.inj ha).symm, (Except.ok.inj hb).symm⟩

theorem ShortDigits.not_longNumeral (h : ShortDigits text) {token : List Char}
    (ht : token <:+: text.toList) : ¬ LongNumeral token := by
  rintro ⟨hn, hlong⟩
  have := h token ht (Numeral.isNumeral_iff.1 hn).2
  omega

theorem readsPart_of_saysLength (hshort : ShortDigits text) (hpart : part ∈ text.toList.splitOn '|')
    (hs : SaysLength part low high) (hle : low ≤ high) :
    ∃ i, ReadsPart (lengthBound text) part i ∧ (i.low, i.high) = (low, high) := by
  obtain ⟨a, b, h, hlow, hhigh⟩ := hs
  obtain ⟨ha, hb⟩ := isInfix_of_isPart hpart h
  refine ⟨⟨low, high, by simpa [Bound.lt] using hle⟩, ⟨a, b, h, ?_, ?_⟩, rfl⟩
  · exact lengthBound_eq_ok_iff.2 ⟨hlow, hshort.not_longNumeral ha⟩
  · exact lengthBound_eq_ok_iff.2 ⟨hhigh, hshort.not_longNumeral hb⟩

theorem length_eq_ok_iff : length text = .ok is ↔
    List.Forall₂ (ReadsPart (lengthBound text)) (text.toList.splitOn '|') is ∧
      is.IsChain fun i j => i.high < j.low := by
  rw [length, readParts_eq_ok_iff_reads isToken_of_lengthBound, isAscending_iff_isChain]
  simp [Bound.le]

theorem isLengthArgument_of_length (h : length text = .ok is) :
    IsLengthArgument text (is.map fun i => (i.low, i.high)) := by
  obtain ⟨hparts, hchain⟩ := length_eq_ok_iff.1 h
  refine ⟨?_, ?_, ?_⟩
  · rw [List.forall₂_map_right_iff]
    exact hparts.imp fun _ _ => saysLength_of_readsPart
  · intro e he
    obtain ⟨i, -, rfl⟩ := List.mem_map.1 he
    simpa [Bound.lt] using i.ordered
  · rwa [List.isChain_map]

theorem exists_length_of_isLengthArgument {ends : List (Int × Int)} (hshort : ShortDigits text)
    (h : IsLengthArgument text ends) : ∃ is, length text = .ok is := by
  have hread : List.Forall₂ (fun part e => ∃ i : Interval Int,
      ReadsPart (lengthBound text) part i ∧ (i.low, i.high) = e) (text.toList.splitOn '|') ends :=
    forall₂_imp_of_mem h.parts fun part hpart e he hs =>
      readsPart_of_saysLength hshort hpart hs (h.ordered e he)
  obtain ⟨is, hparts, hends⟩ := exists_forall₂_iff.2 hread
  obtain rfl : is.map (fun i => (i.low, i.high)) = ends := by
    rw [← List.forall₂_eq_eq_eq, List.forall₂_map_left_iff]
    exact hends
  exact ⟨is, length_eq_ok_iff.2 ⟨hparts, (List.isChain_map _).1 h.ascending⟩⟩

/-- What a length admits is what its argument writes. -/
theorem any_contains_iff (h : length text = .ok is) :
    is.any (·.contains n) = true ↔
      ∃ low high, WritesLength text low high ∧ low ≤ n ∧ n ≤ high := by
  have hparts := (length_eq_ok_iff.1 h).1
  rw [List.any_eq_true]
  constructor
  · rintro ⟨i, hi, hn⟩
    obtain ⟨part, hpart, hread⟩ := exists_mem_of_forall₂ hparts.flip hi
    exact ⟨i.low, i.high, ⟨part, hpart, saysLength_of_readsPart hread⟩,
      by simpa [Interval.contains, Bound.le] using hn⟩
  · rintro ⟨low, high, ⟨part, hpart, hs⟩, hn⟩
    obtain ⟨i, hi, hread⟩ := exists_mem_of_forall₂ hparts hpart
    obtain ⟨rfl, rfl⟩ := ends_of_saysLength hread hs
    exact ⟨i, hi, by simpa [Interval.contains, Bound.le] using hn⟩

theorem ofLengths_of_length (h : length text = .ok is) :
    Condition.ofLengths is = .ok (.length is) := by
  have hparts := (length_eq_ok_iff.1 h).1
  have hnonneg : is.find? (·.low < 0) = none := by
    rw [List.find?_eq_none]
    intro i hi
    obtain ⟨_, -, a, b, -, ha, -⟩ := exists_mem_of_forall₂ hparts.flip hi
    have := (lengthBound_eq_ok_iff.1 ha).1.nonneg
    simpa using this
  rw [Condition.ofLengths, if_neg (by simpa using ne_nil_of_readParts h), hnonneg]

theorem allows_of_length? {v : Value} {k : Nat} (notes : Notes) (hv : v.length? = some k) :
    (Restriction.mk (.length is) notes).allows v = .ok (is.any (·.contains k)) := by
  rw [Restriction.allows, Condition.allows, hv]

theorem not_isTooLong_length (hshort : ShortDigits text) : ¬ IsTooLong (length text) := by
  rw [isTooLong_length]
  rintro ⟨before, low, high, after, hparts, -, hlong⟩
  obtain ⟨raw, hraw, hsplit⟩ := exists_mem_of_forall₂ (mapM_eq_ok_iff.1 hparts).flip
    (List.mem_append_right before (List.mem_cons_self ..))
  obtain ⟨hlow, hhigh⟩ := isInfix_of_isPart hraw (isPart_of_splitPart hsplit)
  obtain h | ⟨-, h⟩ := hlong
  · exact hshort.not_longNumeral hlow h
  · exact hshort.not_longNumeral hhigh h

/-- A length is accepted if it is written as one, refused for its form otherwise, and admits exactly
what it writes. -/
theorem length_as_written (hshort : ShortDigits text) :
    ((∃ is, length text = .ok is) ↔ ∃ ends, IsLengthArgument text ends) ∧
      ((¬ ∃ ends, IsLengthArgument text ends) → ∃ f, length text = .error (.fault f)) ∧
      ∀ is, length text = .ok is → ∃ c, Condition.ofLengths is = .ok c ∧
        ∀ (notes : Notes) (v : Value) (k : Nat), v.length? = some k →
          ∃ admitted, (Restriction.mk c notes).allows v = .ok admitted ∧
            (admitted = true ↔ ∃ low high, WritesLength text low high ∧ low ≤ k ∧ k ≤ high) := by
  have hiff : (∃ is, length text = .ok is) ↔ ∃ ends, IsLengthArgument text ends := by
    constructor
    · rintro ⟨is, h⟩
      exact ⟨_, isLengthArgument_of_length h⟩
    · rintro ⟨ends, h⟩
      exact exists_length_of_isLengthArgument hshort h
  refine ⟨hiff, fun hnot => ?_, fun is h => ⟨.length is, ofLengths_of_length h, ?_⟩⟩
  · cases h : length text with
    | ok is => exact absurd (hiff.1 ⟨is, h⟩) hnot
    | error e =>
      cases e with
      | fault f => exact ⟨f, rfl⟩
      | numeral f => exact absurd ⟨f, h⟩ (not_isTooLong_length hshort)
  · intro notes v k hv
    exact ⟨_, allows_of_length? notes hv, any_contains_iff h⟩

/-- Five bytes are in `4..max`. -/
theorem length_as_written_of_two_parts :
    ∃ is c, length " 0 .. 2 |4..max" = .ok is ∧ Condition.ofLengths is = .ok c ∧
      (Restriction.mk c {}).allows (.bytes [1, 2, 3, 4, 5]) = .ok true := by
  have hshort : ShortDigits " 0 .. 2 |4..max" := fun run hrun _ =>
    hrun.length_le.trans (by decide)
  have hsome : (length " 0 .. 2 |4..max").toOption.isSome = true := by decide +kernel
  obtain ⟨is, his⟩ := Option.isSome_iff_exists.1 hsome
  rw [toOption_eq_some] at his
  obtain ⟨-, -, hadmits⟩ := length_as_written hshort
  obtain ⟨c, hc, hc'⟩ := hadmits is his
  obtain ⟨admitted, ha, hiff⟩ := hc' {} (.bytes [1, 2, 3, 4, 5]) 5 rfl
  have hsplit : splitPart .length "" "4..max".toList = .ok ("4".toList, maxKeyword) := by decide
  have hfour : IsLength "4".toList 4 :=
    .numeral (by decide) (List.all_eq_true.1 (by decide)) (by decide)
  have hwritten : WritesLength " 0 .. 2 |4..max" 4 (2 ^ 64 - 1) :=
    ⟨_, by decide, _, _, isPart_of_splitPart hsplit, hfour, .max⟩
  obtain rfl := hiff.2 ⟨_, _, hwritten, by decide, by decide⟩
  exact ⟨is, c, his, hc, ha⟩

end Argument
end YangSchema
