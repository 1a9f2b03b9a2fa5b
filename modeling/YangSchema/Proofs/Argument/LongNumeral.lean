import YangSchema.Argument
import YangSchema.Outcome
import YangSchema.Proofs.Text.Numeral

/-!
# Arguments with too long a numeral

Lengths and fraction digits are read as whole numbers, whose numerals may have no more than
`maxDigits` digits. Here it is told which arguments are refused for a longer one. A length is read
from left to right, so that a fault before the numeral is told instead.
-/
namespace YangSchema
open Text

def LongNumeral (digits : List Char) : Prop :=
  Numeral.isNumeral digits = true ∧ Numeral.maxDigits < digits.length

instance (digits : List Char) : Decidable (LongNumeral digits) :=
  inferInstanceAs (Decidable (_ ∧ _))

theorem not_longNumeral {s : List Char} (h : Numeral.isNumeral s = false) : ¬ LongNumeral s := by
  rintro ⟨hn, -⟩
  rw [h] at hn
  cases hn

/-- A numeral is refused for nothing but its length. -/
theorem Text.Numeral.ofDigits_eq_error_iff {digits : List Char}
    (h : Numeral.isNumeral digits = true) :
    (∃ f, Numeral.ofDigits digits = .error f) ↔ LongNumeral digits := by
  rw [Numeral.ofDigits_eq h, LongNumeral]
  by_cases hlong : Numeral.maxDigits < digits.length
  · simp [hlong, h]
  · simp [hlong]

namespace Argument

/-- The argument is refused for the length of a numeral in it. -/
def IsTooLong {α : Type} (x : Argument α) : Prop :=
  ∃ f, x = .error (.numeral f)

variable {α β : Type}

theorem not_isTooLong_ok (a : α) : ¬ IsTooLong (.ok a : Argument α) := by
  rintro ⟨f, h⟩
  cases h

theorem not_isTooLong_refuse (f : ArgumentFault) : ¬ IsTooLong (refuse f : Argument α) := by
  rintro ⟨g, h⟩
  cases h

theorem isTooLong_bind (x : Argument α) (f : α → Argument β) :
    IsTooLong (x >>= f) ↔ IsTooLong x ∨ ∃ a, x = .ok a ∧ IsTooLong (f a) := by
  cases x with
  | error e => simp [IsTooLong, bind, Except.bind]
  | ok a => simp [IsTooLong, bind, Except.bind]

theorem isTooLong_readNumeral {digits : List Char} (h : Numeral.isNumeral digits = true) :
    IsTooLong (readNumeral digits) ↔ LongNumeral digits := by
  rw [← Numeral.ofDigits_eq_error_iff h, readNumeral]
  cases Numeral.ofDigits digits with
  | error f => exact iff_of_true ⟨f, rfl⟩ ⟨f, rfl⟩
  | ok n => exact iff_of_false (not_isTooLong_ok n) (by simp)

theorem readNumeral_eq_ok_iff {digits : List Char} {n : Nat}
    (h : Numeral.isNumeral digits = true) :
    readNumeral digits = .ok n ↔ ¬ LongNumeral digits ∧ Numeral.value digits = n := by
  rw [readNumeral, Numeral.ofDigits_eq h]
  by_cases hlong : Numeral.maxDigits < digits.length
  · rw [if_pos hlong]
    exact iff_of_false nofun fun hread => hread.1 ⟨h, hlong⟩
  · rw [if_neg hlong]
    change Except.ok (Numeral.value digits) = _ ↔ _
    rw [Except.ok.injEq]
    exact (and_iff_right fun hl => hlong hl.2).symm

theorem not_isTooLong_ite (p : Prop) [Decidable p] {x y : Argument α} (hx : ¬ IsTooLong x)
    (hy : ¬ IsTooLong y) : ¬ IsTooLong (if p then x else y) := by
  split
  · exact hx
  · exact hy

theorem isTooLong_mapM (f : α → Argument β) (row : List α) :
    IsTooLong (row.mapM f) ↔
      ∃ before a after, row = before ++ a :: after ∧ (∀ c ∈ before, ∃ d, f c = .ok d) ∧
        IsTooLong (f a) := by
  induction row with
  | nil =>
    rw [List.mapM_nil]
    exact iff_of_false (not_isTooLong_ok _) (by simp)
  | cons a r ih =>
    rw [List.mapM_cons, isTooLong_bind]
    constructor
    · rintro (h | ⟨b, hb, h⟩)
      · exact ⟨[], a, r, rfl, by simp, h⟩
      · rw [isTooLong_bind] at h
        obtain h | ⟨bs, -, h⟩ := h
        · obtain ⟨before, c, after, rfl, hbefore, hc⟩ := ih.1 h
          refine ⟨a :: before, c, after, rfl, ?_, hc⟩
          rw [List.forall_mem_cons]
          exact ⟨⟨b, hb⟩, hbefore⟩
        · exact absurd h (not_isTooLong_ok _)
    · rintro ⟨before, c, after, hrow, hbefore, hc⟩
      cases before with
      | nil =>
        obtain ⟨rfl, rfl⟩ := List.cons.inj hrow
        exact .inl hc
      | cons d before =>
        obtain ⟨rfl, rfl⟩ := List.cons.inj hrow
        obtain ⟨⟨b, hb⟩, hbefore⟩ := List.forall_mem_cons.1 hbefore
        refine .inr ⟨b, hb, ?_⟩
        rw [isTooLong_bind]
        exact .inl (ih.2 ⟨before, c, after, rfl, hbefore, hc⟩)

theorem not_isTooLong_splitPart (kind : PartKind) (text : String) (raw : List Char) :
    ¬ IsTooLong (splitPart kind text raw) := by
  unfold splitPart
  refine not_isTooLong_ite _ (not_isTooLong_refuse _) ?_
  split
  · exact not_isTooLong_ok _
  · exact not_isTooLong_ite _ (not_isTooLong_refuse _) (not_isTooLong_ok _)

theorem not_isTooLong_splitParts (kind : PartKind) (text : String) :
    ¬ IsTooLong (splitParts kind text) := by
  rw [splitParts, isTooLong_mapM]
  rintro ⟨before, raw, after, -, -, h⟩
  exact not_isTooLong_splitPart kind text raw h

theorem isTooLong_readPart [Bound α] (kind : PartKind) (bound : List Char → Argument α)
    (part : List Char × List Char) :
    IsTooLong (readPart kind bound part) ↔
      IsTooLong (bound part.1) ∨ ∃ low, bound part.1 = .ok low ∧ IsTooLong (bound part.2) := by
  unfold readPart
  rw [isTooLong_bind]
  refine or_congr_right (exists_congr fun low => and_congr_right fun _ => ?_)
  rw [isTooLong_bind]
  refine or_iff_left ?_
  rintro ⟨high, -, h⟩
  split at h
  · exact not_isTooLong_ok _ h
  · exact not_isTooLong_refuse _ h

theorem isTooLong_readParts [Bound α] (kind : PartKind) (bound : List Char → Argument α)
    (text : String) :
    IsTooLong (readParts kind bound text) ↔
      ∃ before part after, splitParts kind text = .ok (before ++ part :: after) ∧
        (∀ q ∈ before, ∃ i, readPart kind bound q = .ok i) ∧
          IsTooLong (readPart kind bound part) := by
  have hlast (is : List (Interval α)) :
      ¬ IsTooLong (if isAscending is then pure is else refuse (.notAscending kind text) :
        Argument (List (Interval α))) :=
    not_isTooLong_ite _ (not_isTooLong_ok _) (not_isTooLong_refuse _)
  unfold readParts
  rw [isTooLong_bind]
  constructor
  · rintro (h | ⟨parts, hparts, h⟩)
    · exact absurd h (not_isTooLong_splitParts kind text)
    · rw [isTooLong_bind] at h
      obtain h | ⟨is, -, h⟩ := h
      · obtain ⟨before, part, after, rfl, hbefore, hpart⟩ := (isTooLong_mapM _ _).1 h
        exact ⟨before, part, after, hparts, hbefore, hpart⟩
      · exact absurd h (hlast is)
  · rintro ⟨before, part, after, hparts, hbefore, hpart⟩
    refine .inr ⟨_, hparts, ?_⟩
    rw [isTooLong_bind]
    exact .inl ((isTooLong_mapM _ _).2 ⟨before, part, after, rfl, hbefore, hpart⟩)

/-- The bounds of a range are no whole numbers, so that no numeral is too long for one. -/
theorem not_isTooLong_range (text : String) (lower upper : Binary64) (wholeOnly : Bool) :
    ¬ IsTooLong (range text lower upper wholeOnly) := by
  have hbound (token : List Char) : ¬ IsTooLong (rangeBound text lower upper wholeOnly token) := by
    unfold rangeBound
    refine not_isTooLong_ite _ (not_isTooLong_ok _) ?_
    refine not_isTooLong_ite _ (not_isTooLong_ok _) ?_
    split
    · exact not_isTooLong_refuse _
    · refine not_isTooLong_ite _ (not_isTooLong_refuse _) ?_
      exact not_isTooLong_ite _ (not_isTooLong_ok _) (not_isTooLong_refuse _)
  rw [range, isTooLong_readParts]
  rintro ⟨before, part, after, -, -, h⟩
  obtain h | ⟨low, -, h⟩ := (isTooLong_readPart _ _ _).1 h
  · exact hbound _ h
  · exact hbound _ h

theorem isTooLong_lengthBound (text : String) (token : List Char) :
    IsTooLong (lengthBound text token) ↔ LongNumeral token := by
  unfold lengthBound
  by_cases hmin : token = minKeyword
  · rw [if_pos hmin, hmin]
    exact iff_of_false (not_isTooLong_ok _) (not_longNumeral rfl)
  by_cases hmax : token = maxKeyword
  · rw [if_neg hmin, if_pos hmax, hmax]
    exact iff_of_false (not_isTooLong_ok _) (not_longNumeral rfl)
  rw [if_neg hmin, if_neg hmax]
  by_cases hn : Numeral.isNumeral token = true
  · rw [if_pos hn, isTooLong_bind, isTooLong_readNumeral hn]
    refine or_iff_left ?_
    rintro ⟨n, -, h⟩
    exact not_isTooLong_ite _ (not_isTooLong_refuse _) (not_isTooLong_ok _) h
  · rw [if_neg hn]
    exact iff_of_false (not_isTooLong_refuse _) fun h => hn h.1

/-- One of the bounds of a length is a numeral that is too long, and all before it is read. -/
def LongLength (text : String) : Prop :=
  ∃ before low high after,
    splitParts .length text = .ok (before ++ (low, high) :: after) ∧
      (∀ q ∈ before, ∃ i, readPart .length (lengthBound text) q = .ok i) ∧
        (LongNumeral low ∨ (∃ n, lengthBound text low = .ok n) ∧ LongNumeral high)

theorem isTooLong_length (text : String) : IsTooLong (length text) ↔ LongLength text := by
  rw [length, isTooLong_readParts]
  constructor
  · rintro ⟨before, ⟨low, high⟩, after, hparts, hbefore, h⟩
    refine ⟨before, low, high, after, hparts, hbefore, ?_⟩
    rw [isTooLong_readPart, isTooLong_lengthBound] at h
    obtain h | ⟨n, hn, h⟩ := h
    · exact .inl h
    · exact .inr ⟨⟨n, hn⟩, (isTooLong_lengthBound _ _).1 h⟩
  · rintro ⟨before, low, high, after, hparts, hbefore, h⟩
    refine ⟨before, (low, high), after, hparts, hbefore, ?_⟩
    rw [isTooLong_readPart, isTooLong_lengthBound]
    obtain h | ⟨⟨n, hn⟩, h⟩ := h
    · exact .inl h
    · exact .inr ⟨n, hn, (isTooLong_lengthBound _ _).2 h⟩

theorem isTooLong_fractionDigits (text : String) :
    IsTooLong (fractionDigits text) ↔ LongNumeral text.toList := by
  unfold fractionDigits
  by_cases hn : Numeral.isNumeral text.toList = true
  · rw [if_pos hn, isTooLong_bind, isTooLong_readNumeral hn]
    refine or_iff_left ?_
    rintro ⟨n, -, h⟩
    exact not_isTooLong_ite _ (not_isTooLong_ok _) (not_isTooLong_refuse _) h
  · rw [if_neg hn]
    exact iff_of_false (not_isTooLong_refuse _) fun h => hn h.1

/-- The fraction digits that are read are those that a decimal64 takes. -/
theorem bounds_of_fractionDigits {text : String} {n : Nat} (h : fractionDigits text = .ok n) :
    1 ≤ n ∧ n ≤ 18 := by
  unfold fractionDigits at h
  split at h
  · obtain ⟨m, -, h⟩ := except_bind_eq_ok.1 h
    split at h
    · next hm =>
      cases h
      simpa using hm
    · cases h
  · cases h

theorem not_isTooLong_date (text : String) : ¬ IsTooLong (date text) := by
  unfold date
  split
  · exact not_isTooLong_refuse _
  · exact not_isTooLong_ite _ (not_isTooLong_ok _) (not_isTooLong_refuse _)

end Argument
end YangSchema
