import YangSchema.Proofs.Argument.Parts
import YangSchema.Proofs.Binary64.Order

/-!
# Intervals written as parts

A row of intervals is written as parts with bars between them. If its bounds are written so that
they are read as the same numbers, and the intervals ascend, then the text is read as the same
intervals.
-/
namespace YangSchema

/-- The order of bounds. Some bounds compare with nothing, not even with themselves. -/
class OrderedBound (α : Type) [Bound α] : Prop where
  le_trans {x y z : α} : Bound.le x y = true → Bound.le y z = true → Bound.le x z = true
  lt_eq (x y : α) : Bound.lt x y = (Bound.le x y && !Bound.le y x)

instance : OrderedBound Int where
  le_trans h₁ h₂ := by
    simp only [Bound.le, decide_eq_true_eq] at *
    omega
  lt_eq x y := by
    rw [Bool.eq_iff_iff]
    simp only [Bound.lt, Bound.le, Bool.and_eq_true, Bool.not_eq_true', decide_eq_true_eq,
      decide_eq_false_iff_not]
    omega

instance : OrderedBound Binary64 where
  le_trans := Binary64.le_trans
  lt_eq _ _ := rfl

namespace Bound

variable {α : Type} [Bound α] {x y z x' y' : α}

def Same (x y : α) : Prop :=
  le x y = true ∧ le y x = true

theorem Same.symm (h : Same x y) : Same y x :=
  And.symm h

variable [OrderedBound α]

theorem Same.trans (h₁ : Same x y) (h₂ : Same y z) : Same x z :=
  ⟨OrderedBound.le_trans h₁.1 h₂.1, OrderedBound.le_trans h₂.2 h₁.2⟩

theorem Same.le_eq (hx : Same x x') (hy : Same y y') : le x y = le x' y' := by
  rw [Bool.eq_iff_iff]
  constructor
  · exact fun h => OrderedBound.le_trans hx.2 (OrderedBound.le_trans h hy.1)
  · exact fun h => OrderedBound.le_trans hx.1 (OrderedBound.le_trans h hy.2)

theorem Same.lt_eq (hx : Same x x') (hy : Same y y') : lt x y = lt x' y' := by
  rw [OrderedBound.lt_eq, OrderedBound.lt_eq, hx.le_eq hy, hy.le_eq hx]

theorem lt_self (x : α) : lt x x = false := by
  rw [OrderedBound.lt_eq, Bool.and_not_self]

end Bound

def Interval.Same {α : Type} [Bound α] (i j : Interval α) : Prop :=
  Bound.Same i.low j.low ∧ Bound.Same i.high j.high

namespace Argument
open Unicode

variable {α : Type} [Bound α] {kind : PartKind} {bound : List Char → Argument α} {i : Interval α}
  {is js : List (Interval α)} {raw : List Char} {pieces : List (List Char)}

theorem isAscending_congr [OrderedBound α] (h : List.Forall₂ Interval.Same is js) :
    isAscending is = isAscending js := by
  induction h with
  | nil => rfl
  | cons hij hrest ih =>
    cases hrest with
    | nil => rfl
    | cons hkl _ => rw [isAscending, isAscending, hkl.1.le_eq hij.2, ih]

def Padded (piece raw : List Char) : Prop :=
  ∃ before after, AllBlank before ∧ AllBlank after ∧ raw = before ++ piece ++ after

theorem allBlank_space : AllBlank [' '] :=
  List.forall_mem_singleton.2 (by decide)

theorem bar_notMem_of_allBlank {s : List Char} (h : AllBlank s) : '|' ∉ s := fun hbar =>
  absurd (h '|' hbar) (by decide)

/-- The spaces around a bar belong to the texts on both sides. -/
theorem exists_padded {before : List Char} (hb : AllBlank before) (hne : pieces ≠ []) :
    ∃ raws, List.Forall₂ Padded pieces raws ∧
      before ++ [' ', '|', ' '].intercalate pieces = ['|'].intercalate raws := by
  induction pieces generalizing before with
  | nil => exact absurd rfl hne
  | cons piece pieces ih =>
    cases pieces with
    | nil => exact ⟨[before ++ piece], .cons ⟨before, [], hb, allBlank_nil, by simp⟩ .nil, by simp⟩
    | cons next pieces =>
      -- of the spaces around the bar one ends this text, the other one begins the next
      obtain ⟨raws, hraws, htext⟩ := ih allBlank_space (by simp)
      obtain ⟨r, rs, rfl⟩ := List.exists_cons_of_ne_nil (l := raws) (by
        rintro rfl
        cases hraws)
      refine ⟨(before ++ piece ++ [' ']) :: r :: rs,
        .cons ⟨before, [' '], hb, allBlank_space, rfl⟩ hraws, ?_⟩
      rw [List.intercalate_cons_cons, List.intercalate_cons_cons, ← htext]
      simp

theorem forall₂_splitOn (hne : pieces ≠ []) (hbar : ∀ piece ∈ pieces, '|' ∉ piece) :
    List.Forall₂ Padded pieces (([' ', '|', ' '].intercalate pieces).splitOn '|') := by
  obtain ⟨raws, hraws, htext⟩ := exists_padded allBlank_nil hne
  rw [List.nil_append] at htext
  have hne' : raws ≠ [] := by
    rintro rfl
    exact hne (List.forall₂_nil_right_iff.1 hraws)
  rw [htext, List.splitOn_intercalate '|' _ hne']
  · exact hraws
  · intro raw hraw
    obtain ⟨piece, hpiece, before, after, hb, ha, rfl⟩ := exists_mem_of_forall₂ hraws.flip hraw
    simp only [List.mem_append, not_or]
    exact ⟨⟨bar_notMem_of_allBlank hb, hbar piece hpiece⟩, bar_notMem_of_allBlank ha⟩

/-- A bound is written without a bar and is read as the same number. -/
structure ReadsBack (bound : List Char → Argument α) (x : α) : Prop where
  bar_notMem : '|' ∉ (Bound.brief x).toList
  read : ∃ y, bound (Bound.brief x).toList = .ok y ∧ Bound.Same x y

theorem bar_notMem_text (hlow : ReadsBack bound i.low) (hhigh : ReadsBack bound i.high) :
    '|' ∉ i.text.toList := by
  unfold Interval.text
  split
  · exact hlow.bar_notMem
  · simp [hlow.bar_notMem, hhigh.bar_notMem]

variable [OrderedBound α]

/-- What an interval is written as is read as a part, with white space around or without. -/
theorem exists_readsPart (hlow : ReadsBack bound i.low) (hhigh : ReadsBack bound i.high)
    (hraw : Padded i.text.toList raw) : ∃ j, ReadsPart bound raw j ∧ i.Same j := by
  obtain ⟨before, after, hb, ha, rfl⟩ := hraw
  obtain ⟨x, hx, hsame⟩ := hlow.read
  obtain ⟨y, hy, hsame'⟩ := hhigh.read
  cases hpoint : i.isPoint with
  | true =>
    -- only the lower end is written, and stands for both
    have hends : Bound.Same i.low i.high := by
      simpa [Interval.isPoint, Bound.Same] using hpoint
    refine ⟨⟨x, x, Bound.lt_self x⟩, ⟨_, _, .bound hb ha, ?_, ?_⟩, hsame, hends.symm.trans hsame⟩
    · simpa [Interval.text, hpoint] using hx
    · simpa [Interval.text, hpoint] using hx
  | false =>
    have htext : before ++ i.text.toList ++ after = before ++ (Bound.brief i.low).toList ++ [] ++
        '.' :: '.' :: ([] ++ (Bound.brief i.high).toList ++ after) := by
      simp [Interval.text, hpoint]
    rw [htext]
    exact ⟨⟨x, y, hsame'.lt_eq hsame ▸ i.ordered⟩,
      ⟨_, _, .pair hb allBlank_nil allBlank_nil ha, hx, hy⟩, hsame, hsame'⟩

/-- The text of intervals that ascend is read as the same intervals. -/
theorem readParts_intervalsText (htoken : ∀ token x, bound token = .ok x → IsToken token)
    (hne : is ≠ []) (hascending : isAscending is = true)
    (hback : ∀ i ∈ is, ReadsBack bound i.low ∧ ReadsBack bound i.high) :
    ∃ js, readParts kind bound (intervalsText is) = .ok js ∧ List.Forall₂ Interval.Same is js := by
  have hrows : List.Forall₂ (fun i raw => Padded i.text.toList raw) is
      ((intervalsText is).toList.splitOn '|') := by
    have htext : (intervalsText is).toList =
        [' ', '|', ' '].intercalate (is.map fun i => i.text.toList) := by
      rw [intervalsText, String.toList_intercalate, List.map_map]
      rfl
    rw [htext, ← List.forall₂_map_left_iff (f := fun i : Interval α => i.text.toList)]
    refine forall₂_splitOn (by simpa using hne) fun piece hpiece => ?_
    obtain ⟨i, hi, rfl⟩ := List.mem_map.1 hpiece
    exact bar_notMem_text (hback i hi).1 (hback i hi).2
  have hread : List.Forall₂ (fun raw i => ∃ j, ReadsPart bound raw j ∧ i.Same j)
      ((intervalsText is).toList.splitOn '|') is :=
    (forall₂_imp_of_mem hrows fun i hi raw _ hraw =>
      exists_readsPart (hback i hi).1 (hback i hi).2 hraw).flip
  obtain ⟨js, hjs, hsame⟩ := exists_forall₂_iff.2 hread
  refine ⟨js, (readParts_eq_ok_iff_reads htoken).2 ⟨hjs, ?_⟩, hsame.flip⟩
  rw [← isAscending_congr hsame.flip, hascending]

end Argument
end YangSchema
