import Mathlib.Data.List.Forall2
import YangSchema.Outcome
import YangSchema.Proofs.Restriction.WrittenRange

/-!
# Parts of an argument

An argument that is made of parts is read exactly if each text between bars is written as a part,
its bounds are read in order, and the parts ascend. What a bound is, is left open here: only that it
has neither white space nor dots in it.
-/
namespace YangSchema

/-- A row of steps succeeds exactly with the results of each. -/
theorem mapM_eq_ok_iff {ε α β : Type} {f : α → Except ε β} {as : List α} {bs : List β} :
    as.mapM f = .ok bs ↔ List.Forall₂ (fun a b => f a = .ok b) as bs := by
  induction as generalizing bs with
  | nil =>
    rw [List.mapM_nil, List.forall₂_nil_left_iff]
    exact ⟨fun h => (Except.ok.inj h).symm, fun h => congrArg _ h.symm⟩
  | cons a as ih =>
    rw [List.mapM_cons, List.forall₂_cons_left_iff, except_bind_eq_ok]
    refine exists_congr fun b => ?_
    simp only [except_bind_eq_ok, ih]
    constructor
    · rintro ⟨hb, r, hr, h⟩
      exact ⟨r, hb, hr, (Except.ok.inj h).symm⟩
    · rintro ⟨r, hb, hr, rfl⟩
      exact ⟨hb, r, hr, rfl⟩

theorem exists_forall₂_iff {α β γ : Type} {R : α → β → Prop} {S : β → γ → Prop} {as : List α}
    {cs : List γ} : (∃ bs, List.Forall₂ R as bs ∧ List.Forall₂ S bs cs) ↔
      List.Forall₂ (fun a c => ∃ b, R a b ∧ S b c) as cs := by
  constructor
  · rintro ⟨bs, hr, hs⟩
    induction hr generalizing cs with
    | nil =>
      cases hs
      exact .nil
    | cons h _ ih =>
      cases hs with
      | cons h' hs => exact .cons ⟨_, h, h'⟩ (ih hs)
  · intro h
    induction h with
    | nil => exact ⟨[], .nil, .nil⟩
    | cons h _ ih =>
      obtain ⟨b, hr, hs⟩ := h
      obtain ⟨bs, hrs, hss⟩ := ih
      exact ⟨b :: bs, .cons hr hrs, .cons hs hss⟩

theorem exists_mem_of_forall₂ {α β : Type} {R : α → β → Prop} {as : List α} {bs : List β}
    (h : List.Forall₂ R as bs) {a : α} (ha : a ∈ as) : ∃ b ∈ bs, R a b := by
  induction h with
  | nil => cases ha
  | @cons _ b _ _ hr _ ih =>
    obtain rfl | ha := List.mem_cons.1 ha
    · exact ⟨b, List.mem_cons_self .., hr⟩
    · obtain ⟨c, hc, hrc⟩ := ih ha
      exact ⟨c, List.mem_cons_of_mem b hc, hrc⟩

theorem forall₂_imp_of_mem {α β : Type} {R S : α → β → Prop} {as : List α} {bs : List β}
    (h : List.Forall₂ R as bs) (himp : ∀ a ∈ as, ∀ b ∈ bs, R a b → S a b) :
    List.Forall₂ S as bs := by
  induction h with
  | nil => exact .nil
  | cons h _ ih =>
    refine .cons (himp _ (List.mem_cons_self ..) _ (List.mem_cons_self ..) h) (ih ?_)
    exact fun a ha b hb => himp a (List.mem_cons_of_mem _ ha) b (List.mem_cons_of_mem _ hb)

theorem isInfix_intercalate {α : Type} (separator : List α) {piece : List α}
    {row : List (List α)} (h : piece ∈ row) : piece <:+: separator.intercalate row := by
  induction row with
  | nil => cases h
  | cons a row ih =>
    cases row with
    | nil =>
      obtain rfl := List.mem_singleton.1 h
      simp [List.intercalate]
    | cons b row =>
      rw [List.intercalate_cons_cons]
      obtain rfl | h := List.mem_cons.1 h
      · rw [List.append_assoc]
        exact (List.prefix_append ..).isInfix
      · exact (ih h).trans (List.suffix_append ..).isInfix

theorem Interval.of?_eq_some_iff {α : Type} [Bound α] {low high : α} {i : Interval α} :
    Interval.of? low high = some i ↔ low = i.low ∧ high = i.high := by
  unfold Interval.of?
  constructor
  · intro h
    split at h
    · cases h
      exact ⟨rfl, rfl⟩
    · cases h
  · rintro ⟨rfl, rfl⟩
    rw [dif_pos i.ordered]

namespace Argument

variable {α : Type} [Bound α] {kind : PartKind} {bound : List Char → Argument α} {text : String}
  {is : List (Interval α)}

theorem isAscending_iff_isChain (is : List (Interval α)) :
    isAscending is = true ↔ is.IsChain fun a b => Bound.le b.low a.high = false := by
  fun_induction isAscending is with
  | case1 a b r ih => simp [ih]
  | case2 is h =>
    cases is with
    | nil => simp
    | cons a r =>
      cases r with
      | nil => simp
      | cons b r => exact absurd rfl (h a b r)

theorem readPart_eq_ok_iff {part : List Char × List Char} {i : Interval α} :
    readPart kind bound part = .ok i ↔ bound part.1 = .ok i.low ∧ bound part.2 = .ok i.high := by
  simp only [readPart, except_bind_eq_ok]
  constructor
  · rintro ⟨low, hlow, high, hhigh, h⟩
    split at h
    · next hi =>
      obtain rfl := Except.ok.inj h
      obtain ⟨rfl, rfl⟩ := Interval.of?_eq_some_iff.1 hi
      exact ⟨hlow, hhigh⟩
    · cases h
  · rintro ⟨hlow, hhigh⟩
    refine ⟨_, hlow, _, hhigh, ?_⟩
    rw [Interval.of?_eq_some_iff.2 ⟨rfl, rfl⟩]
    rfl

theorem splitPart_eq_ok_iff {raw a b : List Char} (ha : IsToken a) (hb : IsToken b) :
    splitPart kind text raw = .ok (a, b) ↔ IsPart raw a b :=
  ⟨isPart_of_splitPart, fun h => splitPart_of_isPart kind text h ha hb⟩

/-- A part is written with the same bounds however it is taken apart. -/
theorem IsPart.unique {raw a b a' b' : List Char} (h : IsPart raw a b) (h' : IsPart raw a' b')
    (ha : IsToken a) (hb : IsToken b) (ha' : IsToken a') (hb' : IsToken b') : a = a' ∧ b = b' := by
  have hsplit := splitPart_of_isPart .range "" h ha hb
  rw [splitPart_of_isPart .range "" h' ha' hb'] at hsplit
  cases hsplit
  exact ⟨rfl, rfl⟩

theorem IsPart.isInfix {raw a b : List Char} (h : IsPart raw a b) : a <:+: raw ∧ b <:+: raw := by
  cases h with
  | bound => exact ⟨List.infix_append .., List.infix_append ..⟩
  | @pair before _ after before' _ after' =>
    exact ⟨⟨before, after ++ '.' :: '.' :: (before' ++ b ++ after'), by simp⟩,
      ⟨before ++ a ++ after ++ '.' :: '.' :: before', after', by simp⟩⟩

/-- The bounds of a part stand in the text. -/
theorem isInfix_of_isPart {text : List Char} {raw a b : List Char} (hraw : raw ∈ text.splitOn '|')
    (h : IsPart raw a b) : a <:+: text ∧ b <:+: text := by
  have hpiece : raw <:+: text := by
    have hjoin := isInfix_intercalate ['|'] hraw
    rwa [List.intercalate_splitOn] at hjoin
  exact ⟨h.isInfix.1.trans hpiece, h.isInfix.2.trans hpiece⟩

/-- An argument is read as the intervals of its parts, if these ascend. -/
theorem readParts_eq_ok_iff :
    readParts kind bound text = .ok is ↔
      List.Forall₂ (fun raw i => ∃ part, splitPart kind text raw = .ok part ∧
        readPart kind bound part = .ok i) (text.toList.splitOn '|') is ∧
          isAscending is = true := by
  rw [← exists_forall₂_iff]
  simp only [readParts, splitParts, except_bind_eq_ok, mapM_eq_ok_iff]
  constructor
  · rintro ⟨parts, hs, js, hm, h⟩
    split at h
    · next hascending =>
      obtain rfl := Except.ok.inj h
      exact ⟨⟨parts, hs, hm⟩, hascending⟩
    · cases h
  · rintro ⟨⟨parts, hs, hm⟩, hascending⟩
    exact ⟨parts, hs, is, hm, if_pos hascending⟩

/-- There is an interval for each part, and at least one part. -/
theorem ne_nil_of_readParts (h : readParts kind bound text = .ok is) : is ≠ [] := by
  rintro rfl
  have hlength := (readParts_eq_ok_iff.1 h).1.length_eq
  exact List.splitOn_ne_nil '|' text.toList (List.eq_nil_of_length_eq_zero hlength)

/-- The ends of every interval are bounds that were read. -/
theorem bounds_of_readParts (h : readParts kind bound text = .ok is) {i : Interval α}
    (hi : i ∈ is) : (∃ token, bound token = .ok i.low) ∧ ∃ token, bound token = .ok i.high := by
  obtain ⟨_, -, part, -, hpart⟩ := exists_mem_of_forall₂ (readParts_eq_ok_iff.1 h).1.flip hi
  obtain ⟨hlow, hhigh⟩ := readPart_eq_ok_iff.1 hpart
  exact ⟨⟨_, hlow⟩, _, hhigh⟩

def ReadsPart (bound : List Char → Argument α) (raw : List Char) (i : Interval α) : Prop :=
  ∃ a b, IsPart raw a b ∧ bound a = .ok i.low ∧ bound b = .ok i.high

/-- Where bounds are tokens, the parts are those that are written. -/
theorem readParts_eq_ok_iff_reads (htoken : ∀ token x, bound token = .ok x → IsToken token) :
    readParts kind bound text = .ok is ↔
      List.Forall₂ (ReadsPart bound) (text.toList.splitOn '|') is ∧ isAscending is = true := by
  have hpart (raw : List Char) (i : Interval α) :
      (∃ part, splitPart kind text raw = .ok part ∧ readPart kind bound part = .ok i) ↔
        ReadsPart bound raw i := by
    simp only [readPart_eq_ok_iff, ReadsPart, Prod.exists]
    refine exists₂_congr fun a b => and_congr_left fun ⟨ha, hb⟩ => ?_
    exact splitPart_eq_ok_iff (htoken a _ ha) (htoken b _ hb)
  simp only [readParts_eq_ok_iff, hpart]

end Argument
end YangSchema
