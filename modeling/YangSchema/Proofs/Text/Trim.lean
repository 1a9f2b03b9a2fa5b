import Mathlib.Data.List.DropRight

/-!
# Trimming

Characters of a class are taken from both ends of a text. What is left neither starts nor ends with
one of them, and each such text is left whatever stood around it.
-/
namespace YangSchema.Text

variable {p : Char → Bool}

def trimBy (p : Char → Bool) (s : List Char) : List Char :=
  (s.dropWhile p).rdropWhile p

/-- Trimming takes characters of the class from both ends and nothing else. -/
theorem exists_eq_append_trimBy (p : Char → Bool) (s : List Char) :
    ∃ before after, (∀ c ∈ before, p c = true) ∧ (∀ c ∈ after, p c = true) ∧
      s = before ++ trimBy p s ++ after := by
  refine ⟨s.takeWhile p, (s.dropWhile p).rtakeWhile p, ?_, ?_, ?_⟩
  · exact fun c hc => List.mem_takeWhile_imp hc
  · exact fun c hc => List.mem_rtakeWhile_imp hc
  · rw [List.append_assoc, trimBy, List.rdropWhile_append_rtakeWhile]
    exact List.takeWhile_append_dropWhile.symm

/-- What neither starts nor ends with a character of the class is found by trimming. -/
theorem trimBy_append {before s after : List Char} (hb : ∀ c ∈ before, p c = true)
    (ha : ∀ c ∈ after, p c = true) (hne : s ≠ []) (hfirst : p (s.head hne) = false)
    (hlast : p (s.getLast hne) = false) : trimBy p (before ++ s ++ after) = s := by
  have hstart : (before ++ s ++ after).dropWhile p = s ++ after := by
    rw [List.append_assoc, List.dropWhile_append_of_pos hb]
    cases s with
    | nil => exact absurd rfl hne
    | cons c r => exact List.dropWhile_cons_of_neg (by simpa using hfirst)
  have hend : s.rdropWhile p = s := List.rdropWhile_eq_self_iff.2 fun _ => by simp [hlast]
  rw [trimBy, hstart, List.rdropWhile, List.reverse_append,
    List.dropWhile_append_of_pos fun c hc => ha c (List.mem_reverse.1 hc)]
  exact hend

end YangSchema.Text
