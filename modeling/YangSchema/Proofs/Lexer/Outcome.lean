import YangSchema.Lexer.Progress

/-!
# Outcomes of readings

What the parts of readings give at a cursor, as equations. Skipping nothing leaves the cursor where
it is.
-/
namespace YangSchema.Scan

variable {α : Type}

@[simp]
theorem current?_apply (c : Cursor) : current? c = .ok c.current? c := rfl

@[simp]
theorem forward_apply (n : Nat) (c : Cursor) : forward n c = .ok () (c.advanceBy n) := rfl

@[simp]
theorem fail_apply (fault : SyntaxFault) (c : Cursor) :
    (fail fault : Scan α) c = .error ⟨fault, c.position⟩ c := rfl

@[simp]
theorem failAt_apply (fault : SyntaxFault) (p : Position) (c : Cursor) :
    (failAt fault p : Scan α) c = .error ⟨fault, p⟩ c := rfl

@[simp]
theorem atIdentifier_apply (policy : IdentifierPolicy) (c : Cursor) :
    atIdentifier policy c = .ok (c.current?.any (Shape.mayStart policy)) c := rfl

theorem offset_advanceBy (c : Cursor) (n : Nat) :
    (c.advanceBy n).offset = c.offset + min n c.rest.length := by
  induction n generalizing c with
  | zero => simp [Cursor.advanceBy]
  | succ n ih =>
    rw [Cursor.advanceBy, ih, Cursor.advance_rest]
    cases hr : c.rest with
    | nil => simp [Cursor.advance, hr]
    | cons ch r =>
      simp only [Cursor.advance, hr, List.tail_cons, List.length_cons]
      omega

theorem eq_or_offset_lt_of_skipGaps {c d : Cursor} (h : skipGaps c = .ok () d) :
    c = d ∨ c.offset < d.offset := by
  fun_induction skipGaps c with
  | case1 c => exact .inl (by simpa using h)
  | case2 c n hg ih =>
    obtain ⟨hn, hs⟩ := Shape.pos_of_gap_skip hg
    have hlt : c.offset < (c.advanceBy n).offset := by
      have := List.length_pos_iff.2 hs
      rw [offset_advanceBy]
      omega
    right
    obtain rfl | hd := ih h
    · exact hlt
    · omega
  | case3 => simp at h

theorem eq_of_skipSpace_false {c d : Cursor} (h : skipSpace c = .ok false d) : d = c := by
  unfold skipSpace at h
  split at h
  · next hg => cases eq_or_offset_lt_of_skipGaps hg <;> simp_all
  · simp at h

end YangSchema.Scan
