import YangSchema.Lexer.Basic
import YangSchema.Outcome

/-!
# Readings go forward

After a reading that succeeds, the rest of the text is an end of what it was. An identifier takes at
least one character.
-/
namespace YangSchema.Scan

theorem failAt_ne_ok {α : Type} {fault : SyntaxFault} {p : Position} {c d : Cursor} {a : α} :
    (failAt fault p : Scan α) c ≠ .ok a d := by
  change EStateM.Result.error _ _ ≠ _
  simp

theorem fail_ne_ok {α : Type} {fault : SyntaxFault} {c d : Cursor} {a : α} :
    (fail fault : Scan α) c ≠ .ok a d := by
  change EStateM.Result.error _ _ ≠ _
  simp

theorem forward_eq_ok {n : Nat} {c d : Cursor} {u : Unit} :
    forward n c = .ok u d ↔ c.advanceBy n = d := by
  change EStateM.Result.ok () (c.advanceBy n) = .ok u d ↔ _
  simp

theorem current?_eq_ok {c d : Cursor} {a : Option Char} :
    current? c = .ok a d ↔ c.current? = a ∧ c = d := by
  change EStateM.Result.ok c.current? c = .ok a d ↔ _
  simp

theorem suffix_of_forward {n : Nat} {c d : Cursor} {u : Unit} (h : forward n c = .ok u d) :
    d.rest <:+ c.rest := by
  rw [forward_eq_ok] at h
  subst h
  simpa using List.drop_suffix n c.rest

theorem suffix_of_skipSpace {c d : Cursor} {b : Bool} (h : skipSpace c = .ok b d) :
    d.rest <:+ c.rest := by
  unfold skipSpace at h
  split at h
  · next hs =>
    cases h
    exact suffix_of_skipGaps hs
  · simp at h

theorem suffix_of_readJoined {c d : Cursor} {v : List Char} (h : readJoined c = .ok v d) :
    d.rest <:+ c.rest := by
  fun_induction readJoined c generalizing v d with
  | case5 c _ _ h₁ _ h₂ _ _ h₃ _ _ _ h₄ _ _ hk ih =>
    cases h
    have h₃ := suffix_of_skipGaps h₃
    simp only [Cursor.advance_rest] at h₃
    exact (ih hk).trans <| (suffix_of_readSegment h₄).trans <| h₃.trans <|
      (List.tail_suffix _).trans (suffix_of_skipGaps h₁)
  | _ => simp_all

theorem suffix_of_readQuoted {c d : Cursor} {v : List Char} (h : readQuoted c = .ok v d) :
    d.rest <:+ c.rest := by
  unfold readQuoted at h
  split at h
  · simp at h
  · next h₁ =>
    split at h
    · simp at h
    · next h₂ =>
      cases h
      exact (suffix_of_readJoined h₂).trans (suffix_of_readSegment h₁)

theorem suffix_of_readWord {c d : Cursor} {v : List Char} (h : readWord c = .ok v d) :
    d.rest <:+ c.rest := by
  unfold readWord at h
  simp only [bind_eq_ok, pure_eq_ok, get_eq_ok] at h
  obtain ⟨_, _, ⟨rfl, rfl⟩, _, _, h₁, _, rfl⟩ := h
  exact suffix_of_forward h₁

theorem withoutLayout_eq_ok {settings : ParserSettings} {p : Position} {value : List Char}
    {text : String} {c d : Cursor} : withoutLayout settings p value c = .ok text d ↔
      Dedent.strip? value p.column settings.tabWidth = some text.toList ∧ c = d := by
  unfold withoutLayout
  cases Dedent.strip? value p.column settings.tabWidth with
  | none => exact iff_of_false fail_ne_ok (by simp)
  | some t => rw [pure_eq_ok, Option.some.injEq, ← String.toList_inj, String.toList_ofList]

theorem suffix_of_readString? {settings : ParserSettings} {c d : Cursor} {v : Option String}
    (h : readString? settings c = .ok v d) : d.rest <:+ c.rest := by
  unfold readString? at h
  simp only [bind_eq_ok, get_eq_ok] at h
  obtain ⟨_, _, ⟨rfl, rfl⟩, h⟩ := h
  split at h
  · simp only [bind_eq_ok, pure_eq_ok] at h
    obtain ⟨_, _, h₁, _, _, h₂, _, rfl⟩ := h
    exact (withoutLayout_eq_ok.1 h₂).2 ▸ suffix_of_readQuoted h₁
  · split at h
    · rw [pure_eq_ok] at h
      exact h.2 ▸ List.suffix_rfl
    · simp only [bind_eq_ok, pure_eq_ok] at h
      obtain ⟨_, _, h₁, _, _, h₂, _, rfl⟩ := h
      exact (withoutLayout_eq_ok.1 h₂).2 ▸ suffix_of_readWord h₁

theorem isIdentifierChar_of_mayStart {policy : IdentifierPolicy} {ch : Char}
    (h : Shape.mayStart policy ch = true) : Shape.isIdentifierChar ch = true := by
  simp only [Shape.mayStart, Shape.isIdentifierStart, Bool.and_eq_true, Bool.or_eq_true] at h
  simp only [Shape.isIdentifierChar, Char.isAlphanum, Bool.or_eq_true]
  grind

/-- An identifier takes at least one character. -/
theorem length_lt_of_readIdentifier {policy : IdentifierPolicy} {c d : Cursor} {name : String}
    (h : readIdentifier policy c = .ok name d) : d.rest.length < c.rest.length := by
  unfold readIdentifier at h
  simp only [bind_eq_ok, get_eq_ok] at h
  obtain ⟨_, _, ⟨rfl, rfl⟩, h⟩ := h
  split at h
  · next hs =>
    simp only [bind_eq_ok, forward_eq_ok] at h
    obtain ⟨_, _, rfl, h⟩ := h
    split at h
    · exact absurd h failAt_ne_ok
    · rw [pure_eq_ok] at h
      obtain ⟨_, rfl⟩ := h
      cases hr : c.rest with
      | nil => simp [Cursor.current?, hr] at hs
      | cons ch r =>
        simp only [Cursor.current?, hr, List.head?_cons, Option.any_some] at hs
        rw [Cursor.advanceBy_rest, hr, List.takeWhile_cons_of_pos (isIdentifierChar_of_mayStart hs)]
        simp only [List.length_cons, List.drop_succ_cons, List.length_drop]
        omega
  · exact absurd h fail_ne_ok

end YangSchema.Scan
