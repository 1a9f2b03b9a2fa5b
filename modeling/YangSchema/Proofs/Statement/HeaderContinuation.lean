import YangSchema.Proofs.Lexer.StringContinuation
import YangSchema.Statement.Parser

/-!
# Headers with another continuation

What was read of a header is read again before another mark that ends a header. Where a header
breaks off, something can be put that completes it.
-/
namespace YangSchema.Scan

variable {settings : ParserSettings} {policy : IdentifierPolicy} {c d : Cursor} {e : SyntaxError}
  {name q t u x y z : List Char}

theorem accepts_name (hn : IsName policy name) (hx : Delimits x) :
    Accepts (readKeyword policy) (name ++ x) x := by
  intro c hc
  have hrest := Cursor.rest_advanceBy_length hc
  have hcolon : (c.advanceBy name.length).current? ≠ some ':' := by
    rw [Cursor.current?, hrest]
    exact fun h => (hx ':' h).2 rfl
  refine ⟨(none, String.ofList name), _, ?_, hrest⟩
  simp [readKeyword, readIdentifier_name hc hn hx.endsName, hcolon]

theorem accepts_qualifiedName (hq : IsName policy q) (hn : IsName policy name) (hx : Delimits x) :
    Accepts (readKeyword policy) (q ++ ':' :: (name ++ x)) x := by
  intro c hc
  have hrest := Cursor.rest_advanceBy_length hc
  have hcolon : (c.advanceBy q.length).current? = some ':' := by
    rw [Cursor.current?, hrest]
    rfl
  have hafter : ((c.advanceBy q.length).advanceBy 1).rest = name ++ x := by
    rw [Cursor.advanceBy_rest, hrest]
    rfl
  refine ⟨(some (String.ofList q), String.ofList name), _, ?_,
    Cursor.rest_advanceBy_length hafter⟩
  simp [readKeyword, readIdentifier_name hc hq (by rfl), hcolon,
    readIdentifier_name hafter hn hx.endsName]

theorem readKeyword_continues {k : Option String × String} (h : readKeyword policy c = .ok k d) :
    ∃ t, c.Past t d ∧ ∀ x, Delimits x → Accepts (readKeyword policy) (t ++ x) x := by
  unfold readKeyword at h
  simp only [bind_eq_ok, current?_eq_ok] at h
  obtain ⟨first, _, h₁, _, d₁, ⟨rfl, rfl⟩, h⟩ := h
  have hfirst := isName_of_readIdentifier h₁
  have hpast₁ := past_of_readIdentifier h₁
  split at h
  · next hcolon =>
    simp only [bind_eq_ok, forward_eq_ok, pure_eq_ok] at h
    obtain ⟨_, _, rfl, second, _, h₂, _, rfl⟩ := h
    have hpast := (hpast₁.trans (Cursor.past_of_current? hcolon)).trans (past_of_readIdentifier h₂)
    have hsecond := isName_of_readIdentifier h₂
    refine ⟨_, hpast, fun x hx => ?_⟩
    simpa using accepts_qualifiedName hfirst hsecond hx
  · rw [pure_eq_ok] at h
    obtain ⟨-, rfl⟩ := h
    exact ⟨_, hpast₁, fun x hx => accepts_name hfirst hx⟩

/-- A name can come wherever one was missing or was not allowed. -/
theorem readKeyword_stops (h : readKeyword policy c = .error e d) :
    ∃ t d', c.Past t d' ∧ e.position = d'.position ∧
      ∀ x, Delimits x → Accepts (readKeyword policy) (t ++ 'a' :: x) x := by
  have ha := isName_singleton policy
  unfold readKeyword at h
  simp only [bind_apply, current?_apply, ite_apply, forward_apply, pure_apply] at h
  split at h
  · next first d₁ h₁ =>
    have hfirst := isName_of_readIdentifier h₁
    have hpast₁ := past_of_readIdentifier h₁
    split at h
    · next hcolon =>
      split at h
      · cases h
      · next h₂ =>
        cases h
        refine ⟨_, _, hpast₁.trans (Cursor.past_of_current? hcolon), position_of_readIdentifier h₂,
          fun x hx => ?_⟩
        simpa using accepts_qualifiedName hfirst ha hx
    · cases h
  · next h₁ =>
    cases h
    exact ⟨[], _, .refl c, position_of_readIdentifier h₁, fun x hx => accepts_name ha hx⟩

def readTail (settings : ParserSettings) : Scan (Option String) := do
  let argument ← readArgument? settings
  let _ ← skipSpace
  return argument

theorem readHeader_eq (settings : ParserSettings) :
    readHeader settings = do
      let position := (← get).position
      let (qualifier, name) ← readKeyword settings.identifierPolicy
      let argument ← readTail settings
      return { name, position, qualifier, argument } := by
  funext c
  simp only [readHeader, readTail, bind_apply, get_apply]
  cases readKeyword settings.identifierPolicy c with
  | error e d => rfl
  | ok k d =>
    simp only
    cases readArgument? settings d with
    | error e f => rfl
    | ok a f =>
      simp only
      cases skipSpace f <;> rfl

theorem delimits_of_accepts (h : Accepts skipGaps x z) : x = z ∨ Delimits x := by
  obtain ⟨ch, r, rfl, hch⟩ | ⟨r, rfl⟩ | ⟨r, rfl⟩ | hnone := Shape.gap_cases x
  · refine .inr fun _ h => ?_
    cases h
    simp only [Shape.isSpace, Bool.or_eq_true, decide_eq_true_eq] at hch
    obtain ((rfl | rfl) | rfl) | rfl := hch <;> decide
  · exact .inr fun _ h => by cases h; decide
  · exact .inr fun _ h => by cases h; decide
  · obtain ⟨_, d, hd, rfl⟩ := h { rest := x } rfl
    rw [skipGaps_of_none hnone] at hd
    cases hd
    exact .inl rfl

theorem Terminates.delimits (h : Terminates x) : Delimits x := by
  intro ch hch
  obtain h | h := h
  all_goals
    cases h.symm.trans hch
    decide

theorem readString?_of_terminates (hc : Terminates c.rest) :
    readString? settings c = .ok none c := by
  obtain h | h := hc
  · exact readString?_terminator settings (List.cons_head?_tail h).symm (.inl rfl)
  · exact readString?_terminator settings (List.cons_head?_tail h).symm (.inr rfl)

theorem accepts_tail_none (h : Accepts skipGaps x z) (hz : Terminates z) :
    Accepts (readTail settings) x z := by
  intro c hc
  obtain ⟨b, d, hd, hrest⟩ := accepts_skipSpace_iff.2 h c hc
  refine ⟨none, d, ?_, hrest⟩
  simp only [readTail, readArgument?, bind_apply, hd]
  cases b with
  | false =>
    obtain rfl := eq_of_skipSpace_false hd
    simp only [hd, pure_apply]
  | true =>
    rw [← hrest] at hz
    simp only [readString?_of_terminates hz, hd, pure_apply]

theorem admits_tail_string (h : Accepts skipGaps (t ++ x) x) (ht : t ≠ [])
    (hx : Takes settings x y) (hy : Accepts skipGaps y z) :
    Admits (readTail settings) (t ++ x) z := by
  intro c hc
  obtain ⟨b, d, hd, hrest⟩ := accepts_skipSpace_iff.2 h c hc
  obtain rfl : b = true := by
    cases b with
    | true => rfl
    | false =>
      obtain rfl := eq_of_skipSpace_false hd
      rw [hc, List.append_left_eq_self] at hrest
      exact absurd hrest ht
  obtain ⟨e, f, hf, hlimit⟩ | ⟨a, f, hf, hfrest⟩ := hx.read d hrest
  · refine .inl ⟨e, f, ?_, hlimit⟩
    simp only [readTail, readArgument?, bind_apply, hd, hf]
  · obtain ⟨_, g, hg, hgrest⟩ := accepts_skipSpace_iff.2 hy f hfrest
    refine .inr ⟨some a, g, ?_, hgrest⟩
    simp only [readTail, readArgument?, bind_apply, hd, hf, hg, pure_apply]

/-- An argument is a string after white space. -/
theorem readArgument?_cases {a : Option String} (h : readArgument? settings c = .ok a d) :
    a = none ∧ d = c ∨ ∃ v k, a = some v ∧ skipSpace c = .ok true k ∧
      readString? settings k = .ok (some v) d := by
  unfold readArgument? at h
  split at h
  · cases h
  · next hs =>
    cases h
    exact .inl ⟨rfl, eq_of_skipSpace_false hs⟩
  · next k hs =>
    split at h
    · cases h
    · cases h
      exact .inl ⟨rfl, rfl⟩
    · next v _ hv =>
      cases h
      exact .inr ⟨v, k, rfl, hs, hv⟩

theorem readArgument?_error_cases (h : readArgument? settings c = .error e d) :
    skipSpace c = .error e d ∨
      ∃ k, skipSpace c = .ok true k ∧ readString? settings k = .error e d := by
  unfold readArgument? at h
  split at h
  · next hs =>
    cases h
    exact .inl hs
  · cases h
  · next k hs =>
    split at h
    · next hv =>
      cases h
      exact .inr ⟨k, hs, hv⟩
    · cases h
    · cases h

theorem skipSpace_continues {b : Bool} (h : skipSpace c = .ok b d) :
    ∃ t, c.Past t d ∧ (b = true → t ≠ []) ∧ Shape.gap d.rest = .none ∧
      ∀ x z, Resumes d.rest x z → Accepts skipGaps (t ++ x) z := by
  unfold skipSpace at h
  split at h
  · next hs =>
    cases h
    obtain ⟨t, hpast, hx⟩ := skipGaps_continues hs
    refine ⟨t, hpast, fun hb ht => ?_, gap_of_skipGaps hs, hx⟩
    obtain rfl : d = c := by rw [hpast.stop, ht]; rfl
    simp at hb
  · cases h

theorem skipSpace_stops (h : skipSpace c = .error e d) :
    ∃ t d', c.Past t d' ∧ e.position = d'.position ∧
      ∀ x, Shape.gap x = .none → Accepts skipGaps (t ++ x) x := by
  unfold skipSpace at h
  split at h
  · cases h
  · next hs =>
    cases h
    obtain ⟨t, d', hpast, he, -, hx⟩ := skipGaps_stops hs
    exact ⟨t, d', hpast, he, hx⟩

theorem readString?_of_nil (hc : c.rest = []) : readString? settings c = .ok none c := by
  have hquote : c.current?.any Shape.isQuote = false := by rw [Cursor.current?, hc]; rfl
  have hend : Shape.atWordEnd c.rest = true := by rw [hc]; rfl
  simp [readString?, hquote, hend]

/-- The texts that are a tail of a header up to what ends it, and can stand after a keyword. -/
structure Tail (settings : ParserSettings) (x z : List Char) : Prop where
  admits : Admits (readTail settings) x z
  delimits : Delimits x

theorem tail_of_none (h : Accepts skipGaps x z) (hz : Terminates z) : Tail settings x z where
  admits := (accepts_tail_none h hz).admits
  delimits := (delimits_of_accepts h).elim (fun heq => heq ▸ hz.delimits) id

theorem tail_of_string (h : Accepts skipGaps (t ++ x) x) (ht : t ≠ [])
    (hx : Takes settings x y) (hy : Accepts skipGaps y z) : Tail settings (t ++ x) z where
  admits := admits_tail_string h ht hx hy
  delimits := (delimits_of_accepts h).resolve_left fun heq => ht (List.append_left_eq_self.1 heq)

/-- White space and a string, with the rest of a tail: another rest takes its place. -/
theorem exists_string {a : String} {f : Cursor} (hs : skipSpace c = .ok true d)
    (hv : readString? settings d = .ok (some a) f) :
    ∃ t, c.Past t f ∧ ∀ x z, Shape.Recut f.rest x → Accepts skipGaps x z → Terminates z →
      Tail settings (t ++ x) z := by
  obtain ⟨t₁, hpast₁, hne, hgap, hx₁⟩ := skipSpace_continues hs
  obtain ⟨t₂, hpast₂, hx₂⟩ := readString?_continues hgap hv
  have hrest : d.rest ≠ [] := mt readString?_of_nil (by rw [hv]; simp)
  refine ⟨_, hpast₁.trans hpast₂, fun x z hrecut hgaps hz => ?_⟩
  have htakes := hx₂ x z hrecut hgaps hz
  rw [List.append_assoc]
  exact tail_of_string (hx₁ _ _ (resumes_self hrest htakes.gap)) (hne rfl) htakes hgaps

theorem readTail_continues {a : Option String} (h : readTail settings c = .ok a d) :
    Continues Terminates (Tail settings) c d := by
  unfold readTail at h
  simp only [bind_eq_ok, pure_eq_ok] at h
  obtain ⟨a', k, ha, b, _, hs, -, rfl⟩ := h
  obtain ⟨t, hpast, -, -, hx⟩ := skipSpace_continues hs
  obtain ⟨-, rfl⟩ | ⟨v, g, -, hg, hv⟩ := readArgument?_cases ha
  · exact ⟨t, hpast, fun x z _ hxz hz => tail_of_none (hx x z hxz) hz⟩
  · obtain ⟨t₁, hpast₁, hx₁⟩ := exists_string hg hv
    refine ⟨_, hpast₁.trans hpast, fun x z hrecut hxz hz => ?_⟩
    rw [List.append_assoc]
    refine hx₁ _ _ ?_ (hx x z hxz) hz
    rw [hpast.rest]
    exact hrecut.append t

theorem readTail_stops (h : readTail settings c = .error e d) (hlimit : e.fault.isLimit = false) :
    Viable Terminates (Tail settings) c e.position := by
  unfold readTail at h
  simp only [bind_apply, pure_apply] at h
  split at h
  · next a k ha =>
    split at h
    · cases h
    · next hs =>
      cases h
      obtain ⟨t, d', hpast, he, hx⟩ := skipSpace_stops hs
      obtain ⟨-, rfl⟩ | ⟨v, g, -, hg, hv⟩ := readArgument?_cases ha
      · exact ⟨t, d', [], hpast, he, by decide, fun z hz _ => tail_of_none (hx z hz.gap) hz⟩
      · obtain ⟨t₁, hpast₁, hx₁⟩ := exists_string hg hv
        refine ⟨_, d', [], hpast₁.trans hpast, he, by decide, fun z hz hslash => ?_⟩
        rw [List.append_assoc, List.nil_append]
        refine hx₁ _ _ ?_ (hx z hz.gap) hz
        rw [hpast.rest]
        exact (Shape.recut_of_notMem hslash _).append t
  · next ha =>
    cases h
    obtain hs | ⟨g, hg, hv⟩ := readArgument?_error_cases ha
    · obtain ⟨t, d', hpast, he, hx⟩ := skipSpace_stops hs
      exact ⟨t, d', [], hpast, he, by decide, fun z hz _ => tail_of_none (hx z hz.gap) hz⟩
    · obtain ⟨t₁, hpast₁, hne, hgap, hx₁⟩ := skipSpace_continues hg
      obtain ⟨t₂, d', w, hpast₂, he, hw, hx₂⟩ := readString?_stops hv hlimit
      have hrest : g.rest ≠ [] := mt readString?_of_nil (by rw [hv]; simp)
      refine ⟨_, d', w, hpast₁.trans hpast₂, he, hw, fun z hz hslash => ?_⟩
      obtain ⟨y, htakes, hy⟩ := hx₂ z hz hslash
      rw [List.append_assoc]
      exact tail_of_string (hx₁ _ _ (resumes_self hrest htakes.gap)) (hne rfl) htakes hy

theorem admits_header
    (hk : ∀ x, Delimits x → Accepts (readKeyword settings.identifierPolicy) (t ++ x) x)
    (h : Tail settings x z) : Admits (readHeader settings) (t ++ x) z := by
  rw [readHeader_eq]
  intro c hc
  obtain ⟨⟨q, name⟩, d, hd, hrest⟩ := hk x h.delimits c hc
  obtain ⟨e, f, hf, hlimit⟩ | ⟨a, f, hf, hfrest⟩ := h.admits d hrest
  · refine .inl ⟨e, f, ?_, hlimit⟩
    simp only [bind_apply, get_apply, hd, hf]
  · refine .inr ⟨⟨name, c.position, q, a⟩, f, ?_, hfrest⟩
    simp only [bind_apply, get_apply, hd, hf, pure_apply]

theorem readHeader_continues {header : Header} (h : readHeader settings c = .ok header d) :
    Continues Terminates (Admits (readHeader settings)) c d := by
  rw [readHeader_eq] at h
  simp only [bind_eq_ok, get_eq_ok, pure_eq_ok] at h
  obtain ⟨_, _, ⟨rfl, rfl⟩, _, k, hk, a, _, ha, -, rfl⟩ := h
  obtain ⟨t₁, hpast₁, hx₁⟩ := readKeyword_continues hk
  obtain ⟨t₂, hpast₂, hx₂⟩ := readTail_continues ha
  refine ⟨_, hpast₁.trans hpast₂, fun x z hrecut hxz hz => ?_⟩
  rw [List.append_assoc]
  exact admits_header hx₁ (hx₂ x z hrecut hxz hz)

theorem readHeader_stops (h : readHeader settings c = .error e d)
    (hlimit : e.fault.isLimit = false) :
    Viable Terminates (Admits (readHeader settings)) c e.position := by
  rw [readHeader_eq] at h
  simp only [bind_apply, get_apply, pure_apply] at h
  split at h
  · next k hk =>
    obtain ⟨t₁, hpast₁, hx₁⟩ := readKeyword_continues hk
    split at h
    · cases h
    · next ha =>
      cases h
      obtain ⟨t₂, d', w, hpast₂, he, hw, hx₂⟩ := readTail_stops ha hlimit
      refine ⟨_, d', w, hpast₁.trans hpast₂, he, hw, fun z hz hslash => ?_⟩
      rw [List.append_assoc]
      exact admits_header hx₁ (hx₂ z hz hslash)
  · next hk =>
    cases h
    obtain ⟨t, d', hpast, he, hx⟩ := readKeyword_stops hk
    refine ⟨t, d', ['a'], hpast, he, by decide, fun z hz _ => ?_⟩
    have hname (x : List Char) (hx' : Delimits x) :
        Accepts (readKeyword settings.identifierPolicy) (t ++ ['a'] ++ x) x := by
      simpa using hx x hx'
    simpa using admits_header hname (tail_of_none (accepts_skipGaps_none hz.gap) hz)

end YangSchema.Scan
