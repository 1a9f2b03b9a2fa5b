import YangSchema.Proofs.Lexer.StringContinuation

/-!
# Texts with other line ends

A text in which lines end with line feeds, and the same text with carriage returns or with both
instead. White space, comments, names and words are the same in both, at the same lines and columns.
A string in quotes has the other line ends in its value; they go away with its layout, but for those
that stand next to a line break that is written as an escape and make a single one with it.
-/
namespace YangSchema

inductive LineEnd where
  | carriage
  | pair
  deriving Repr, DecidableEq

namespace LineEnd

def tail : LineEnd → List Char
  | carriage => []
  | pair => ['\n']

def spell (e : LineEnd) (s : List Char) : List Char :=
  s.flatMap fun c => if c = '\n' then '\r' :: e.tail else [c]

variable {e : LineEnd} {c : Char} {r s t : List Char} {n : Nat}

theorem spell_feed (e : LineEnd) (r : List Char) :
    e.spell ('\n' :: r) = '\r' :: (e.tail ++ e.spell r) := by
  simp [spell]

theorem spell_cons (hc : c ≠ '\n') (r : List Char) : e.spell (c :: r) = c :: e.spell r := by
  simp [spell, hc]

theorem spell_append (s t : List Char) : e.spell (s ++ t) = e.spell s ++ e.spell t := by
  simp [spell]

theorem spell_eq_self (hs : '\n' ∉ s) : e.spell s = s := by
  induction s with
  | nil => rfl
  | cons c s ih =>
    rw [List.mem_cons, not_or] at hs
    rw [spell_cons (Ne.symm hs.1), ih hs.2]

/-- What begins with no line end begins as it did. -/
theorem head?_spell (hn : c ≠ '\n') (hr : c ≠ '\r') :
    (e.spell s).head? = some c ↔ s.head? = some c := by
  cases s with
  | nil => rfl
  | cons d s =>
    by_cases hd : d = '\n'
    · subst hd
      simp [spell_feed, hn.symm, hr.symm]
    · simp [spell_cons hd]

theorem spell_eq_cons (hn : c ≠ '\n') (hr : c ≠ '\r') :
    e.spell s = c :: t ↔ ∃ r, s = c :: r ∧ e.spell r = t := by
  cases s with
  | nil => simp [spell]
  | cons d s =>
    by_cases hd : d = '\n'
    · subst hd
      simp [spell_feed, hn.symm, hr.symm]
    · simp [spell_cons hd]

theorem head?_carriage (s : List Char) : (carriage.spell s).head? ≠ some '\n' := by
  cases s with
  | nil => simp [spell]
  | cons d s =>
    by_cases hd : d = '\n'
    · simp [hd, spell_feed]
    · simp [spell_cons hd, hd]

theorem any_head?_spell {p : Char → Bool} (hp : p '\r' = p '\n') (s : List Char) :
    (e.spell s).head?.any p = s.head?.any p := by
  cases s with
  | nil => rfl
  | cons d s =>
    by_cases hd : d = '\n'
    · simp [hd, spell_feed, hp]
    · simp [spell_cons hd]

theorem takeWhile_spell {p : Char → Bool} (hr : p '\r' = false) (hn : p '\n' = false)
    (s : List Char) : (e.spell s).takeWhile p = s.takeWhile p := by
  induction s with
  | nil => rfl
  | cons c s ih =>
    by_cases hc : c = '\n'
    · simp [hc, spell_feed, hr, hn]
    · simp [spell_cons hc, List.takeWhile_cons, ih]

end LineEnd

/-! ### Shapes -/

namespace Shape
open LineEnd

variable {e : LineEnd} {q : Option Char} {c : Char} {r s : List Char} {n : Nat}

theorem closer?_of_ne (hc : c ≠ '*') (r : List Char) :
    closer? (c :: r) = (closer? r).map (· + 1) := by
  rw [closer?_cons, if_neg (fun h => hc h.1)]

theorem drop_of_closer? (h : closer? s = some n) : ∃ u, s.drop n = '*' :: '/' :: u := by
  induction s generalizing n with
  | nil => cases h
  | cons c r ih =>
    rw [closer?_cons] at h
    split at h
    · next hc =>
      cases h
      obtain ⟨rfl, hr⟩ := hc
      exact ⟨r.tail, by rw [List.drop_zero, List.cons_head?_tail hr]⟩
    · obtain ⟨m, hm, rfl⟩ := Option.map_eq_some_iff.1 h
      exact ih hm

theorem closer?_spell (s : List Char) :
    closer? (e.spell s) = (closer? s).map fun n => (e.spell (s.take n)).length := by
  induction s with
  | nil => rfl
  | cons c r ih =>
    by_cases hc : c = '\n'
    · subst hc
      have htail : closer? (e.tail ++ e.spell r) =
          (closer? (e.spell r)).map (· + e.tail.length) := by
        cases e with
        | carriage => simp [tail]
        | pair => exact closer?_of_ne (by decide) _
      rw [spell_feed, closer?_of_ne (by decide), htail, closer?_of_ne (by decide), ih]
      cases closer? r with
      | none => rfl
      | some n =>
        simp only [Option.map_some, List.take_succ_cons, spell_feed, List.length_cons,
          List.length_append]
        congr 1
        omega
    · simp only [spell_cons hc, closer?_cons, head?_spell (c := '/') (by decide) (by decide)]
      split
      · rfl
      · rw [ih]
        cases closer? r with
        | none => rfl
        | some n => simp [spell_cons hc]

theorem gap_spell_of_none (h : gap s = .none) : gap (e.spell s) = .none := by
  obtain ⟨c, r, hs, hc⟩ | ⟨r, hs⟩ | ⟨r, hs⟩ | hnone := gap_cases (e.spell s)
  · have hany := any_head?_spell (e := e) (p := isSpace) rfl s
    rw [hs, List.head?_cons, Option.any_some, hc, eq_comm, Option.any_eq_true] at hany
    obtain ⟨d, hd, hspace⟩ := hany
    rw [← List.cons_head?_tail hd, gap_space hspace] at h
    cases h
  · obtain ⟨u, rfl, hu⟩ := (spell_eq_cons (by decide) (by decide)).1 hs
    obtain ⟨v, rfl, -⟩ := (spell_eq_cons (by decide) (by decide)).1 hu
    cases h
  · obtain ⟨u, rfl, hu⟩ := (spell_eq_cons (by decide) (by decide)).1 hs
    obtain ⟨v, rfl, -⟩ := (spell_eq_cons (by decide) (by decide)).1 hu
    rw [gap_block] at h
    split at h <;> cases h
  · exact hnone

theorem gap_block_spell (r : List Char) :
    gap (e.spell ('/' :: '*' :: r)) = match closer? r with
      | some n => .skip ((e.spell (r.take n)).length + 4)
      | none => .unterminated := by
  rw [spell_cons (by decide), spell_cons (by decide), gap_block, closer?_spell]
  cases closer? r <;> rfl

theorem atGap_spell (s : List Char) : atGap (e.spell s) = atGap s := by
  obtain ⟨c, r, rfl, hc⟩ | ⟨r, rfl⟩ | ⟨r, rfl⟩ | hnone := gap_cases s
  · by_cases hfeed : c = '\n'
    · subst hfeed
      rw [spell_feed, atGap_of_space hc, atGap_of_space rfl]
    · rw [spell_cons hfeed, atGap_of_space hc, atGap_of_space hc]
  · rw [spell_cons (by decide), spell_cons (by decide)]
    rfl
  · rw [atGap, atGap, gap_block_spell, gap_block]
    cases closer? r <;> rfl
  · rw [atGap, atGap, hnone, gap_spell_of_none hnone]

theorem atWordEnd_spell (s : List Char) : atWordEnd (e.spell s) = atWordEnd s := by
  cases s with
  | nil => rfl
  | cons c r =>
    by_cases hc : c = '\n'
    · subst hc
      rw [spell_feed, atWordEnd_of_space rfl, atWordEnd_of_space rfl]
    · have hgap := atGap_spell (e := e) (c :: r)
      rw [spell_cons hc] at hgap ⊢
      rw [atWordEnd, atWordEnd, hgap]

theorem wordTail_spell (s : List Char) : wordTail (e.spell s) = wordTail s := by
  induction s with
  | nil => rfl
  | cons c r ih =>
    have hend := atWordEnd_spell (e := e) (c :: r)
    by_cases hc : c = '\n'
    · subst hc
      have hstop : atWordEnd ('\n' :: r) = true := atWordEnd_of_space rfl r
      rw [hstop, spell_feed] at hend
      rw [spell_feed, wordTail, if_pos hend, wordTail, if_pos hstop]
    · rw [spell_cons hc] at hend ⊢
      rw [wordTail, wordTail, hend, ih]

end Shape
/-! ### Cursors -/

namespace Cursor

/-- A cursor that was reached from a first one, and a cursor at the same place of the text with the
other line ends. -/
structure Respelled (e : LineEnd) (o c c' : Cursor) : Prop where
  reached : ∃ n, c = o.advanceBy n
  rest : c'.rest = e.spell c.rest
  position : c'.position = c.position
  clean : '\r' ∉ c.rest

variable {e : LineEnd} {o c c' d : Cursor} {ch : Char} {r t : List Char}

theorem Respelled.head? {m : Char} (h : Respelled e o c c') (hn : m ≠ '\n') (hr : m ≠ '\r') :
    c'.current? = some m ↔ c.current? = some m := by
  rw [current?, h.rest, LineEnd.head?_spell hn hr, current?]

theorem Respelled.any_head? (h : Respelled e o c c') {p : Char → Bool} (hp : p '\r' = p '\n') :
    c'.current?.any p = c.current?.any p := by
  rw [current?, h.rest, LineEnd.any_head?_spell hp, current?]

theorem position_advance (h : c.rest = ch :: r) :
    c.advance.position = positionAfter c.position ch r := by
  rw [advance, h]

/-- After a line end of either kind a new line begins. -/
theorem position_feed (e : LineEnd) (h : c.rest = e.spell ('\n' :: r)) :
    (c.advanceBy (e.spell ['\n']).length).position = ⟨c.position.line + 1, 1⟩ := by
  rw [LineEnd.spell_feed] at h
  cases e with
  | carriage =>
    have hends : endsLine '\r' (LineEnd.carriage.spell r) = true := by
      simp [endsLine, LineEnd.head?_carriage]
    change c.advance.position = _
    rw [position_advance h]
    exact if_pos hends
  | pair =>
    have hrest : c.advance.rest = '\n' :: LineEnd.pair.spell r := by
      rw [advance_rest, h]
      rfl
    change c.advance.advance.position = _
    rw [position_advance hrest, position_advance h]
    rfl

theorem Respelled.advance (h : Respelled e o c c') (hr : c.rest = ch :: r) :
    Respelled e o c.advance (c'.advanceBy (e.spell [ch]).length) where
  reached := by
    obtain ⟨n, rfl⟩ := h.reached
    exact ⟨n + 1, (advanceBy_add o n 1).symm⟩
  rest := by
    have hsplit : e.spell (ch :: r) = e.spell [ch] ++ e.spell r := LineEnd.spell_append [ch] r
    rw [advanceBy_rest, h.rest, advance_rest, hr, hsplit, List.drop_left, List.tail_cons]
  position := by
    by_cases hc : ch = '\n'
    · subst hc
      rw [position_feed e (h.rest.trans (by rw [hr])), position_advance hr, h.position]
      rfl
    · have hreturn : ch ≠ '\r' := by
        rintro rfl
        exact h.clean (by simp [hr])
      have hrest : c'.rest = ch :: e.spell r := by rw [h.rest, hr, LineEnd.spell_cons hc]
      rw [LineEnd.spell_cons hc]
      change c'.advance.position = _
      rw [position_advance hrest, position_advance hr, h.position]
      simp [positionAfter, endsLine, hc, hreturn]
  clean := by
    rw [advance_rest]
    exact fun hm => h.clean (List.mem_of_mem_tail hm)

theorem Respelled.past (h : Respelled e o c c') (hp : c.Past t d) :
    Respelled e o d (c'.advanceBy (e.spell t).length) := by
  induction t generalizing c c' with
  | nil =>
    obtain rfl := hp.stop
    exact h
  | cons ch t ih =>
    have hnext : c.advance.Past t d :=
      ⟨by rw [advance_rest, hp.rest, List.cons_append, List.tail_cons], hp.stop⟩
    rw [← List.singleton_append, LineEnd.spell_append, List.length_append, advanceBy_add]
    exact ih (h.advance hp.rest) hnext

theorem Respelled.next (h : Respelled e o c c') (hc : c.current? = some ch) (hn : ch ≠ '\n') :
    Respelled e o c.advance c'.advance := by
  have hadvance := h.advance (List.cons_head?_tail hc).symm
  rwa [LineEnd.spell_cons hn] at hadvance

end Cursor

/-! ### White space -/

namespace Scan

variable {e : LineEnd} {o c c' d : Cursor} {s : List Char} {n : Nat}

/-- A line feed after a carriage return is white space of its own. -/
theorem skipGaps_tail {x : List Char} (h : c.rest = e.tail ++ x) :
    skipGaps c = skipGaps (c.advanceBy e.tail.length) := by
  cases e with
  | carriage => rfl
  | pair =>
    refine skipGaps_of_skip ?_
    rw [h]
    rfl

/-- A gap up to a carriage return is a gap up to the end of its line. -/
theorem skipGaps_feed {t x : List Char} (h : c.rest = t ++ '\r' :: (e.tail ++ x))
    (hgap : Shape.gap c.rest = .skip (t.length + 1)) :
    skipGaps c = skipGaps (c.advanceBy (t ++ '\r' :: e.tail).length) := by
  have hlen : (t ++ '\r' :: e.tail).length = (t ++ ['\r']).length + e.tail.length := by
    simp
    omega
  have hrest : (c.advanceBy (t ++ ['\r']).length).rest = e.tail ++ x :=
    Cursor.rest_advanceBy_length (by simpa using h)
  have hskip : skipGaps c = skipGaps (c.advanceBy (t ++ ['\r']).length) :=
    skipGaps_of_skip (by simpa using hgap)
  rw [hskip, skipGaps_tail hrest, hlen, Cursor.advanceBy_add]

theorem skipGaps_space {ch : Char} {r : List Char} (hch : Shape.isSpace ch = true)
    (hc : c.rest = e.spell (ch :: r)) :
    skipGaps c = skipGaps (c.advanceBy (e.spell [ch]).length) := by
  by_cases hfeed : ch = '\n'
  · subst hfeed
    rw [LineEnd.spell_feed] at hc
    have hgap : Shape.gap c.rest = .skip 1 := by rw [hc, Shape.gap_space rfl]
    simpa [LineEnd.spell] using skipGaps_feed (t := []) hc hgap
  · rw [LineEnd.spell_cons hfeed] at hc ⊢
    exact skipGaps_of_skip (by rw [hc, Shape.gap_space hch]; rfl)

theorem skipGaps_line {r : List Char} (hs : '\r' ∉ '/' :: '/' :: r)
    (hc : c.rest = e.spell ('/' :: '/' :: r)) :
    skipGaps c = skipGaps (c.advanceBy
      (e.spell (('/' :: '/' :: r).take (Shape.lineCommentLength ('/' :: '/' :: r)))).length) := by
  have hgap : Shape.gap c.rest = .skip (Shape.lineCommentLength c.rest) := by
    rw [hc, LineEnd.spell_cons (by decide), LineEnd.spell_cons (by decide)]
    rfl
  generalize '/' :: '/' :: r = s at hs hc
  obtain hline | ⟨a, b, l, rfl, ha, hb⟩ := Shape.exists_lineEnd s
  · have hself : e.spell s = s := LineEnd.spell_eq_self fun hm => (hline _ hm).1 rfl
    have hlen : Shape.lineCommentLength s = s.length + 1 := by
      rw [Shape.lineCommentLength, List.takeWhile_eq_self_iff.2 (by simpa using hline)]
    have hend : (c.advanceBy s.length).rest = [] := by
      rw [Cursor.advanceBy_rest, hc, hself, List.drop_length]
    have hlen' : Shape.lineCommentLength c.rest = s.length + 1 := by rw [hc, hself, hlen]
    rw [skipGaps_of_skip hgap, hlen', hlen, List.take_of_length_le (Nat.le_succ _), hself,
      Cursor.advanceBy_add, Cursor.advanceBy_of_nil hend]
  · obtain rfl : b = '\n' := hb.resolve_right fun h => hs (by simp [h])
    have hself : e.spell a = a := LineEnd.spell_eq_self fun hm => (ha _ hm).1 rfl
    rw [LineEnd.spell_append, LineEnd.spell_feed, hself] at hc
    have hlen : Shape.lineCommentLength c.rest = a.length + 1 := by
      rw [hc, Shape.lineCommentLength_append ha (.inr rfl)]
    rw [hlen] at hgap
    have htake : (a ++ '\n' :: l).take (a.length + 1) = a ++ ['\n'] := by
      rw [List.append_cons, List.take_left' (by simp)]
    rw [skipGaps_feed hc hgap, Shape.lineCommentLength_append ha (.inl rfl), htake,
      LineEnd.spell_append, hself, LineEnd.spell_feed]
    simp [LineEnd.spell]

theorem skipGaps_spell (hs : '\r' ∉ s) (hgap : Shape.gap s = .skip n) (hc : c.rest = e.spell s) :
    skipGaps c = skipGaps (c.advanceBy (e.spell (s.take n)).length) := by
  obtain ⟨ch, r, rfl, hch⟩ | ⟨r, rfl⟩ | ⟨r, rfl⟩ | hnone := Shape.gap_cases s
  · rw [Shape.gap_space hch] at hgap
    cases hgap
    exact skipGaps_space hch hc
  · rw [Shape.gap_line] at hgap
    cases hgap
    exact skipGaps_line hs hc
  · rw [Shape.gap_block] at hgap
    cases hclose : Shape.closer? r with
    | none =>
      rw [hclose] at hgap
      cases hgap
    | some m =>
      rw [hclose] at hgap
      cases hgap
      refine skipGaps_of_skip ?_
      obtain ⟨u, hu⟩ := Shape.drop_of_closer? hclose
      have htake : r.take (m + 2) = r.take m ++ ['*', '/'] := by rw [List.take_add, hu]; rfl
      rw [hc, Shape.gap_block_spell, hclose, List.take_succ_cons, List.take_succ_cons, htake]
      simp [LineEnd.spell]
  · rw [hnone] at hgap
    cases hgap

/-- The same white space and comments are skipped. -/
theorem skipGaps_respelled (h : Cursor.Respelled e o c c') (hs : skipGaps c = .ok () d) :
    ∃ d', skipGaps c' = .ok () d' ∧ Cursor.Respelled e o d d' := by
  fun_induction skipGaps c generalizing c' with
  | case1 c hgap =>
    cases hs
    refine ⟨c', skipGaps_of_none ?_, h⟩
    rw [h.rest]
    exact Shape.gap_spell_of_none hgap
  | case2 c n hgap ih =>
    rw [skipGaps_spell h.clean hgap h.rest]
    exact ih (h.past (c.past_advanceBy n)) hs
  | case3 => cases hs

theorem skipSpace_of_skipGaps (h : skipGaps c = .ok () d) :
    skipSpace c = .ok (Shape.atGap c.rest) d := by
  have hsome : decide (c.offset < d.offset) = Shape.atGap c.rest := by
    obtain rfl | hlt := eq_or_offset_lt_of_skipGaps h
    · rw [Shape.atGap, gap_of_skipGaps h]
      simp
    · rw [decide_eq_true hlt, Shape.atGap]
      cases hgap : Shape.gap c.rest with
      | none =>
        cases (skipGaps_of_none hgap).symm.trans h
        omega
      | skip n => rfl
      | unterminated =>
        rw [skipGaps] at h
        split at h <;> simp_all
  simp only [skipSpace, h, hsome]

theorem skipSpace_respelled {b : Bool} (h : Cursor.Respelled e o c c')
    (hs : skipSpace c = .ok b d) : ∃ d', skipSpace c' = .ok b d' ∧ Cursor.Respelled e o d d' := by
  obtain ⟨hgaps, hb⟩ : skipGaps c = .ok () d ∧ Shape.atGap c.rest = b := by
    cases hgaps : skipGaps c with
    | error e f => simp [skipSpace, hgaps] at hs
    | ok _ f =>
      rw [skipSpace_of_skipGaps hgaps] at hs
      cases hs
      exact ⟨rfl, rfl⟩
  obtain ⟨d', hd', hrespelled⟩ := skipGaps_respelled h hgaps
  refine ⟨d', ?_, hrespelled⟩
  rw [skipSpace_of_skipGaps hd', h.rest, Shape.atGap_spell, hb]

/-! ### Names -/

theorem readIdentifier_respelled {policy : IdentifierPolicy} {name : String}
    (h : Cursor.Respelled e o c c') (hs : readIdentifier policy c = .ok name d) :
    ∃ d', readIdentifier policy c' = .ok name d' ∧ Cursor.Respelled e o d d' := by
  have hpast := past_of_readIdentifier hs
  have hself : e.spell name.toList = name.toList :=
    LineEnd.spell_eq_self fun hm => absurd ((isName_of_readIdentifier hs).chars _ hm) (by decide)
  have hcur := h.any_head? (p := Shape.mayStart policy) (by cases policy <;> rfl)
  have htake : c'.rest.takeWhile Shape.isIdentifierChar =
      c.rest.takeWhile Shape.isIdentifierChar := by
    rw [h.rest, LineEnd.takeWhile_spell rfl rfl]
  refine ⟨c'.advanceBy name.toList.length, ?_, hself ▸ h.past hpast⟩
  unfold readIdentifier at hs ⊢
  simp only [bind_apply, get_apply, ite_apply, forward_apply, failAt_apply, fail_apply,
    pure_apply, hcur, htake] at hs ⊢
  split at hs
  · next hstart =>
    rw [if_pos hstart]
    split at hs
    · cases hs
    · next hfree =>
      cases hs
      rw [if_neg hfree, String.toList_ofList]
  · cases hs

end Scan
end YangSchema
