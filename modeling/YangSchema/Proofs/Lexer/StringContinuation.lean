import YangSchema.Proofs.Lexer.Continuation

/-!
# Names and strings with another continuation

A name ends before any other character, a string in quotes with its last quote that no plus sign
follows, and a string without quotes before a gap or a mark. A comment that never ends is text of
such a string; it must not end in the new continuation either.
-/
namespace YangSchema

namespace Shape

variable {q : Option Char} {r s v w x y : List Char} {n : Nat}

/-! ### Quoted segments -/

/-- What the text after an opening quote ends with: nothing, the quote, or a backslash that escapes
nothing. -/
inductive Stops (q : Option Char) : List Char → Prop
  | end : Stops q []
  | quote {ch : Char} (hq : q = some ch) (y : List Char) : Stops q (ch :: y)
  | escape (hq : q = some '"') {y : List Char} (hy : ∀ e r, y = e :: r → escaped? e = none) :
    Stops q ('\\' :: y)

/-- The value of a segment is that of the text before it stops, whatever comes after it. -/
theorem exists_segment (q : Option Char) (r : List Char) :
    ∃ t y v, r = t ++ y ∧ Stops q y ∧ ∀ x, segment q (t ++ x) =
      ⟨v ++ (segment q x).value, (segment q x).length + t.length, (segment q x).ending⟩ := by
  fun_induction segment q r with
  | case1 => exact ⟨[], [], [], rfl, .end, fun x => rfl⟩
  | case2 c r hq => exact ⟨[], c :: r, [], rfl, .quote hq r, fun x => rfl⟩
  | case3 c hq hc =>
    simp only [Bool.and_eq_true, decide_eq_true_eq] at hc
    obtain ⟨rfl, hquote⟩ := hc
    exact ⟨[], ['\\'], [], rfl, .escape hquote (by simp), fun x => rfl⟩
  | case4 c hq hc e r v hv ih =>
    simp only [Bool.and_eq_true, decide_eq_true_eq] at hc
    obtain ⟨rfl, rfl⟩ := hc
    obtain ⟨t, y, v', rfl, hy, hx⟩ := ih
    refine ⟨'\\' :: e :: t, y, v :: v', rfl, hy, fun x => ?_⟩
    rw [List.cons_append, List.cons_append, Scan.segment_escape hv, hx]
    rfl
  | case5 c hq hc e r hv =>
    simp only [Bool.and_eq_true, decide_eq_true_eq] at hc
    obtain ⟨rfl, hquote⟩ := hc
    refine ⟨[], '\\' :: e :: r, [], rfl, .escape hquote ?_, fun x => rfl⟩
    rintro e' r' ⟨⟩
    exact hv
  | case6 c r hq hc ih =>
    obtain ⟨t, y, v, rfl, hy, hx⟩ := ih
    refine ⟨c :: t, y, c :: v, rfl, hy, fun x => ?_⟩
    rw [List.cons_append, segment.eq_def]
    simp only [if_neg hq, if_neg hc, hx]
    rfl

theorem segment_quote (ch : Char) (y : List Char) :
    segment (some ch) (ch :: y) = ⟨[], 1, .closed⟩ := by
  rw [segment.eq_def]
  simp

theorem segment_bad {y : List Char} (hy : ∀ e r, y = e :: r → escaped? e = none) :
    segment (some '"') ('\\' :: y) = ⟨[], 0, .badEscape y.head?⟩ := by
  rw [segment.eq_def]
  cases y with
  | nil => simp
  | cons e r => simp [hy e r rfl]

theorem segment_closed (h : (segment q r).ending = .closed) :
    ∃ t ch y, q = some ch ∧ r = t ++ ch :: y ∧ (segment q r).length = t.length + 1 ∧
      ∀ x, (segment q (t ++ ch :: x)).ending = .closed ∧
        (segment q (t ++ ch :: x)).length = t.length + 1 := by
  obtain ⟨t, y, v, rfl, hy, hx⟩ := exists_segment q r
  rw [hx] at h
  cases hy with
  | «end» => cases h
  | @quote ch hq y =>
    cases hq
    refine ⟨t, ch, y, rfl, rfl, ?_, fun x => ?_⟩
    · rw [hx, segment_quote, Nat.add_comm]
    · rw [hx, segment_quote, Nat.add_comm]
      exact ⟨rfl, rfl⟩
  | escape hq hy =>
    cases hq
    rw [segment_bad hy] at h
    cases h

/-- A quote in the place of a bad escape closes the segment. -/
theorem segment_badEscape {e : Option Char} (h : (segment q r).ending = .badEscape e) :
    q = some '"' ∧ ∃ t y, r = t ++ y ∧ (segment q r).length = t.length ∧
      ∀ x, (segment q (t ++ '"' :: x)).ending = .closed ∧
        (segment q (t ++ '"' :: x)).length = t.length + 1 := by
  obtain ⟨t, y, v, rfl, hy, hx⟩ := exists_segment q r
  rw [hx] at h
  cases hy with
  | «end» => cases h
  | quote hq y =>
    cases hq
    rw [segment_quote] at h
    cases h
  | escape hq hy =>
    cases hq
    refine ⟨rfl, t, _, rfl, ?_, fun x => ?_⟩
    · rw [hx, segment_bad hy, Nat.zero_add]
    · rw [hx, segment_quote, Nat.add_comm]
      exact ⟨rfl, rfl⟩

/-! ### Words -/

theorem Recut.head? (h : Recut y x) : x.head? = y.head? ∨ x.head? ≠ some '/' := by
  obtain ⟨v, y', w, rfl, rfl, hw⟩ := h
  cases v with
  | nil => exact .inr fun hx => hw (List.mem_of_mem_head? hx)
  | cons ch v => exact .inl rfl

theorem atGap_of_space {c : Char} (hc : isSpace c = true) : atGap (c :: r) = true := by
  rw [atGap, gap_space hc]

theorem atWordEnd_of_space {c : Char} (hc : isSpace c = true) (r : List Char) :
    atWordEnd (c :: r) = true := by
  simp [atWordEnd, atGap_of_space hc]

theorem not_atWordEnd_star (r : List Char) : atWordEnd ('*' :: r) = false := rfl

/-- No gap begins in a word that goes on, if none began there before. -/
theorem Recut.gap {ch : Char} (h : Recut y x) (hx : atWordEnd x = true)
    (hy : atGap (ch :: (r ++ y)) = false) :
    Shape.gap (ch :: (r ++ x)) = .none ∨ (Shape.gap (ch :: (r ++ x)) = .unterminated ∧
      Shape.gap (ch :: (r ++ y)) = .unterminated) := by
  obtain ⟨c, t, hs, hc⟩ | ⟨t, hs⟩ | ⟨t, hs⟩ | hnone := gap_cases (ch :: (r ++ x))
  · cases hs
    rw [atGap_of_space hc] at hy
    cases hy
  · injection hs with hch hs
    subst hch
    have hhead : (r ++ y).head? = some '/' := by
      cases r with
      | nil =>
        rw [List.nil_append] at hs ⊢
        rw [hs] at h
        exact h.head?.elim Eq.symm fun hne => absurd rfl hne
      | cons e r =>
        cases hs
        rfl
    rw [← List.cons_head?_tail hhead] at hy
    cases hy
  · injection hs with hch hs
    subst hch
    cases r with
    | nil =>
      rw [List.nil_append] at hs
      rw [hs, not_atWordEnd_star] at hx
      cases hx
    | cons e r =>
      injection hs with he _
      subst he
      rw [List.cons_append, atGap, gap_block] at hy
      rw [List.cons_append, List.cons_append, gap_block, gap_block]
      cases hclose : Shape.closer? (r ++ y) with
      | none =>
        rw [(h.append r).closer? hclose]
        exact .inr ⟨rfl, rfl⟩
      | some n =>
        rw [hclose] at hy
        cases hy
  · exact .inl hnone

theorem Recut.atWordEnd {ch : Char} (h : Recut y x) (hx : atWordEnd x = true)
    (hy : Shape.atWordEnd (ch :: (r ++ y)) = false) :
    Shape.atWordEnd (ch :: (r ++ x)) = false := by
  simp only [Shape.atWordEnd, Bool.or_eq_false_iff] at hy ⊢
  refine ⟨hy.1, ?_⟩
  obtain hgap | ⟨hgap, -⟩ := h.gap hx hy.2
  · rw [atGap, hgap]
  · rw [atGap, hgap]

/-- A word ends where it ended before. -/
theorem exists_wordTail (r : List Char) : ∃ y, r = wordTail r ++ y ∧ atWordEnd y = true ∧
    ∀ x, Recut y x → atWordEnd x = true → wordTail (wordTail r ++ x) = wordTail r := by
  have hend {x : List Char} (hx : atWordEnd x = true) : wordTail x = [] := by
    cases x with
    | nil => rfl
    | cons c x => rw [wordTail, if_pos hx]
  induction r with
  | nil => exact ⟨[], rfl, rfl, fun x _ hx => hend hx⟩
  | cons c r ih =>
    by_cases hc : atWordEnd (c :: r) = true
    · rw [hend hc]
      exact ⟨c :: r, rfl, hc, fun x _ hx => hend hx⟩
    · obtain ⟨y, hr, hy, hx⟩ := ih
      rw [wordTail, if_neg hc]
      refine ⟨y, by rw [List.cons_append, ← hr], hy, fun x hrecut hend => ?_⟩
      have hgo : atWordEnd (c :: (wordTail r ++ x)) = false := by
        refine hrecut.atWordEnd hend ?_
        rw [← hr]
        simpa using hc
      rw [List.cons_append, wordTail, if_neg (by simp [hgo]), hx x hrecut hend]

end Shape

namespace Scan
open Relation

variable {policy : IdentifierPolicy} {settings : ParserSettings} {c d : Cursor} {e : SyntaxError}
  {name q x y z : List Char}

/-! ### Names -/

/-- The text goes on neither a name nor a prefix. -/
def Delimits (x : List Char) : Prop :=
  ∀ ch ∈ x.head?, Shape.isIdentifierChar ch = false ∧ ch ≠ ':'

theorem Delimits.endsName (h : Delimits x) : x.head?.any Shape.isIdentifierChar = false := by
  cases hx : x.head? with
  | none => rfl
  | some ch => exact (h ch hx).1

theorem past_of_readIdentifier {name : String} (h : readIdentifier policy c = .ok name d) :
    c.Past name.toList d := by
  unfold readIdentifier at h
  simp only [bind_eq_ok, get_eq_ok] at h
  obtain ⟨_, _, ⟨rfl, rfl⟩, h⟩ := h
  split at h
  · simp only [bind_eq_ok, forward_eq_ok] at h
    obtain ⟨_, _, rfl, h⟩ := h
    split at h
    · exact absurd h failAt_ne_ok
    · rw [pure_eq_ok] at h
      obtain ⟨rfl, rfl⟩ := h
      rw [String.toList_ofList]
      exact Cursor.past_of_rest (List.takeWhile_append_dropWhile).symm
  · exact absurd h fail_ne_ok

theorem position_of_readIdentifier (h : readIdentifier policy c = .error e d) :
    e.position = c.position := by
  unfold readIdentifier at h
  simp only [bind_apply, get_apply, ite_apply, forward_apply, failAt_apply, fail_apply,
    pure_apply] at h
  split at h
  · split at h
    · cases h
      rfl
    · cases h
  · cases h
    rfl

/-- The shortest name there is under every policy. -/
theorem isName_singleton (policy : IdentifierPolicy) : IsName policy ['a'] where
  start := by cases policy <;> rfl
  chars ch h := by
    rw [List.mem_singleton.1 h]
    rfl
  free := by cases policy <;> rfl

/-! ### Quoted strings -/

theorem accepts_readSegment {ch : Char} {t : List Char}
    (h : (Shape.segment (some ch) (t ++ x)).ending = .closed ∧
      (Shape.segment (some ch) (t ++ x)).length = t.length) :
    Accepts readSegment (ch :: (t ++ x)) x := by
  intro c hc
  have hcur : c.current? = some ch := by rw [Cursor.current?, hc, List.head?_cons]
  have hrest : c.advance.rest = t ++ x := by rw [Cursor.advance_rest, hc, List.tail_cons]
  unfold readSegment
  simp only [hcur, hrest, h.1, h.2]
  exact ⟨_, _, rfl, Cursor.rest_advanceBy_length hrest⟩

/-- The quote at the cursor and so many characters after it. -/
theorem past_segment {ch : Char} {t y : List Char} (h : c.rest = ch :: (t ++ y)) :
    c.Past (ch :: t) (c.advance.advanceBy t.length) :=
  Cursor.past_of_rest (t := ch :: t) h

theorem readSegment_continues {v : List Char} (h : readSegment c = .ok v d) :
    ∃ ch t, c.Past (ch :: t) d ∧ c.current? = some ch ∧
      ∀ x, Accepts readSegment (ch :: (t ++ x)) x := by
  unfold readSegment at h
  simp only at h
  split at h
  · next hclosed =>
    cases h
    obtain ⟨t, ch, y, hcur, hrest, hlen, hx⟩ := Shape.segment_closed hclosed
    have hc : c.rest = ch :: (t ++ [ch] ++ y) := by
      rw [Cursor.advance_rest] at hrest
      rw [← List.cons_head?_tail hcur, hrest, List.append_cons]
    rw [hlen]
    refine ⟨ch, t ++ [ch], ?_, hcur, fun x => ?_⟩
    · simpa using past_segment hc
    · rw [hcur] at hx
      have hx := hx x
      rw [List.append_cons] at hx
      exact accepts_readSegment (by simpa using hx)
  · cases h
  · cases h

def Opens (x : List Char) : Prop :=
  x.head?.any Shape.isQuote = true

theorem Opens.gap (h : Opens x) : Shape.gap x = .none := by
  cases x with
  | nil => rfl
  | cons ch x =>
    simp only [Opens, List.head?_cons, Option.any_some, Shape.isQuote, Bool.or_eq_true,
      decide_eq_true_eq] at h
    obtain rfl | rfl := h <;> rfl

theorem Opens.ne_nil (h : Opens x) : x ≠ [] := by
  rintro rfl
  cases h

theorem accepts_emptySegment (x : List Char) : Accepts readSegment ('"' :: '"' :: x) x :=
  accepts_readSegment (t := ['"']) (by rw [List.singleton_append, Shape.segment_quote]; simp)

/-- A string that does not end gives way to an empty one, and a bad escape to a quote. -/
theorem readSegment_stops (h : readSegment c = .error e d) :
    ∃ t d' w, c.Past t d' ∧ e.position = d'.position ∧ Completing w ∧
      ∀ x, Opens (t ++ (w ++ x)) ∧ Accepts readSegment (t ++ (w ++ x)) x := by
  unfold readSegment at h
  simp only at h
  split at h
  · cases h
  · cases h
    exact ⟨[], c, ['"', '"'], .refl c, rfl, by decide, fun x =>
      ⟨rfl, accepts_emptySegment x⟩⟩
  · next hbad =>
    cases h
    obtain ⟨hcur, t, y, hrest, hlen, hx⟩ := Shape.segment_badEscape hbad
    have hc : c.rest = '"' :: (t ++ y) := by
      rw [Cursor.advance_rest] at hrest
      rw [← List.cons_head?_tail hcur, hrest]
    rw [hlen]
    refine ⟨'"' :: t, _, ['"'], past_segment hc, rfl, by decide, fun x => ⟨rfl, ?_⟩⟩
    rw [hcur] at hx
    have hx := hx x
    rw [List.append_cons] at hx
    simpa using accepts_readSegment (t := t ++ ['"']) (x := x) (by simpa using hx)

theorem readJoined_of_end (h : skipGaps c = .ok () d) (hd : d.rest.head? ≠ some '+') :
    readJoined c = .ok [] c := by
  rw [readJoined]
  split
  · simp_all
  · next d' hd' =>
    cases h.symm.trans hd'
    split
    · next hplus =>
      rw [hplus] at hd
      exact absurd rfl hd
    · rfl

theorem readJoined_of_plus {f g k : Cursor} {r v w : List Char} (h₁ : skipGaps c = .ok () d)
    (hplus : d.rest = '+' :: r) (h₂ : skipGaps d.advance = .ok () f)
    (hquote : f.current?.any Shape.isQuote = true) (h₃ : readSegment f = .ok v g)
    (h₄ : readJoined g = .ok w k) : readJoined c = .ok (v ++ w) k := by
  rw [readJoined]
  split
  · simp_all
  · next d' hd' =>
    cases h₁.symm.trans hd'
    split
    · split
      · simp_all
      · next f' hf' =>
        cases h₂.symm.trans hf'
        rw [if_pos hquote]
        split
        · simp_all
        · next g' hg' =>
          cases h₃.symm.trans hg'
          rw [h₄]
    · next hno => exact absurd hplus (hno _)

theorem accepts_readJoined_end (h : Accepts skipGaps x z) (hz : z.head? ≠ some '+') :
    Accepts readJoined x x := by
  intro c hc
  obtain ⟨_, d, hd, rfl⟩ := h c hc
  exact ⟨[], c, readJoined_of_end hd hz, hc⟩

theorem accepts_readJoined_plus {u k : List Char} (h₁ : Accepts skipGaps x ('+' :: y))
    (h₂ : Accepts skipGaps y z) (hz : Opens z) (h₃ : Accepts readSegment z u)
    (h₄ : Accepts readJoined u k) : Accepts readJoined x k := by
  intro c hc
  obtain ⟨_, d, hd, hrest⟩ := h₁ c hc
  obtain ⟨_, f, hf, rfl⟩ := h₂ d.advance (by rw [Cursor.advance_rest, hrest, List.tail_cons])
  obtain ⟨v, g, hg, hgrest⟩ := h₃ f rfl
  obtain ⟨w, k, hk, hkrest⟩ := h₄ g hgrest
  exact ⟨v ++ w, k, readJoined_of_plus hd hrest hf hz hg hk, hkrest⟩

/-- After a plus sign comes white space, and then one more string. -/
theorem exists_plus {d' : Cursor} {r : List Char} (h : skipGaps c = .ok () d)
    (hplus : d.rest = '+' :: r) (hpast : d.advance.Past y d') :
    ∃ t, c.Past (t ++ y) d' ∧ ∀ x z u k, Accepts skipGaps x z → Opens z →
      Accepts readSegment z u → Accepts readJoined u k → Accepts readJoined (t ++ x) k := by
  obtain ⟨t, ht, hx⟩ := skipGaps_continues h
  have hcur : d.current? = some '+' := by rw [Cursor.current?, hplus, List.head?_cons]
  have hadvance := Cursor.past_of_current? hcur
  refine ⟨t ++ ['+'], (ht.trans hadvance).trans hpast, fun x z u k h₁ hz h₂ h₃ => ?_⟩
  refine accepts_readJoined_plus ?_ h₁ hz h₂ h₃
  rw [← List.append_cons]
  exact hx _ _ (resumes_self (by rw [hplus]; exact List.cons_ne_nil _ _) rfl)

theorem readJoined_continues {v : List Char} (h : readJoined c = .ok v d) :
    ∃ t, c.Past t d ∧ ∀ x z, Accepts skipGaps x z → z.head? ≠ some '+' →
      Accepts readJoined (t ++ x) x := by
  fun_induction readJoined c generalizing v with
  | case1 => cases h
  | case2 => cases h
  | case3 => cases h
  | case4 => cases h
  | case5 c _ d₁ h₁ r hplus _ f h₂ hquote s g h₃ w d₂ hk ih =>
    cases h
    obtain ⟨t₂, hpast₂, hx₂⟩ := skipGaps_continues h₂
    obtain ⟨ch, t₃, hpast₃, hch, hx₃⟩ := readSegment_continues h₃
    obtain ⟨t₄, hpast₄, hx₄⟩ := ih hk
    obtain ⟨t₁, hpast, hx₁⟩ := exists_plus h₁ hplus ((hpast₂.trans hpast₃).trans hpast₄)
    refine ⟨_, hpast, fun x z hx hz => ?_⟩
    have hopens : Opens (ch :: (t₃ ++ (t₄ ++ x))) := by rwa [hch] at hquote
    have hgaps := hx₂ _ _ (resumes_self (Opens.ne_nil hquote) hopens.gap)
    simpa using hx₁ _ _ _ _ hgaps hopens (hx₃ _) (hx₄ x z hx hz)
  | case6 => cases h
  | case7 =>
    cases h
    exact ⟨[], .refl _, fun x z hx hz => accepts_readJoined_end hx hz⟩

/-- What may come after strings that are joined: neither white space nor one more of them. -/
structure Unjoined (x : List Char) : Prop where
  gap : Shape.gap x = .none
  head?_ne : x.head? ≠ some '+'

/-- White space may come before what comes after joined strings; it is not taken. -/
theorem readJoined_stops (h : readJoined c = .error e d) :
    Viable Unjoined (Comp (Accepts readJoined) (Accepts skipGaps)) c e.position := by
  have hend {k : List Char} (hk : Unjoined k) : Accepts readJoined k k :=
    accepts_readJoined_end (accepts_skipGaps_none hk.gap) hk.head?_ne
  fun_induction readJoined c with
  | case1 c e d h₁ =>
    cases h
    obtain ⟨t, d', hpast, he, hne, hx⟩ := skipGaps_stops h₁
    refine ⟨t, d', [], hpast, he, by decide, fun k hk _ => ⟨t ++ k, ?_, hx k hk.gap⟩⟩
    exact accepts_readJoined_end (hx k hk.gap) hk.head?_ne
  | case2 c _ d₁ h₁ r hplus e f h₂ =>
    cases h
    obtain ⟨t₂, d', hpast₂, he, hne, hx₂⟩ := skipGaps_stops h₂
    obtain ⟨t₁, hpast, hx₁⟩ := exists_plus h₁ hplus hpast₂
    refine ⟨_, d', ['"', '"'], hpast, he, by decide, fun k hk _ => ⟨k, ?_, ?_⟩⟩
    · simpa using hx₁ _ _ _ _ (hx₂ ('"' :: '"' :: k) rfl) rfl (accepts_emptySegment k) (hend hk)
    · exact accepts_skipGaps_none hk.gap
  | case3 c _ d₁ h₁ r hplus _ f h₂ hquote e g h₃ =>
    cases h
    obtain ⟨t₂, hpast₂, hx₂⟩ := skipGaps_continues h₂
    obtain ⟨t₃, d', w, hpast₃, he, hw, hx₃⟩ := readSegment_stops h₃
    obtain ⟨t₁, hpast, hx₁⟩ := exists_plus h₁ hplus (hpast₂.trans hpast₃)
    refine ⟨_, d', w, hpast, he, hw, fun k hk _ => ⟨k, ?_, accepts_skipGaps_none hk.gap⟩⟩
    obtain ⟨hopens, hsegment⟩ := hx₃ k
    have hgaps := hx₂ _ _ (resumes_self (Opens.ne_nil hquote) hopens.gap)
    simpa using hx₁ _ _ _ _ hgaps hopens hsegment (hend hk)
  | case4 c _ d₁ h₁ r hplus _ f h₂ hquote s g h₃ e d' h₄ ih =>
    cases h
    obtain ⟨t₂, hpast₂, hx₂⟩ := skipGaps_continues h₂
    obtain ⟨ch, t₃, hpast₃, hch, hx₃⟩ := readSegment_continues h₃
    obtain ⟨t₄, d', w, hpast₄, he, hw, hx₄⟩ := ih h₄
    obtain ⟨t₁, hpast, hx₁⟩ := exists_plus h₁ hplus ((hpast₂.trans hpast₃).trans hpast₄)
    refine ⟨_, d', w, hpast, he, hw, fun k hk hslash => ?_⟩
    obtain ⟨x, hx, hgaps⟩ := hx₄ k hk hslash
    have hopens : Opens (ch :: (t₃ ++ (t₄ ++ (w ++ k)))) := by rwa [hch] at hquote
    have hgaps₂ := hx₂ _ _ (resumes_self (Opens.ne_nil hquote) hopens.gap)
    exact ⟨x, by simpa using hx₁ _ _ _ _ hgaps₂ hopens (hx₃ _) hx, hgaps⟩
  | case5 => cases h
  | case6 c _ d₁ h₁ r hplus _ f h₂ hquote =>
    cases h
    obtain ⟨t₂, hpast₂, hx₂⟩ := skipGaps_continues h₂
    obtain ⟨t₁, hpast, hx₁⟩ := exists_plus h₁ hplus hpast₂
    refine ⟨_, _, ['\n', '"', '"'], hpast, rfl, by decide, fun k hk _ => ⟨k, ?_, ?_⟩⟩
    · have hgaps := hx₂ ('\n' :: '"' :: '"' :: k) ('"' :: '"' :: k) ⟨.inr rfl, rfl⟩
      simpa using hx₁ _ _ _ _ hgaps rfl (accepts_emptySegment k) (hend hk)
    · exact accepts_skipGaps_none hk.gap
  | case7 => cases h

theorem accepts_readQuoted (h₁ : Accepts readSegment x y) (h₂ : Accepts readJoined y z) :
    Accepts readQuoted x z := by
  intro c hc
  obtain ⟨v, d, hd, hrest⟩ := h₁ c hc
  obtain ⟨w, f, hf, hrest'⟩ := h₂ d hrest
  exact ⟨v ++ w, f, by simp only [readQuoted, hd, hf], hrest'⟩

/-! ### Arguments -/

def Terminates (x : List Char) : Prop :=
  x.head? = some ';' ∨ x.head? = some '\x7b'

theorem Terminates.gap (h : Terminates x) : Shape.gap x = .none := by
  obtain h | h := h
  all_goals
    rw [← List.cons_head?_tail h]
    rfl

theorem Terminates.unjoined (h : Terminates x) : Unjoined x where
  gap := h.gap
  head?_ne := by
    obtain h | h := h
    all_goals
      rw [h]
      decide

/-- A word ends where white space, or nothing, leads to what ends the header. -/
theorem atWordEnd_of_accepts (h : Accepts skipGaps x z) (hz : Terminates z) :
    Shape.atWordEnd x = true := by
  obtain ⟨_, d, hd, rfl⟩ := h { rest := x } rfl
  cases hgap : Shape.gap x with
  | none =>
    rw [skipGaps_of_none hgap] at hd
    cases hd
    change x.head? = _ ∨ x.head? = _ at hz
    obtain hz | hz := hz
    all_goals
      rw [← List.cons_head?_tail hz]
      rfl
  | skip n =>
    cases x with
    | nil => cases hgap
    | cons ch x => simp [Shape.atWordEnd, Shape.atGap, hgap]
  | unterminated =>
    rw [skipGaps] at hd
    split at hd
    · simp_all
    · simp_all
    · cases hd

/-- No gap begins here, and a string up to some end of the text is read, if there is room for it. -/
structure Takes (settings : ParserSettings) (x y : List Char) : Prop where
  gap : Shape.gap x = .none
  read : ∀ c : Cursor, c.rest = x → Exceeds (readString? settings c) ∨
    ∃ a d, readString? settings c = .ok (some a) d ∧ d.rest = y

/-- There is room for a string without its layout, or a limit is met. -/
theorem withoutLayout_cases (settings : ParserSettings) (p : Position) (v : List Char)
    (c : Cursor) : Exceeds (withoutLayout settings p v c) ∨
      ∃ a, withoutLayout settings p v c = .ok a c := by
  unfold withoutLayout
  cases Dedent.strip? v p.column settings.tabWidth with
  | none => exact .inl ⟨_, c, fail_apply _ c, rfl⟩
  | some text => exact .inr ⟨_, pure_apply _ c⟩

theorem takes_quoted (hx : Opens x) (h : Accepts readQuoted x y) : Takes settings x y where
  gap := hx.gap
  read c hc := by
    obtain ⟨v, d, hd, hrest⟩ := h c hc
    have hquote : c.current?.any Shape.isQuote = true := by rwa [Cursor.current?, hc]
    simp only [readString?, bind_apply, get_apply, ite_apply, hquote, if_true, hd, pure_apply]
    obtain ⟨e, f, he, hlimit⟩ | ⟨a, ha⟩ := withoutLayout_cases settings c.position v d
    · exact .inl ⟨e, f, by simp only [he], hlimit⟩
    · exact .inr ⟨a, d, by simp only [ha], hrest⟩

theorem takes_word {ch : Char} {t : List Char} (hgap : Shape.gap (ch :: (t ++ x)) = .none)
    (hq : Shape.isQuote ch = false) (hword : Shape.atWordEnd (ch :: (t ++ x)) = false)
    (ht : Shape.wordTail (t ++ x) = t) : Takes settings (ch :: (t ++ x)) x where
  gap := hgap
  read c hc := by
    have hquote : c.current?.any Shape.isQuote = false := by
      rw [Cursor.current?, hc]
      exact hq
    have hread : readWord c = .ok (ch :: t) (c.advanceBy (ch :: t).length) := by
      simp [readWord, hc, Shape.word, ht]
    rw [← hc] at hword
    simp only [readString?, bind_apply, get_apply, ite_apply, hquote, hword, Bool.false_eq_true,
      if_false, hread, pure_apply]
    obtain ⟨e, f, he, hlimit⟩ | ⟨a, ha⟩ := withoutLayout_cases settings c.position (ch :: t)
      (c.advanceBy (ch :: t).length)
    · exact .inl ⟨e, f, by simp only [he], hlimit⟩
    · exact .inr ⟨a, _, by simp only [ha], Cursor.rest_advanceBy_length (l := ch :: t) hc⟩

theorem readQuoted_continues (settings : ParserSettings) {v : List Char}
    (hq : c.current?.any Shape.isQuote = true) (h : readQuoted c = .ok v d) :
    ∃ t, c.Past t d ∧ ∀ x z, Accepts skipGaps x z → z.head? ≠ some '+' →
      Takes settings (t ++ x) x := by
  unfold readQuoted at h
  split at h
  · cases h
  · next first d₁ h₁ =>
    split at h
    · cases h
    · next h₂ =>
      cases h
      obtain ⟨ch, t₁, hpast₁, hch, hx₁⟩ := readSegment_continues h₁
      obtain ⟨t₂, hpast₂, hx₂⟩ := readJoined_continues h₂
      rw [hch] at hq
      refine ⟨_, hpast₁.trans hpast₂, fun x z hx hz => takes_quoted hq ?_⟩
      simpa using accepts_readQuoted (hx₁ _) (hx₂ x z hx hz)

theorem past_of_readWord {ch : Char} {v : List Char} (hc : c.current? = some ch)
    (h : readWord c = .ok v d) : c.Past (ch :: Shape.wordTail c.rest.tail) d := by
  obtain ⟨y, hy, -⟩ := Shape.exists_wordTail c.rest.tail
  have hrest : c.rest = ch :: c.rest.tail := (List.cons_head?_tail hc).symm
  have hword : Shape.word c.rest = ch :: Shape.wordTail c.rest.tail := by
    rw [hrest]
    rfl
  unfold readWord at h
  simp only [bind_eq_ok, get_eq_ok, forward_eq_ok, pure_eq_ok] at h
  obtain ⟨_, _, ⟨rfl, rfl⟩, _, _, rfl, _, rfl⟩ := h
  rw [hword]
  exact Cursor.past_of_rest (hrest.trans (congrArg (ch :: ·) hy))

theorem readWord_continues {ch : Char} {v : List Char} (hc : c.current? = some ch)
    (hq : Shape.isQuote ch = false) (hgap : Shape.gap c.rest = .none)
    (hword : Shape.atWordEnd c.rest = false) (h : readWord c = .ok v d) :
    ∃ t, c.Past t d ∧ ∀ x, Shape.Recut d.rest x → Shape.atWordEnd x = true →
      Takes settings (t ++ x) x := by
  have hpast := past_of_readWord hc h
  obtain ⟨y, hr, -, hx⟩ := Shape.exists_wordTail c.rest.tail
  generalize Shape.wordTail c.rest.tail = t at hr hx hpast
  have hrest := hpast.rest
  obtain rfl : y = d.rest := by
    rw [← List.cons_head?_tail hc, hr, List.cons_append, List.cons.injEq] at hrest
    exact List.append_cancel_left hrest.2
  rw [hrest, List.cons_append] at hgap hword
  refine ⟨ch :: t, hpast, fun x hrecut hend => ?_⟩
  refine takes_word ?_ hq (hrecut.atWordEnd hend hword) (hx x hrecut hend)
  obtain hnone | ⟨-, hun⟩ := hrecut.gap hend (by rw [Shape.atGap, hgap])
  · exact hnone
  · rw [hgap] at hun
    cases hun

theorem readString?_continues {a : String} (hgap : Shape.gap c.rest = .none)
    (h : readString? settings c = .ok (some a) d) :
    ∃ t, c.Past t d ∧ ∀ x z, Shape.Recut d.rest x → Accepts skipGaps x z → Terminates z →
      Takes settings (t ++ x) x := by
  unfold readString? at h
  simp only [bind_eq_ok, get_eq_ok] at h
  obtain ⟨_, _, ⟨rfl, rfl⟩, h⟩ := h
  split at h
  · next hq =>
    simp only [bind_eq_ok, pure_eq_ok] at h
    obtain ⟨v, _, hv, _, _, hlayout, _, rfl⟩ := h
    obtain ⟨-, rfl⟩ := withoutLayout_eq_ok.1 hlayout
    obtain ⟨t, hpast, hx⟩ := readQuoted_continues settings hq hv
    exact ⟨t, hpast, fun x z _ hz hend => hx x z hz hend.unjoined.head?_ne⟩
  · next hq =>
    split at h
    · rw [pure_eq_ok] at h
      cases h.1
    · next hword =>
      simp only [bind_eq_ok, pure_eq_ok] at h
      obtain ⟨v, _, hv, _, _, hlayout, _, rfl⟩ := h
      obtain ⟨-, rfl⟩ := withoutLayout_eq_ok.1 hlayout
      rw [Bool.not_eq_true] at hq hword
      obtain ⟨ch, hc⟩ : ∃ ch, c.current? = some ch := by
        cases hc : c.current? with
        | some ch => exact ⟨ch, rfl⟩
        | none =>
          rw [List.head?_eq_none_iff.1 hc] at hword
          cases hword
      rw [hc] at hq
      obtain ⟨t, hpast, hx⟩ := readWord_continues hc hq hgap hword hv
      exact ⟨t, hpast, fun x z hrecut hz hend => hx x hrecut (atWordEnd_of_accepts hz hend)⟩

theorem readQuoted_stops (hq : c.current?.any Shape.isQuote = true)
    (h : readQuoted c = .error e d) :
    Viable Terminates (Comp (Takes settings) (Accepts skipGaps)) c e.position := by
  unfold readQuoted at h
  split at h
  · next h₁ =>
    cases h
    obtain ⟨t, d', w, hpast, he, hw, hx⟩ := readSegment_stops h₁
    refine ⟨t, d', w, hpast, he, hw, fun k hk _ => ⟨k, ?_, accepts_skipGaps_none hk.gap⟩⟩
    obtain ⟨hopens, hsegment⟩ := hx k
    exact takes_quoted hopens (accepts_readQuoted hsegment
      (accepts_readJoined_end (accepts_skipGaps_none hk.gap) hk.unjoined.head?_ne))
  · next h₁ =>
    split at h
    · next h₂ =>
      cases h
      obtain ⟨ch, t₁, hpast₁, hch, hx₁⟩ := readSegment_continues h₁
      obtain ⟨t₂, d', w, hpast₂, he, hw, hx₂⟩ := readJoined_stops h₂
      rw [hch] at hq
      refine ⟨_, d', w, hpast₁.trans hpast₂, he, hw, fun k hk hslash => ?_⟩
      obtain ⟨x, hjoined, hgaps⟩ := hx₂ k hk.unjoined hslash
      exact ⟨x, takes_quoted hq (by simpa using accepts_readQuoted (hx₁ _) hjoined), hgaps⟩
    · cases h

theorem readWord_ne_error : readWord c ≠ .error e d := by
  unfold readWord
  simp [bind_apply, get_apply]

/-- Stripping the layout fails at a limit only. -/
theorem isLimit_of_withoutLayout {p : Position} {v : List Char}
    (h : withoutLayout settings p v c = .error e d) : e.fault.isLimit = true := by
  obtain ⟨e', d', he, hlimit⟩ | ⟨a, ha⟩ := withoutLayout_cases settings p v c
  · cases he.symm.trans h
    exact hlimit
  · cases ha.symm.trans h

/-- Only a string in quotes can break off. -/
theorem readString?_stops (h : readString? settings c = .error e d)
    (hlimit : e.fault.isLimit = false) :
    Viable Terminates (Comp (Takes settings) (Accepts skipGaps)) c e.position := by
  unfold readString? at h
  simp only [bind_apply, get_apply, ite_apply, pure_apply] at h
  split at h
  · next hq =>
    split at h
    · split at h
      · cases h
      · next hlayout =>
        cases h
        exact absurd (isLimit_of_withoutLayout hlayout) (Bool.eq_false_iff.1 hlimit)
    · next hv =>
      cases h
      exact readQuoted_stops hq hv
  · split at h
    · cases h
    · split at h
      · split at h
        · cases h
        · next hlayout =>
          cases h
          exact absurd (isLimit_of_withoutLayout hlayout) (Bool.eq_false_iff.1 hlimit)
      · next hv => exact absurd hv readWord_ne_error

end Scan
end YangSchema
