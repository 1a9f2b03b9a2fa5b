import YangSchema.Proofs.Lexer.StringContinuation
import YangSchema.Proofs.Lexer.Travel

/-!
# Readings and what they leave

What a reading leaves of a text has no part in what it gives: without it the reading gives the same
and ends at the same place. Comments need care, since their end is looked for in the whole text: a
string ends where a comment begins only if that comment is skipped next, so that the remainder
starts after it.
-/
namespace YangSchema

namespace Cursor

variable {c : Cursor} {z : List Char} {n : Nat}

def followedBy (c : Cursor) (z : List Char) : Cursor :=
  { c with rest := c.rest ++ z }

@[simp]
theorem followedBy_rest (c : Cursor) (z : List Char) : (c.followedBy z).rest = c.rest ++ z := rfl

@[simp]
theorem followedBy_position (c : Cursor) (z : List Char) :
    (c.followedBy z).position = c.position := rfl

@[simp]
theorem followedBy_nil (c : Cursor) : c.followedBy [] = c := by
  simp [followedBy]

theorem current?_followedBy (hc : c.rest ≠ []) (z : List Char) :
    (c.followedBy z).current? = c.current? := by
  rw [current?, current?, followedBy_rest, List.head?_append_of_ne_nil _ hc]

/-- A line feed behind the rest could join a carriage return at its end. -/
theorem advance_followedBy (hc : c.rest ≠ []) (hz : z.head? ≠ some '\n') :
    (c.followedBy z).advance = c.advance.followedBy z := by
  cases hr : c.rest with
  | nil => exact absurd hr hc
  | cons ch r =>
    have hends : endsLine ch (r ++ z) = endsLine ch r := by
      cases r <;> simp [endsLine, hz]
    simp [advance, followedBy, hr, positionAfter, hends]

theorem advanceBy_followedBy (hn : n ≤ c.rest.length) (hz : z.head? ≠ some '\n') :
    (c.followedBy z).advanceBy n = (c.advanceBy n).followedBy z := by
  induction n generalizing c with
  | zero => rfl
  | succ n ih =>
    have hc : c.rest ≠ [] := by
      apply List.ne_nil_of_length_pos
      omega
    rw [advanceBy, advanceBy, advance_followedBy hc hz]
    apply ih
    rw [advance_rest, List.length_tail]
    omega

/-- What is left behind some characters starts behind them. -/
theorem le_length_of_suffix (hz : z ≠ []) (h : z <:+ ((c.followedBy z).advanceBy n).rest) :
    n ≤ c.rest.length := by
  have hlength := h.length_le
  have hpos := List.length_pos_iff.2 hz
  simp only [advanceBy_rest, followedBy_rest, List.length_drop, List.length_append] at hlength
  omega

end Cursor

namespace Shape

variable {q : Option Char} {s z : List Char} {n : Nat}

theorem head?_ne_feed (hz : gap z = .none) : z.head? ≠ some '\n' := by
  intro h
  rw [← List.cons_head?_tail h, gap_space rfl] at hz
  cases hz

/-- No gap begins where none begins with more text behind. -/
theorem gap_of_append_none (h : gap (s ++ z) = .none) : gap s = .none := by
  rcases gap_cases s with ⟨c, r, rfl, hc⟩ | ⟨r, rfl⟩ | ⟨r, rfl⟩ | hnone
  · rw [List.cons_append, gap_space hc] at h
    cases h
  · rw [List.cons_append, List.cons_append, gap_line] at h
    cases h
  · rw [List.cons_append, List.cons_append, gap_block] at h
    split at h <;> cases h
  · exact hnone

theorem gap_of_append_skip (h : gap (s ++ z) = .skip n) (hn : n ≤ s.length) : gap s = .skip n := by
  rcases gap_skip_append h with ⟨-, hskip⟩ | ⟨hlength, -⟩
  · have hs := hskip (s.drop n)
    rwa [List.take_append_of_le_length hn, List.take_append_drop] at hs
  · simp only [List.length_append] at hlength
    omega

theorem atGap_of_append (h : atGap (s ++ z) = false) : atGap s = false := by
  rcases gap_cases s with ⟨c, r, rfl, hc⟩ | ⟨r, rfl⟩ | ⟨r, rfl⟩ | hnone
  · rw [List.cons_append, atGap_of_space hc] at h
    cases h
  · rw [List.cons_append, List.cons_append, atGap, gap_line] at h
    cases h
  · rw [List.cons_append, List.cons_append, atGap, gap_block] at h
    have hopen : closer? (r ++ z) = none := by
      cases hclose : closer? (r ++ z) with
      | none => rfl
      | some n => simp [hclose] at h
    have hr := closer?_append_eq_none hopen (w := []) List.not_mem_nil
    rw [List.append_nil] at hr
    rw [atGap, gap_block, hr]
  · rw [atGap, hnone]

theorem length_segment_le (q : Option Char) (s : List Char) : (segment q s).length ≤ s.length := by
  rcases exists_segment q s with ⟨t, y, v, rfl, hy, hx⟩
  rw [hx y, List.length_append]
  cases hy with
  | «end» => simp [segment]
  | @quote ch hq y =>
    cases hq
    simp [segment_quote]
    omega
  | escape hq hy =>
    cases hq
    simp [segment_bad hy]

/-- A segment that is closed in a text is the same without what comes after the text. -/
theorem segment_of_append (h : (segment q (s ++ z)).ending = .closed)
    (hn : (segment q (s ++ z)).length ≤ s.length) : segment q (s ++ z) = segment q s := by
  rcases exists_segment q s with ⟨t, y, v, rfl, hy, hx⟩
  rw [List.append_assoc, hx] at h hn ⊢
  rw [hx]
  simp only [List.length_append] at h hn ⊢
  cases hy with
  | «end» =>
    rcases segment_closed h with ⟨u, ch, w, -, -, hlength, -⟩
    simp only [List.nil_append] at hlength hn
    simp only [List.length_nil] at hn
    omega
  | @quote ch hq y =>
    cases hq
    rw [List.cons_append, segment_quote, segment_quote]
  | @escape hq y hy =>
    cases hq
    cases y with
    | nil =>
      rcases segment_closed h with ⟨u, ch, w, hch, hw, hlength, -⟩
      cases u with
      | nil =>
        cases hch
        simp at hw
      | cons e u =>
        simp only [hlength, List.length_cons, List.length_nil] at hn
        omega
    | cons e r =>
      have hbad : ∀ e' r', e :: (r ++ z) = e' :: r' → escaped? e' = none := by
        rintro e' r' ⟨⟩
        exact hy e r rfl
      rw [List.cons_append, List.cons_append, segment_bad hbad] at h
      cases h

end Shape

namespace Scan

variable {α : Type} {settings : ParserSettings} {policy : IdentifierPolicy} {m : Scan α}
  {c e : Cursor} {z : List Char}

/-! ### What is left alone -/

def Leaves (z : List Char) (e : Cursor) : Prop :=
  z <:+ e.rest

/-- The text is left also where the white space and the comments at the cursor are skipped. -/
def LeavesBehindGaps (z : List Char) (e : Cursor) : Prop :=
  ∃ f, skipGaps e = .ok () f ∧ Leaves z f

/-- What a reading gives where it leaves a text at its end, it gives without that text as well. -/
def Ignores (z : List Char) (E : Cursor → Prop) (m : Scan α) : Prop :=
  ∀ ⦃c a e⦄, m (c.followedBy z) = .ok a e → E e → ∃ d, m c = .ok a d ∧ e = d.followedBy z

theorem LeavesBehindGaps.leaves (h : LeavesBehindGaps z e) : Leaves z e := by
  rcases h with ⟨f, hf, hz⟩
  exact hz.trans (suffix_of_skipGaps hf)

theorem suffix_of_onward {a : α} (h : Onward m) (hm : m c = .ok a e) : e.rest <:+ c.rest := by
  rcases h.of_ok hm with ⟨n, rfl⟩
  rw [Cursor.advanceBy_rest]
  exact List.drop_suffix n c.rest

theorem Leaves.of_onward {a : α} (h : Leaves z e) (ho : Onward m) (hm : m c = .ok a e) :
    Leaves z c :=
  h.trans (suffix_of_onward ho hm)

theorem skipGaps_of_skipSpace {b : Bool} (h : skipSpace c = .ok b e) :
    skipGaps c = .ok () e := by
  unfold skipSpace at h
  split at h
  · next hskip =>
    cases h
    exact hskip
  · cases h

/-- Characters are gone past that are not among those left. -/
theorem ignores_forward (hz : Shape.gap z = .none) (n : Nat) :
    Ignores z (Leaves z) (forward n) := by
  intro c a e h he
  rw [forward_eq_ok] at h
  subst h
  by_cases hnil : z = []
  · subst hnil
    exact ⟨c.advanceBy n, rfl, by simp⟩
  · have hn := Cursor.le_length_of_suffix hnil he
    exact ⟨c.advanceBy n, rfl, Cursor.advanceBy_followedBy hn (Shape.head?_ne_feed hz)⟩

/-! ### White space -/

/-- What is skipped before a text that is left is skipped without it. -/
theorem gap_of_leaves (h : skipGaps (c.followedBy z) = .ok () e) (he : Leaves z e) :
    Shape.gap c.rest = Shape.gap (c.rest ++ z) := by
  by_cases hnil : z = []
  · simp [hnil]
  · cases hgap : Shape.gap (c.rest ++ z) with
    | none => exact Shape.gap_of_append_none hgap
    | skip n =>
      have hsuffix : Leaves z ((c.followedBy z).advanceBy n) := by
        rw [skipGaps_of_skip hgap] at h
        exact he.of_onward onward_skipGaps h
      exact Shape.gap_of_append_skip hgap (Cursor.le_length_of_suffix hnil hsuffix)
    | unterminated =>
      rw [skipGaps] at h
      split at h <;> simp_all

theorem ignores_skipGaps (hz : Shape.gap z = .none) : Ignores z (Leaves z) skipGaps := by
  intro c a e h he
  fun_induction skipGaps c with
  | case1 c hgap =>
    rw [gap_of_leaves h he] at hgap
    rw [skipGaps_of_none hgap] at h
    cases h
    exact ⟨c, rfl, rfl⟩
  | case2 c n hgap ih =>
    rw [gap_of_leaves h he] at hgap
    rw [skipGaps_of_skip hgap] at h
    have hleft := he.of_onward onward_skipGaps h
    rcases ignores_forward hz n (c := c) (a := ()) (forward_eq_ok.2 rfl) hleft with ⟨d, hd, hcut⟩
    rw [forward_eq_ok] at hd
    subst hd
    rw [hcut] at h
    exact ih h
  | case3 c hgap =>
    rw [gap_of_leaves h he] at hgap
    rw [skipGaps] at h
    split at h <;> simp_all

theorem ignores_skipSpace (hz : Shape.gap z = .none) : Ignores z (Leaves z) skipSpace := by
  intro c b e h he
  unfold skipSpace at h ⊢
  split at h
  · next d hd =>
    cases h
    rcases ignores_skipGaps hz hd he with ⟨d, hskip, rfl⟩
    exact ⟨d, by rw [hskip]; rfl, rfl⟩
  · cases h

/-! ### Quoted strings -/

theorem readSegment_ne_ok_of_nil {v : List Char} (hc : c.rest = []) :
    readSegment c ≠ .ok v e := by
  simp [readSegment, Cursor.current?, hc, Shape.segment]

theorem rest_ne_nil_of_readSegment {v : List Char} (h : readSegment c = .ok v e) :
    c.rest ≠ [] :=
  fun hc => readSegment_ne_ok_of_nil hc h

theorem length_lt_of_readSegment {v : List Char} (h : readSegment c = .ok v e) :
    e.rest.length < c.rest.length := by
  rcases readSegment_continues h with ⟨ch, t, hpast, -, -⟩
  rw [hpast.rest]
  simp only [List.length_append, List.length_cons]
  omega

theorem ignores_readSegment (hz : Shape.gap z = .none) : Ignores z (Leaves z) readSegment := by
  intro c v e h he
  have hc : c.rest ≠ [] := by
    intro hnil
    have hlt := length_lt_of_readSegment h
    have hle := he.length_le
    simp only [Cursor.followedBy_rest, hnil, List.nil_append] at hlt
    omega
  have hadvance := Cursor.advance_followedBy hc (Shape.head?_ne_feed hz)
  unfold readSegment at h ⊢
  simp only [Cursor.current?_followedBy hc, hadvance, Cursor.followedBy_rest] at h ⊢
  have hclosed : (Shape.segment c.current? (c.advance.rest ++ z)).ending = .closed := by
    split at h
    · assumption
    · cases h
    · cases h
  have htotal := Shape.length_segment_le c.current? (c.advance.rest ++ z)
  simp only [hclosed] at h
  cases h
  have hlength :
      (Shape.segment c.current? (c.advance.rest ++ z)).length ≤ c.advance.rest.length := by
    have hle := he.length_le
    simp only [Cursor.advanceBy_rest, Cursor.followedBy_rest, List.length_drop,
      List.length_append] at hle htotal
    omega
  have hsame := Shape.segment_of_append hclosed hlength
  rw [hsame] at hclosed hlength ⊢
  simp only [hclosed]
  exact ⟨_, rfl, Cursor.advanceBy_followedBy hlength (Shape.head?_ne_feed hz)⟩

theorem ignores_readJoined (hz : Shape.gap z = .none) :
    Ignores z (LeavesBehindGaps z) readJoined := by
  intro c v e h he
  generalize hb : c.followedBy z = b at h
  fun_induction readJoined b generalizing c v e with
  | case1 => cases h
  | case2 => cases h
  | case3 => cases h
  | case4 => cases h
  | case5 b _ d hskip r hplus _ f hskip' hquote s g hsegment w k hk ih =>
    subst hb
    cases h
    have hg : Leaves z g := he.leaves.of_onward onward_readJoined hk
    have hf : Leaves z f := hg.of_onward onward_readSegment hsegment
    have hd : Leaves z d.advance := hf.of_onward onward_skipGaps hskip'
    rcases ignores_skipGaps hz hskip (hd.trans (by simp [List.tail_suffix])) with ⟨d, hd', rfl⟩
    have hne : d.rest ≠ [] := by
      intro hnil
      have hle := hd.length_le
      simp only [Cursor.advance_rest, Cursor.followedBy_rest, hnil, List.nil_append] at hplus hle
      rw [hplus, List.tail_cons, List.length_cons] at hle
      omega
    rw [Cursor.advance_followedBy hne (Shape.head?_ne_feed hz)] at hskip'
    rcases ignores_skipGaps hz hskip' hf with ⟨f, hf', rfl⟩
    rcases ignores_readSegment hz hsegment hg with ⟨g, hg', rfl⟩
    rcases ih he rfl hk with ⟨k, hk', rfl⟩
    rw [Cursor.current?_followedBy (rest_ne_nil_of_readSegment hg')] at hquote
    obtain ⟨ch, t, hr⟩ := List.exists_cons_of_ne_nil hne
    have hch : ch = '+' := by
      rw [Cursor.followedBy_rest, hr, List.cons_append] at hplus
      exact (List.cons.inj hplus).1
    subst hch
    exact ⟨k, readJoined_of_plus hd' hr hf' hquote hg' hk', rfl⟩
  | case6 => cases h
  | case7 b _ d hskip hplus =>
    subst hb
    cases h
    rcases he with ⟨f, hf, hleft⟩
    obtain rfl : d = f := by
      rw [hskip] at hf
      cases hf
      rfl
    rcases ignores_skipGaps hz hskip hleft with ⟨d, hd, rfl⟩
    refine ⟨c, readJoined_of_end hd ?_, rfl⟩
    intro hhead
    apply hplus (d.rest.tail ++ z)
    rw [Cursor.followedBy_rest, ← List.cons_append, List.cons_head?_tail hhead]

theorem ignores_readQuoted (hz : Shape.gap z = .none) :
    Ignores z (LeavesBehindGaps z) readQuoted := by
  intro c v e h he
  unfold readQuoted at h ⊢
  split at h
  · cases h
  · next first d hd =>
    split at h
    · cases h
    · next others f hf =>
      cases h
      rcases ignores_readSegment hz hd (he.leaves.of_onward onward_readJoined hf) with ⟨d, hd', rfl⟩
      rcases ignores_readJoined hz hf he with ⟨f, hf', rfl⟩
      exact ⟨f, by simp only [hd', hf'], rfl⟩

/-! ### Strings without quotes -/

/-- A word ends where it ends with the text that is left, if that is not in a comment. -/
theorem atWordEnd_of_leaves (he : LeavesBehindGaps z (e.followedBy z))
    (h : Shape.atWordEnd (e.rest ++ z) = true) : Shape.atWordEnd e.rest = true := by
  rcases he with ⟨f, hf, hleft⟩
  have hgap := gap_of_leaves hf hleft
  cases hr : e.rest with
  | nil => rfl
  | cons ch r =>
    rw [hr] at hgap h
    simpa [Shape.atWordEnd, Shape.atGap, hgap] using h

theorem atWordEnd_of_append {s : List Char} (hs : s ≠ []) (h : Shape.atWordEnd (s ++ z) = false) :
    Shape.atWordEnd s = false := by
  cases s with
  | nil => exact absurd rfl hs
  | cons ch r =>
    simp only [List.cons_append, Shape.atWordEnd, Bool.or_eq_false_iff] at h ⊢
    exact ⟨h.1, Shape.atGap_of_append h.2⟩

/-- A word is as long as it was, since it ended before what is left. -/
theorem wordTail_of_leaves {r : List Char} (he : LeavesBehindGaps z e)
    (hrest : e.rest = (r ++ z).drop (Shape.wordTail (r ++ z)).length) :
    Shape.wordTail (r ++ z) = Shape.wordTail r := by
  rcases Shape.exists_wordTail (r ++ z) with ⟨y, hy, hend, hword⟩
  generalize Shape.wordTail (r ++ z) = w at hy hrest hword
  rw [hy, List.drop_left] at hrest
  rcases he.leaves with ⟨y', hy'⟩
  rw [hrest] at hy'
  subst hy'
  rw [← List.append_assoc, List.append_cancel_right_eq] at hy
  subst hy
  symm
  apply hword
  · exact ⟨y', z, [], rfl, by simp, List.not_mem_nil⟩
  · have hcursor : e = Cursor.followedBy { e with rest := y' } z := by
      simp [Cursor.followedBy, ← hrest]
    rw [hcursor] at he
    exact atWordEnd_of_leaves he hend

theorem readWord_of_leaves (hz : Shape.gap z = .none) {v : List Char}
    (hc : Shape.atWordEnd (c.rest ++ z) = false) (h : readWord (c.followedBy z) = .ok v e)
    (he : LeavesBehindGaps z e) :
    c.rest ≠ [] ∧ ∃ d, readWord c = .ok v d ∧ e = d.followedBy z := by
  unfold readWord at h ⊢
  simp only [bind_apply, get_apply, forward_apply, pure_apply, Cursor.followedBy_rest] at h ⊢
  cases h
  cases hr : c.rest with
  | nil =>
    have hne : z ≠ [] := by
      rintro rfl
      simp [hr, Shape.atWordEnd] at hc
    have hlength := Cursor.le_length_of_suffix hne he.leaves
    obtain ⟨ch, r, rfl⟩ := List.exists_cons_of_ne_nil hne
    simp [hr, Shape.word] at hlength
  | cons ch r =>
    have hrest : ((c.followedBy z).advanceBy (Shape.word (c.rest ++ z)).length).rest =
        (r ++ z).drop (Shape.wordTail (r ++ z)).length := by
      simp [hr, Shape.word]
    have hword : Shape.word (ch :: r ++ z) = Shape.word (ch :: r) := by
      rw [List.cons_append, Shape.word, Shape.word, wordTail_of_leaves he hrest]
    rw [hr, hword] at he
    rw [hword]
    have hforward : forward (Shape.word (ch :: r)).length (c.followedBy z) = .ok () _ := rfl
    rcases ignores_forward hz _ hforward he.leaves with ⟨d, hd, hcut⟩
    rw [forward_eq_ok] at hd
    subst hd
    exact ⟨List.cons_ne_nil ch r, _, rfl, hcut⟩

theorem rest_ne_nil_of_readQuoted {v : List Char} (h : readQuoted c = .ok v e) : c.rest ≠ [] := by
  unfold readQuoted at h
  split at h
  · cases h
  · next hsegment => exact rest_ne_nil_of_readSegment hsegment

theorem eq_of_readString?_none (h : readString? settings c = .ok none e) : e = c := by
  unfold readString? at h
  simp only [bind_apply, get_apply, ite_apply, pure_apply] at h
  split at h
  · split at h
    · split at h <;> cases h
    · cases h
  · split at h
    · cases h
      rfl
    · split at h
      · split at h <;> cases h
      · cases h

theorem ignores_readString? (hz : Shape.gap z = .none) :
    Ignores z (LeavesBehindGaps z) (readString? settings) := by
  intro c v e h he
  unfold readString? at h ⊢
  simp only [bind_apply, get_apply, ite_apply, pure_apply, Cursor.followedBy_position] at h ⊢
  by_cases hquote : (c.followedBy z).current?.any Shape.isQuote = true
  · rw [if_pos hquote] at h
    split at h
    · next value d hd =>
      split at h
      · next hlayout =>
        cases h
        rcases withoutLayout_eq_ok.1 hlayout with ⟨hstrip, rfl⟩
        rcases ignores_readQuoted hz hd he with ⟨d, hd', rfl⟩
        rw [Cursor.current?_followedBy (rest_ne_nil_of_readQuoted hd')] at hquote
        have hlayout' := withoutLayout_eq_ok (c := d).2 ⟨hstrip, rfl⟩
        exact ⟨d, by simp only [if_pos hquote, hd', hlayout'], rfl⟩
      · cases h
    · cases h
  · have hquote' : ¬ c.current?.any Shape.isQuote = true := by
      by_cases hc : c.rest = []
      · simp [Cursor.current?, hc]
      · rwa [← Cursor.current?_followedBy hc z]
    rw [if_neg hquote] at h
    rw [if_neg hquote']
    by_cases hend : Shape.atWordEnd (c.followedBy z).rest = true
    · rw [if_pos hend] at h
      cases h
      exact ⟨c, by rw [if_pos (atWordEnd_of_leaves he hend)], rfl⟩
    · rw [if_neg hend] at h
      rw [Bool.not_eq_true] at hend
      split at h
      · next value d hd =>
        split at h
        · next hlayout =>
          cases h
          rcases withoutLayout_eq_ok.1 hlayout with ⟨hstrip, rfl⟩
          rcases readWord_of_leaves hz hend hd he with ⟨hc, d, hd', rfl⟩
          have hlayout' := withoutLayout_eq_ok (c := d).2 ⟨hstrip, rfl⟩
          exact ⟨d, by simp only [atWordEnd_of_append hc hend, hd', hlayout']; simp, rfl⟩
        · cases h
      · cases h

/-! ### Identifiers -/

theorem any_head?_drop_takeWhile (p : Char → Bool) (s : List Char) :
    (s.drop (s.takeWhile p).length).head?.any p = false := by
  induction s with
  | nil => rfl
  | cons ch s ih =>
    by_cases hp : p ch = true
    · rwa [List.takeWhile_cons_of_pos hp, List.length_cons, List.drop_succ_cons]
    · simp [hp]

theorem endsName_of_readIdentifier {name : String} (h : readIdentifier policy c = .ok name e) :
    e.rest.head?.any Shape.isIdentifierChar = false := by
  unfold readIdentifier at h
  simp only [bind_apply, get_apply, ite_apply, forward_apply, pure_apply] at h
  split at h
  · split at h
    · exact absurd h failAt_ne_ok
    · cases h
      rw [Cursor.advanceBy_rest]
      exact any_head?_drop_takeWhile _ _
  · exact absurd h fail_ne_ok

theorem ignores_readIdentifier (hz : Shape.gap z = .none) :
    Ignores z (Leaves z) (readIdentifier policy) := by
  intro c name e h he
  have hpast := past_of_readIdentifier h
  have hname := isName_of_readIdentifier h
  have hends := endsName_of_readIdentifier h
  rcases he with ⟨r, hr⟩
  have hrest : c.rest = name.toList ++ r := by
    rw [← List.append_cancel_right_eq c.rest z, List.append_assoc, hr, ← hpast.rest,
      Cursor.followedBy_rest]
  have hends' : r.head?.any Shape.isIdentifierChar = false := by
    rw [← hr] at hends
    cases r with
    | nil => rfl
    | cons ch r => exact hends
  refine ⟨c.advanceBy name.toList.length, ?_, ?_⟩
  · rw [readIdentifier_name hrest hname hends', String.ofList_toList]
  · rw [hpast.stop]
    apply Cursor.advanceBy_followedBy _ (Shape.head?_ne_feed hz)
    simp [hrest]

end Scan
end YangSchema
