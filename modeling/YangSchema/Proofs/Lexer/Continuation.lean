import Mathlib.Logic.Relation
import YangSchema.Proofs.Lexer.Recognition

/-!
# Another continuation

A reading that stopped at some place of a text takes the same part of it when what comes after is
exchanged, as long as the new continuation ends what the reading was in. Here for white space and
comments: they are complete when something comes after them, and a line feed completes the comment
of a last line.
-/
namespace YangSchema

/-! ### Going past a text -/

namespace Cursor

variable {c d e : Cursor} {t u : List Char}

/-- The second cursor stands where a text ends that the first one stands before. -/
structure Past (c : Cursor) (t : List Char) (d : Cursor) : Prop where
  rest : c.rest = t ++ d.rest
  stop : d = c.advanceBy t.length

theorem Past.refl (c : Cursor) : c.Past [] c :=
  ⟨rfl, rfl⟩

theorem Past.trans (h : c.Past t d) (h' : d.Past u e) : c.Past (t ++ u) e where
  rest := by rw [h.rest, h'.rest, List.append_assoc]
  stop := by rw [h'.stop, h.stop, List.length_append, advanceBy_add]

theorem past_of_rest (h : c.rest = t ++ u) : c.Past t (c.advanceBy t.length) :=
  ⟨by rw [rest_advanceBy_length h, h], rfl⟩

theorem past_of_current? {ch : Char} (h : c.current? = some ch) : c.Past [ch] c.advance :=
  past_of_rest (t := [ch]) (u := c.rest.tail) (List.cons_head?_tail h).symm

theorem advanceBy_of_nil (h : c.rest = []) (n : Nat) : c.advanceBy n = c := by
  induction n with
  | zero => rfl
  | succ n ih => rw [advanceBy, advance, h, ih]

/-- At the end of the text a cursor stays. -/
theorem past_advanceBy (c : Cursor) (n : Nat) : c.Past (c.rest.take n) (c.advanceBy n) := by
  by_cases hn : n ≤ c.rest.length
  · refine ⟨?_, ?_⟩
    · rw [advanceBy_rest, List.take_append_drop]
    · rw [List.length_take, Nat.min_eq_left hn]
  · obtain ⟨k, rfl⟩ := Nat.exists_eq_add_of_le (Nat.le_of_not_le hn)
    have hend : (c.advanceBy c.rest.length).rest = [] := by rw [advanceBy_rest, List.drop_length]
    rw [advanceBy_add, advanceBy_of_nil hend, List.take_of_length_le (Nat.le_add_right _ k)]
    exact ⟨by rw [hend, List.append_nil], rfl⟩

end Cursor

/-! ### Comments -/

namespace Shape

variable {s w x y : List Char} {n : Nat}

theorem closer?_cons (c : Char) (r : List Char) :
    closer? (c :: r) =
      if c = '*' ∧ r.head? = some '/' then some 0 else (closer? r).map (· + 1) := by
  rw [closer?.eq_def]
  split
  · next h =>
    cases h
    simp
  · next h => cases h
  · next hne h =>
    cases h
    rw [if_neg]
    rintro ⟨rfl, hr⟩
    cases r with
    | nil => cases hr
    | cons e r =>
      cases hr
      exact hne r rfl rfl

theorem length_of_closer? (h : closer? s = some n) : n + 2 ≤ s.length := by
  induction s generalizing n with
  | nil => cases h
  | cons c r ih =>
    rw [closer?_cons] at h
    split at h
    · next hc =>
      cases h
      cases r with
      | nil => simp at hc
      | cons e r => simp
    · obtain ⟨m, hm, rfl⟩ := Option.map_eq_some_iff.1 h
      have := ih hm
      simp only [List.length_cons]
      omega

/-- The end of a block comment is found whatever comes after it. -/
theorem closer?_append (h : closer? (s ++ y) = some n) (hn : n + 2 ≤ s.length) (x : List Char) :
    closer? (s ++ x) = some n := by
  induction s generalizing n with
  | nil => simp at hn
  | cons c s ih =>
    rw [List.cons_append, closer?_cons] at h ⊢
    cases s with
    | nil =>
      split at h
      · cases h
        simp at hn
      · obtain ⟨m, -, rfl⟩ := Option.map_eq_some_iff.1 h
        simp at hn
    | cons e s =>
      have hhead (z : List Char) : (e :: s ++ z).head? = some e := rfl
      rw [hhead] at h ⊢
      split at h
      · next hc =>
        cases h
        rw [if_pos hc]
      · next hc =>
        obtain ⟨m, hm, rfl⟩ := Option.map_eq_some_iff.1 h
        rw [if_neg hc, ih hm (by simp only [List.length_cons] at hn ⊢; omega)]
        rfl

/-- A block comment that does not end does not end with a continuation that has no slash. -/
theorem closer?_append_eq_none (h : closer? (s ++ y) = none) (hw : '/' ∉ w) :
    closer? (s ++ w) = none := by
  induction s with
  | nil =>
    clear h
    induction w with
    | nil => rfl
    | cons c w ih =>
      have hw' : '/' ∉ w := fun h => hw (List.mem_cons_of_mem c h)
      rw [List.nil_append, closer?_cons, if_neg, ← List.nil_append w, ih hw']
      · rfl
      · rintro ⟨-, hc⟩
        exact hw' (List.mem_of_mem_head? hc)
  | cons c s ih =>
    rw [List.cons_append, closer?_cons] at h ⊢
    split at h
    · cases h
    · next hc =>
      rw [if_neg, ih (Option.map_eq_none_iff.1 h)]
      · rfl
      · rintro ⟨rfl, hhead⟩
        cases s with
        | nil => exact hw (List.mem_of_mem_head? hhead)
        | cons e s => exact hc ⟨rfl, hhead⟩

/-- A rest of a text and what it is exchanged for: they begin alike, and then the second one has no
slash. -/
def Recut (y x : List Char) : Prop :=
  ∃ v y' w, y = v ++ y' ∧ x = v ++ w ∧ '/' ∉ w

theorem Recut.append (h : Recut y x) (v : List Char) : Recut (v ++ y) (v ++ x) := by
  obtain ⟨v', y', w, rfl, rfl, hw⟩ := h
  exact ⟨v ++ v', y', w, by rw [List.append_assoc], by rw [List.append_assoc], hw⟩

theorem recut_of_notMem (hx : '/' ∉ x) (y : List Char) : Recut y x :=
  ⟨[], y, x, rfl, rfl, hx⟩

theorem Recut.closer? (h : Recut y x) (hy : closer? y = none) : closer? x = none := by
  obtain ⟨v, y', w, rfl, rfl, hw⟩ := h
  exact closer?_append_eq_none hy hw

theorem gap_space {c : Char} (hc : isSpace c = true) (r : List Char) : gap (c :: r) = .skip 1 := by
  rw [gap, if_pos hc]

theorem gap_line (r : List Char) :
    gap ('/' :: '/' :: r) = .skip (lineCommentLength ('/' :: '/' :: r)) := rfl

theorem gap_block (r : List Char) : gap ('/' :: '*' :: r) =
    match closer? r with
    | some n => .skip (n + 4)
    | none => .unterminated := by
  change (match (closer? r).map (· + 4) with
    | some n => Gap.skip n
    | none => .unterminated) = _
  cases closer? r <;> rfl

/-- White space and the two kinds of comments, and all else. -/
theorem gap_cases (s : List Char) :
    (∃ c r, s = c :: r ∧ isSpace c = true) ∨ (∃ r, s = '/' :: '/' :: r) ∨
      (∃ r, s = '/' :: '*' :: r) ∨ gap s = .none := by
  cases s with
  | nil => exact .inr (.inr (.inr rfl))
  | cons c r =>
    by_cases hspace : isSpace c = true
    · exact .inl ⟨c, r, rfl, hspace⟩
    · right
      by_cases hline : c = '/' ∧ r.head? = some '/'
      · obtain ⟨rfl, hr⟩ := hline
        exact .inl ⟨r.tail, by rw [List.cons_head?_tail hr]⟩
      · right
        by_cases hblock : c = '/' ∧ r.head? = some '*'
        · obtain ⟨rfl, hr⟩ := hblock
          exact .inl ⟨r.tail, by rw [List.cons_head?_tail hr]⟩
        · right
          rw [gap, if_neg hspace, if_neg (by simpa using hline), if_neg (by simpa using hblock)]

/-- A text has no line end, or a first one. -/
theorem exists_lineEnd (s : List Char) : (∀ c ∈ s, c ≠ '\n' ∧ c ≠ '\r') ∨
    ∃ a b l, s = a ++ b :: l ∧ (∀ c ∈ a, c ≠ '\n' ∧ c ≠ '\r') ∧ (b = '\n' ∨ b = '\r') := by
  induction s with
  | nil => exact .inl (by simp)
  | cons c s ih =>
    by_cases hc : c = '\n' ∨ c = '\r'
    · exact .inr ⟨[], c, s, rfl, by simp, hc⟩
    · have hc' := not_or.1 hc
      obtain h | ⟨a, b, l, rfl, ha, hb⟩ := ih
      · exact .inl (List.forall_mem_cons.2 ⟨hc', h⟩)
      · exact .inr ⟨c :: a, b, l, rfl, List.forall_mem_cons.2 ⟨hc', ha⟩, hb⟩

theorem lineCommentLength_append {b : Char} (hs : ∀ c ∈ s, c ≠ '\n' ∧ c ≠ '\r')
    (hb : b = '\n' ∨ b = '\r') (x : List Char) :
    lineCommentLength (s ++ b :: x) = s.length + 1 := by
  rw [lineCommentLength, List.takeWhile_append_of_pos (by simpa using hs),
    List.takeWhile_cons_of_neg (by obtain rfl | rfl := hb <;> simp), List.append_nil]

/-- A line comment ends in the text, or would end at the next line feed. -/
theorem gap_line_append {r : List Char} (hs : s = '/' :: '/' :: r) (hn : n = lineCommentLength s) :
    (n ≤ s.length ∧ ∀ x, gap (s.take n ++ x) = .skip n) ∨
      (n = s.length + 1 ∧ ∀ x, gap (s ++ '\n' :: x) = .skip n) := by
  obtain hline | ⟨a, b, l, hsplit, ha, hb⟩ := exists_lineEnd s
  · right
    have hlen : n = s.length + 1 := by
      rw [hn, lineCommentLength, List.takeWhile_eq_self_iff.2 (by simpa using hline)]
    refine ⟨hlen, fun x => ?_⟩
    rw [hlen, ← lineCommentLength_append hline (.inl rfl) x, hs]
    exact gap_line _
  · left
    have hlen : n = a.length + 1 := by rw [hn, hsplit, lineCommentLength_append ha hb]
    obtain ⟨a', rfl⟩ : ∃ a', a = '/' :: '/' :: a' := by
      rw [hs] at hsplit
      rcases a with _ | ⟨c, _ | ⟨d, a⟩⟩
      · cases hsplit
        simp at hb
      · cases hsplit
        simp at hb
      · simp only [List.cons_append, List.cons.injEq] at hsplit
        obtain ⟨rfl, rfl, -⟩ := hsplit
        exact ⟨a, rfl⟩
    refine ⟨by rw [hlen, hsplit]; simp, fun x => ?_⟩
    have htake : s.take n ++ x = '/' :: '/' :: a' ++ b :: x := by
      rw [hlen, hsplit, List.append_cons, List.take_left' (by simp), ← List.append_cons]
    rw [htake, hlen, ← lineCommentLength_append ha hb x]
    exact gap_line _

/-- What is skipped is complete, but for a line comment that the text ends in. -/
theorem gap_skip_append (h : gap s = .skip n) :
    (n ≤ s.length ∧ ∀ x, gap (s.take n ++ x) = .skip n) ∨
      (n = s.length + 1 ∧ ∀ x, gap (s ++ '\n' :: x) = .skip n) := by
  obtain ⟨c, r, rfl, hc⟩ | ⟨r, rfl⟩ | ⟨r, rfl⟩ | hnone := gap_cases s
  · rw [gap_space hc] at h
    cases h
    exact .inl ⟨by simp, fun x => gap_space hc _⟩
  · rw [gap_line] at h
    cases h
    exact gap_line_append rfl rfl
  · rw [gap_block] at h
    cases hclose : closer? r with
    | none =>
      rw [hclose] at h
      cases h
    | some m =>
      rw [hclose] at h
      cases h
      have hlen := length_of_closer? hclose
      refine .inl ⟨by simp only [List.length_cons]; omega, fun x => ?_⟩
      have htake : closer? (r.take (m + 2) ++ x) = some m := by
        refine closer?_append (y := r.drop (m + 2)) ?_ (by simp; omega) x
        rwa [List.take_append_drop]
      change gap ('/' :: '*' :: (r.take (m + 2) ++ x)) = _
      rw [gap_block, htake]
  · rw [hnone] at h
    cases h

end Shape

/-! ### Texts that are accepted -/

namespace Scan

variable {α β : Type} {c d : Cursor} {x y z : List Char} {e : SyntaxError}

/-- The reading takes a text up to a given end of it, wherever the text stands. -/
def Accepts (m : Scan α) (x z : List Char) : Prop :=
  ∀ c : Cursor, c.rest = x → ∃ a d, m c = .ok a d ∧ d.rest = z

/-- A reading that failed at a limit of the interpreter, and not for what the text is. -/
def Exceeds (r : EStateM.Result SyntaxError Cursor α) : Prop :=
  ∃ e d, r = .error e d ∧ e.fault.isLimit = true

/-- The reading takes a text up to a given end of it, if it meets no limit. -/
def Admits (m : Scan α) (x z : List Char) : Prop :=
  ∀ c : Cursor, c.rest = x → Exceeds (m c) ∨ ∃ a d, m c = .ok a d ∧ d.rest = z

theorem Accepts.admits {m : Scan α} (h : Accepts m x z) : Admits m x z :=
  fun c hc => .inr (h c hc)

/-! ### White space and comments -/

theorem skipGaps_of_none (h : Shape.gap c.rest = .none) : skipGaps c = .ok () c := by
  rw [skipGaps]
  split <;> simp_all

theorem skipGaps_of_skip {n : Nat} (h : Shape.gap c.rest = .skip n) :
    skipGaps c = skipGaps (c.advanceBy n) := by
  rw [skipGaps]
  split
  · simp_all
  · next m hm =>
    cases hm.symm.trans h
    rfl
  · simp_all

theorem gap_of_skipGaps (h : skipGaps c = .ok () d) : Shape.gap d.rest = .none := by
  fun_induction skipGaps c with
  | case1 c hgap =>
    cases h
    exact hgap
  | case2 c n hgap ih => exact ih h
  | case3 => cases h

theorem accepts_skipGaps_none (h : Shape.gap x = .none) : Accepts skipGaps x x := by
  rintro c rfl
  exact ⟨(), c, skipGaps_of_none h, rfl⟩

theorem accepts_skipGaps_skip {t : List Char} {n : Nat} (hgap : Shape.gap (t ++ x) = .skip n)
    (hn : n = t.length) (h : Accepts skipGaps x z) : Accepts skipGaps (t ++ x) z := by
  intro c hc
  rw [skipGaps_of_skip (hc ▸ hgap), hn]
  exact h _ (Cursor.rest_advanceBy_length hc)

theorem accepts_skipSpace_iff : Accepts skipSpace x z ↔ Accepts skipGaps x z := by
  have hiff (c : Cursor) : (∃ a d, skipSpace c = .ok a d ∧ d.rest = z) ↔
      ∃ a d, skipGaps c = .ok a d ∧ d.rest = z := by
    unfold skipSpace
    cases skipGaps c <;> simp
  simp only [Accepts, hiff]

/-- After white space, one rest of a text is exchanged for another, of which white space ends before
a given end: nothing comes in between, or a line feed that ends the comment of the last line. -/
structure Resumes (y x z : List Char) : Prop where
  rest : y ≠ [] ∧ x = z ∨ x = '\n' :: z
  gap : Shape.gap z = .none

theorem Resumes.accepts (h : Resumes y x z) : Accepts skipGaps x z := by
  have hz := accepts_skipGaps_none h.gap
  obtain ⟨-, rfl⟩ | rfl := h.rest
  · exact hz
  · exact accepts_skipGaps_skip (t := ['\n']) (Shape.gap_space rfl z) rfl hz

theorem resumes_self (hy : y ≠ []) (hx : Shape.gap x = .none) : Resumes y x x :=
  ⟨.inl ⟨hy, rfl⟩, hx⟩

theorem skipGaps_continues (h : skipGaps c = .ok () d) :
    ∃ t, c.Past t d ∧ ∀ x z, Resumes d.rest x z → Accepts skipGaps (t ++ x) z := by
  fun_induction skipGaps c with
  | case1 c =>
    cases h
    exact ⟨[], .refl _, fun x z hx => hx.accepts⟩
  | case2 c n hgap ih =>
    obtain ⟨t, ht, hx⟩ := ih h
    have hpast := (c.past_advanceBy n).trans ht
    refine ⟨_, hpast, fun x z hxz => ?_⟩
    obtain ⟨hn, hskip⟩ | ⟨hn, hskip⟩ := Shape.gap_skip_append hgap
    · rw [List.append_assoc]
      refine accepts_skipGaps_skip (hskip _) ?_ (hx x z hxz)
      rw [List.length_take, Nat.min_eq_left hn]
    · -- The text ends in a line comment, so that what resumes it starts with a line feed.
      have hall : c.rest.take n = c.rest := List.take_of_length_le (by omega)
      have hrest := hpast.rest
      rw [hall, List.append_assoc, List.self_eq_append_right, List.append_eq_nil_iff] at hrest
      obtain ⟨rfl, hd⟩ := hrest
      obtain ⟨hne, -⟩ | rfl := hxz.rest
      · exact absurd hd hne
      · rw [hall, List.append_nil, List.append_cons]
        have hfeed := hskip z
        rw [List.append_cons] at hfeed
        exact accepts_skipGaps_skip hfeed (by simp [hn]) (accepts_skipGaps_none hxz.gap)
  | case3 => cases h

/-- Before a comment that never ends, anything else may come. -/
theorem skipGaps_stops (h : skipGaps c = .error e d) :
    ∃ t d', c.Past t d' ∧ e.position = d'.position ∧ d'.rest ≠ [] ∧
      ∀ x, Shape.gap x = .none → Accepts skipGaps (t ++ x) x := by
  fun_induction skipGaps c with
  | case1 => cases h
  | case2 c n hgap ih =>
    obtain ⟨t, d', ht, he, hne, hx⟩ := ih h
    refine ⟨_, d', (c.past_advanceBy n).trans ht, he, hne, fun x hgapx => ?_⟩
    obtain ⟨hn, hskip⟩ | ⟨hn, -⟩ := Shape.gap_skip_append hgap
    · rw [List.append_assoc]
      refine accepts_skipGaps_skip (hskip _) ?_ (hx x hgapx)
      rw [List.length_take, Nat.min_eq_left hn]
    · have hrest := ht.rest
      rw [Cursor.advanceBy_rest, List.drop_eq_nil_of_le (by omega)] at hrest
      exact absurd (List.append_eq_nil_iff.1 hrest.symm).2 hne
  | case3 c hgap =>
    cases h
    refine ⟨[], _, .refl _, rfl, fun hnil => ?_, fun x hgapx => accepts_skipGaps_none hgapx⟩
    rw [hnil] at hgap
    cases hgap

/-! ### Readings one after the other -/

/-- What was taken of a text is taken up to another end of it, of which `E` holds. -/
def Continues (E : List Char → Prop) (R : List Char → List Char → Prop) (c d : Cursor) : Prop :=
  ∃ t, c.Past t d ∧ ∀ x z, Shape.Recut d.rest x → Resumes d.rest x z → E z → R (t ++ x) z

/-- What completes a text that breaks off has only line feeds, quotes, semicolons, closing braces
and one letter. -/
def Completing (w : List Char) : Prop :=
  ∀ ch ∈ w, ch ∈ ['\n', '"', ';', '\x7d', 'a']

instance (w : List Char) : Decidable (Completing w) :=
  List.decidableBAll (fun ch => ch ∈ ['\n', '"', ';', '\x7d', 'a']) w

theorem Completing.append {v w : List Char} (hv : Completing v) (hw : Completing w) :
    Completing (v ++ w) :=
  fun ch hch => (List.mem_append.1 hch).elim (hv ch) (hw ch)

theorem Completing.slash_notMem {w k : List Char} (hw : Completing w) (hk : '/' ∉ k) :
    '/' ∉ w ++ k := by
  rw [List.mem_append, not_or]
  exact ⟨fun h => absurd (hw _ h) (by decide), hk⟩

/-- The text up to a place can be completed, to be taken up to any end of which `E` holds. -/
def Viable (E : List Char → Prop) (R : List Char → List Char → Prop) (c : Cursor) (p : Position) :
    Prop :=
  ∃ t d w, c.Past t d ∧ p = d.position ∧ Completing w ∧
    ∀ k, E k → '/' ∉ k → R (t ++ (w ++ k)) k

section Compose
open Relation

variable {E F : List Char → Prop} {R S : List Char → List Char → Prop} {p : Position}

theorem Continues.mono (h : Continues E R c d) (hRS : ∀ x z, R x z → S x z) :
    Continues E S c d := by
  obtain ⟨t, hpast, hx⟩ := h
  exact ⟨t, hpast, fun x z hrecut hxz hz => hRS _ _ (hx x z hrecut hxz hz)⟩

theorem Viable.mono (h : Viable E R c p) (hRS : ∀ x z, R x z → S x z) : Viable E S c p := by
  obtain ⟨t, d, w, hpast, hp, hw, hk⟩ := h
  exact ⟨t, d, w, hpast, hp, hw, fun k hE hslash => hRS _ _ (hk k hE hslash)⟩

theorem Viable.imp (h : Viable E R c p) (hFE : ∀ k, F k → E k) : Viable F R c p := by
  obtain ⟨t, d, w, hpast, hp, hw, hk⟩ := h
  exact ⟨t, d, w, hpast, hp, hw, fun k hF => hk k (hFE k hF)⟩

/-- Where more was left of the text than may come, the text can end. -/
theorem Continues.viable (h : Continues E R c d) (hd : d.rest ≠ [])
    (hF : ∀ k, F k → E k ∧ Shape.gap k = .none) : Viable F R c d.position := by
  obtain ⟨t, hpast, hx⟩ := h
  refine ⟨t, d, [], hpast, rfl, by decide, fun k hk hslash => ?_⟩
  obtain ⟨hE, hgap⟩ := hF k hk
  exact hx k k (Shape.recut_of_notMem hslash _) (resumes_self hd hgap) hE

/-- Where something is missing, it can be put. -/
theorem viable_here {w : List Char} (hw : Completing w) (h : ∀ k, E k → R (w ++ k) k) (c : Cursor) :
    Viable E R c c.position :=
  ⟨[], c, w, .refl c, rfl, hw, fun k hk _ => h k hk⟩

/-- The rest of what breaks off in a first part can be put after it. -/
theorem Viable.before {w : List Char} (h : Viable E R c p) (hw : Completing w)
    (hS : ∀ k, F k → E (w ++ k) ∧ S (w ++ k) k) : Viable F (Comp R S) c p := by
  obtain ⟨t, d, v, hpast, hp, hv, hk⟩ := h
  refine ⟨t, d, v ++ w, hpast, hp, hv.append hw, fun k hF hslash => ⟨w ++ k, ?_, (hS k hF).2⟩⟩
  rw [List.append_assoc]
  exact hk _ (hS k hF).1 (hw.slash_notMem hslash)

theorem Continues.comp {f : Cursor} (hR : Continues E R c d) (hS : Continues F S d f)
    (hE : ∀ x z, S x z → E x) (hgap : ∀ x, E x → Shape.gap x = .none) :
    Continues F (Comp R S) c f := by
  obtain ⟨t₁, hpast₁, h₁⟩ := hR
  obtain ⟨t₂, hpast₂, h₂⟩ := hS
  refine ⟨_, hpast₁.trans hpast₂, fun x z hrecut hxz hz => ?_⟩
  have hx := h₂ x z hrecut hxz hz
  have hgapx := hgap _ (hE _ _ hx)
  have hne : d.rest ≠ [] := by
    intro hnil
    have hrest := hpast₂.rest
    rw [hnil, List.nil_eq, List.append_eq_nil_iff] at hrest
    obtain ⟨rfl, hnilf⟩ := hrest
    obtain ⟨hf, -⟩ | rfl := hxz.rest
    · exact hf hnilf
    · cases hgapx
  rw [List.append_assoc]
  refine ⟨_, h₁ _ _ ?_ (resumes_self hne hgapx) (hE _ _ hx), hx⟩
  rw [hpast₂.rest]
  exact hrecut.append t₂

/-- A line feed goes before what is put at the end of the text, since it may end in a comment. -/
theorem Viable.after (hR : Continues E R c d) (hS : Viable F S d p)
    (hE : ∀ x z, S x z → E x) (hgap : ∀ x, E x → Shape.gap x = .none) :
    Viable F (Comp R S) c p := by
  obtain ⟨t₁, hpast₁, h₁⟩ := hR
  obtain ⟨t₂, d', w, hpast₂, hp, hw, h₂⟩ := hS
  by_cases ht : t₂ = []
  · subst ht
    obtain rfl : d' = d := hpast₂.stop
    have hw' : Completing ('\n' :: w) := Completing.append (v := ['\n']) (by decide) hw
    refine ⟨t₁, d', '\n' :: w, hpast₁, hp, hw', fun k hk hslash => ?_⟩
    have hx := h₂ k hk hslash
    have hrecut := Shape.recut_of_notMem (hw'.slash_notMem hslash) d'.rest
    refine ⟨w ++ k, h₁ _ _ hrecut ⟨.inr rfl, ?_⟩ ?_, hx⟩
    · exact hgap _ (hE _ _ hx)
    · exact hE _ _ hx
  · refine ⟨_, d', w, hpast₁.trans hpast₂, hp, hw, fun k hk hslash => ?_⟩
    have hx := h₂ k hk hslash
    have hne : d.rest ≠ [] := by
      rw [hpast₂.rest]
      exact fun h => ht (List.append_eq_nil_iff.1 h).1
    rw [List.append_assoc]
    refine ⟨_, h₁ _ _ ?_ (resumes_self hne (hgap _ (hE _ _ hx))) (hE _ _ hx), hx⟩
    rw [hpast₂.rest]
    exact (Shape.recut_of_notMem (hw.slash_notMem hslash) _).append t₂

end Compose

end Scan
end YangSchema
