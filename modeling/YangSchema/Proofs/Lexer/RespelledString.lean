import YangSchema.Proofs.Lexer.LineEnd

/-!
# Strings with other line ends

The value of strings in quotes is made of characters that stand for themselves and of escapes. With
other line ends the former change, and then the same layout is stripped: an escaped line break that
stands beside a line end is one line break with it in one spelling and two in another, and nothing
else makes a difference.
-/
namespace YangSchema

/-- A character of the value of a quoted string, and whether it is written as an escape. -/
structure Piece where
  char : Char
  escaped : Bool
  deriving Repr, DecidableEq

def LineEnd.spellPieces (e : LineEnd) (ps : List Piece) : List Char :=
  ps.flatMap fun p => if p.char = '\n' ∧ p.escaped = false then '\r' :: e.tail else [p.char]

/-- Two neighbours are one line break, in the text or with the other line ends, but not in both. -/
def LineEnd.Meets (e : LineEnd) (p q : Piece) : Prop :=
  p = ⟨'\r', true⟩ ∧ q = ⟨'\n', false⟩ ∨ e = carriage ∧ p = ⟨'\n', false⟩ ∧ q = ⟨'\n', true⟩

/-- An escaped line break stands beside a line end that it meets. -/
def LineEnd.Fuses (e : LineEnd) (ps : List Piece) : Prop :=
  ∃ l p q r, ps = l ++ p :: q :: r ∧ e.Meets p q

/-! ### Layout -/

namespace LineEnd
open Text

variable {e : LineEnd} {p q : Piece} {ps : List Piece} {r s : List Char}

theorem spellPieces_feed (e : LineEnd) (ps : List Piece) :
    e.spellPieces (⟨'\n', false⟩ :: ps) = '\r' :: (e.tail ++ e.spellPieces ps) := by
  simp [spellPieces]

theorem spellPieces_cons (hp : p ≠ ⟨'\n', false⟩) (ps : List Piece) :
    e.spellPieces (p :: ps) = p.char :: e.spellPieces ps := by
  have hp' : ¬ (p.char = '\n' ∧ p.escaped = false) := by
    rintro ⟨hchar, hescaped⟩
    cases p
    cases hchar
    cases hescaped
    exact hp rfl
  simp [spellPieces, hp']

theorem spellPieces_append (ps qs : List Piece) :
    e.spellPieces (ps ++ qs) = e.spellPieces ps ++ e.spellPieces qs := by
  simp [spellPieces]

theorem Fuses.cons (h : e.Fuses ps) (p : Piece) : e.Fuses (p :: ps) := by
  obtain ⟨l, a, b, r, rfl, hab⟩ := h
  exact ⟨p :: l, a, b, r, rfl, hab⟩

theorem not_meets (h : ¬ e.Fuses (p :: ps)) : ∀ q ∈ ps.head?, ¬ e.Meets p q := by
  intro q hq hpq
  refine h ⟨[], p, q, ps.tail, ?_, hpq⟩
  rw [List.cons_head?_tail hq, List.nil_append]

/-- A carriage return and a line feed after it are one line end. -/
theorem unify_return (r : List Char) :
    Line.unify ('\r' :: r) =
      '\n' :: if r.head? = some '\n' then (Line.unify r).tail else Line.unify r := by
  cases r with
  | nil => rfl
  | cons c r =>
    by_cases hc : c = '\n'
    · subst hc
      rw [Line.unify, Dedent.unify_cons (fun _ h => absurd h (by decide))]
      simp
    · rw [Dedent.unify_cons (by simp [hc])]
      simp [hc]

theorem unify_of_ne {c : Char} (hc : c ≠ '\r') (r : List Char) :
    Line.unify (c :: r) = c :: Line.unify r := by
  rw [Dedent.unify_cons (fun _ h => absurd h hc), if_neg hc]

theorem head?_spellPieces (ps : List Piece) :
    (e.spellPieces ps).head? = some '\n' ↔ ps.head? = some ⟨'\n', true⟩ := by
  cases ps with
  | nil => simp [spellPieces]
  | cons p ps =>
    by_cases hp : p = ⟨'\n', false⟩
    · simp [hp, spellPieces_feed]
    · rw [spellPieces_cons hp]
      obtain ⟨c, b⟩ := p
      cases b <;> simp_all

theorem head?_chars (h : ps.head? ≠ some ⟨'\n', false⟩) :
    (ps.map Piece.char).head? = some '\n' ↔ ps.head? = some ⟨'\n', true⟩ := by
  cases ps with
  | nil => simp
  | cons p ps =>
    obtain ⟨c, b⟩ := p
    cases b <;> simp_all

/-- Where no line ends meet there are the same line ends in both spellings. -/
theorem unify_spellPieces (hclean : ⟨'\r', false⟩ ∉ ps) (h : ¬ e.Fuses ps) :
    Line.unify (e.spellPieces ps) = Line.unify (ps.map Piece.char) := by
  induction ps with
  | nil => rfl
  | cons p ps ih =>
    rw [List.mem_cons, not_or] at hclean
    have hrest := ih hclean.2 fun hf => h (hf.cons p)
    have hmeets := not_meets h
    by_cases hfeed : p = ⟨'\n', false⟩
    · subst hfeed
      have hright : Line.unify ('\n' :: ps.map Piece.char) =
          '\n' :: Line.unify (e.spellPieces ps) := by
        rw [unify_of_ne (by decide), hrest]
      rw [spellPieces_feed, List.map_cons, hright]
      cases e with
      | carriage =>
        have hhead : (carriage.spellPieces ps).head? ≠ some '\n' := by
          rw [ne_eq, head?_spellPieces]
          exact fun hq => hmeets _ hq (.inr ⟨rfl, rfl, rfl⟩)
        rw [tail, List.nil_append, unify_return, if_neg hhead]
      | pair => rfl
    · rw [spellPieces_cons hfeed, List.map_cons]
      by_cases hreturn : p.char = '\r'
      · have hp : p = ⟨'\r', true⟩ := by
          obtain ⟨c, b⟩ := p
          cases b <;> simp_all
        have hhead : ps.head? ≠ some ⟨'\n', false⟩ := fun hq => hmeets _ hq (.inl ⟨hp, rfl⟩)
        simp only [hreturn, unify_return, hrest, head?_spellPieces, head?_chars hhead]
      · rw [unify_of_ne hreturn, unify_of_ne hreturn, hrest]

/-- What is stripped of its layout depends on what is between the line ends. -/
theorem strip_congr (h : Line.unify r = Line.unify s) (column tabWidth : Int) :
    Dedent.strip r column tabWidth = Dedent.strip s column tabWidth := by
  have hcut : Line.cut r = Line.cut s := by
    rw [Dedent.cut_eq_splitOn_unify, Dedent.cut_eq_splitOn_unify, h]
  simp only [Dedent.strip, hcut]
  split
  · next hlen =>
    have hline {u : List Char} (hu : (Line.cut u).length = 1) : Line.unify u = u :=
      Dedent.unify_eq_self (Dedent.settled_of_one_line hu).noReturn
    have hlen' : (Line.cut r).length = 1 := by rw [hcut, hlen]
    rwa [hline hlen', hline hlen] at h
  · rfl

/-! #### Room -/

/-- Lines of two texts of which the first ones are the same and are followed by others or not, and
the others of both fit or not. -/
structure Alike (fit : List Char → Bool) (lines lines' : List (List Char)) : Prop where
  first : lines.head? = lines'.head?
  alone : lines.tail = [] ↔ lines'.tail = []
  others : (Dedent.trimEnds lines.tail).all fit = (Dedent.trimEnds lines'.tail).all fit

section Alike

variable {fit : List Char → Bool} {lines lines' lines'' : List (List Char)}

theorem Alike.refl (fit : List Char → Bool) (lines : List (List Char)) : Alike fit lines lines :=
  ⟨rfl, Iff.rfl, rfl⟩

theorem Alike.symm (h : Alike fit lines lines') : Alike fit lines' lines :=
  ⟨h.first.symm, h.alone.symm, h.others.symm⟩

theorem Alike.trans (h : Alike fit lines lines') (h' : Alike fit lines' lines'') :
    Alike fit lines lines'' :=
  ⟨h.first.trans h'.first, h.alone.trans h'.alone, h.others.trans h'.others⟩

theorem Alike.all (h : Alike fit lines lines') :
    (Dedent.trimEnds lines).all fit = (Dedent.trimEnds lines').all fit := by
  obtain ⟨hfirst, halone, hothers⟩ := h
  match lines, lines' with
  | [], [] => rfl
  | [], l' :: ms' => cases hfirst
  | l :: ms, [] => cases hfirst
  | l :: ms, l' :: ms' =>
    cases hfirst
    match ms, ms' with
    | [], [] => rfl
    | [], m' :: ms' => exact absurd (halone.1 rfl) (by simp)
    | m :: ms, [] => exact absurd (halone.2 rfl) (by simp)
    | m :: ms, m' :: ms' =>
      simp only [Dedent.trimEnds, List.all_cons]
      exact congrArg _ hothers

theorem Alike.cons {u v : List Char} (h : Alike fit (u.splitOn '\n') (v.splitOn '\n')) (c : Char) :
    Alike fit ((c :: u).splitOn '\n') ((c :: v).splitOn '\n') := by
  rw [List.splitOn_cons_eq_if_modifyHead, List.splitOn_cons_eq_if_modifyHead]
  split
  · exact ⟨rfl, by simp [List.splitOn_ne_nil], h.all⟩
  · exact ⟨by simp [h.first], by simpa using h.alone, by simpa using h.others⟩

/-- A carriage return counts for a line end of its own or for that which follows it, and an empty
line fits. -/
theorem alike_return (hfit : fit [] = true) (r : List Char) :
    Alike fit ((Line.unify ('\r' :: r)).splitOn '\n') (('\n' :: Line.unify r).splitOn '\n') := by
  rw [unify_return]
  split
  · next hfeed =>
    obtain ⟨t, ht⟩ : ∃ t, Line.unify r = '\n' :: t := by
      rw [← List.cons_head?_tail hfeed, unify_of_ne (by decide)]
      exact ⟨_, rfl⟩
    have hempty : Unicode.trimEnd [] = [] := rfl
    rw [ht, List.tail_cons]
    simp only [List.splitOn_cons_eq_if_modifyHead]
    refine ⟨rfl, by simp [List.splitOn_ne_nil], ?_⟩
    obtain ⟨l, ls, hlines⟩ := List.exists_cons_of_ne_nil (List.splitOn_ne_nil '\n' t)
    simp [hlines, Dedent.trimEnds, hempty, hfit]
  · exact .refl fit _

end Alike

theorem alike_spellPieces {fit : List Char → Bool} (hfit : fit [] = true) (e : LineEnd)
    (ps : List Piece) : Alike fit ((Line.unify (e.spellPieces ps)).splitOn '\n')
      ((Line.unify (ps.map Piece.char)).splitOn '\n') := by
  induction ps with
  | nil => exact .refl fit _
  | cons p ps ih =>
    by_cases hfeed : p = ⟨'\n', false⟩
    · subst hfeed
      have hright : Line.unify ('\n' :: ps.map Piece.char) =
          '\n' :: Line.unify (ps.map Piece.char) := unify_of_ne (by decide) _
      rw [spellPieces_feed, List.map_cons, hright]
      cases e with
      | carriage => exact (alike_return hfit _).trans (ih.cons '\n')
      | pair => exact ih.cons '\n'
    · rw [spellPieces_cons hfeed, List.map_cons]
      by_cases hreturn : p.char = '\r'
      · rw [hreturn]
        exact ((alike_return hfit _).trans (ih.cons '\n')).trans (alike_return hfit _).symm
      · rw [unify_of_ne hreturn, unify_of_ne hreturn]
        exact ih.cons p.char

/-- With other line ends there is as much room, whether they meet or not. -/
theorem allFit_spellPieces (e : LineEnd) (ps : List Piece) (column tabWidth : Int) :
    Dedent.allFit (e.spellPieces ps) column tabWidth =
      Dedent.allFit (ps.map Piece.char) column tabWidth := by
  have htail (lines : List (List Char)) :
      (Dedent.trimEnds lines).tail = Dedent.trimEnds lines.tail := by
    match lines with
    | [] => rfl
    | [l] => rfl
    | l :: m :: r => rfl
  have halike : Alike (Dedent.fits column tabWidth) _ _ := alike_spellPieces rfl e ps
  rw [Dedent.allFit, Dedent.allFit, htail, htail, Dedent.cut_eq_splitOn_unify,
    Dedent.cut_eq_splitOn_unify]
  exact halike.others

end LineEnd
/-! ### Pieces -/

namespace Shape

variable {e : LineEnd} {q : Option Char} {c : Char} {r : List Char}

def pieces (quote : Option Char) : List Char → List Piece
  | [] => []
  | c :: r =>
    if quote = some c then []
    else if c = '\\' && quote = some '"' then
      match r with
      | [] => []
      | e :: r =>
        match escaped? e with
        | some v => ⟨v, true⟩ :: pieces quote r
        | none => []
    else ⟨c, false⟩ :: pieces quote r

theorem pieces_quote (c : Char) (r : List Char) : pieces (some c) (c :: r) = [] := by
  rw [pieces.eq_def]
  simp

theorem pieces_escape {v w : Char} (hv : escaped? v = some w) (r : List Char) :
    pieces (some '"') ('\\' :: v :: r) = ⟨w, true⟩ :: pieces (some '"') r := by
  rw [pieces.eq_def]
  simp [hv]

theorem pieces_cons (hq : ¬ q = some c)
    (hb : ¬ (decide (c = '\\') && decide (q = some '"')) = true) (r : List Char) :
    pieces q (c :: r) = ⟨c, false⟩ :: pieces q r := by
  rw [pieces.eq_def]
  simp only [if_neg hq, if_neg hb]

theorem segment_cons (hq : ¬ q = some c)
    (hb : ¬ (decide (c = '\\') && decide (q = some '"')) = true) (r : List Char) :
    segment q (c :: r) = (segment q r).cons c 1 := by
  rw [segment.eq_def]
  simp only [if_neg hq, if_neg hb]

theorem value_segment (q : Option Char) (r : List Char) :
    (segment q r).value = (pieces q r).map Piece.char := by
  fun_induction segment q r with
  | case1 => rfl
  | case2 c r hq =>
    rw [hq, pieces_quote]
    rfl
  | case3 c hq hc => simp [pieces, hq, hc]
  | case4 c hq hc v r w hv ih =>
    simp only [Bool.and_eq_true, decide_eq_true_eq] at hc
    obtain ⟨rfl, rfl⟩ := hc
    rw [pieces_escape hv, List.map_cons, ← ih]
    rfl
  | case5 c hq hc e r hv => simp [pieces, hq, hc, hv]
  | case6 c r hq hc ih =>
    rw [pieces_cons hq hc, List.map_cons, ← ih]
    rfl

/-- Characters that stand for themselves are characters of the text. -/
theorem mem_of_mem_pieces (h : ⟨c, false⟩ ∈ pieces q r) : c ∈ r := by
  fun_induction pieces q r with
  | case1 => cases h
  | case2 => cases h
  | case3 => cases h
  | case4 d hq hc v r w hv ih => simp_all
  | case5 => cases h
  | case6 d r hq hc ih =>
    obtain heq | hmem := List.mem_cons.1 h
    · cases heq
      exact List.mem_cons_self
    · exact List.mem_cons_of_mem d (ih hmem)

/-- Escapes are written with a backslash. -/
theorem backslash_of_mem_pieces (h : ⟨c, true⟩ ∈ pieces q r) : '\\' ∈ r := by
  fun_induction pieces q r with
  | case1 => cases h
  | case2 => cases h
  | case3 => cases h
  | case4 d hq hc v r w hv ih =>
    simp only [Bool.and_eq_true, decide_eq_true_eq] at hc
    exact hc.1 ▸ List.mem_cons_self
  | case5 => cases h
  | case6 d r hq hc ih =>
    obtain heq | hmem := List.mem_cons.1 h
    · cases heq
    · exact List.mem_cons_of_mem d (ih hmem)

theorem segment_tail (hn : ¬ q = some '\n') (x : List Char) : segment q (e.tail ++ x) =
    ⟨e.tail ++ (segment q x).value, (segment q x).length + e.tail.length,
      (segment q x).ending⟩ := by
  cases e with
  | carriage => rfl
  | pair =>
    have hb : ¬ (decide ('\n' = '\\') && decide (q = some '"')) = true := by simp
    exact segment_cons hn hb x

/-- The value of a quoted string with other line ends. -/
theorem segment_spell (hn : ¬ q = some '\n') (hr : ¬ q = some '\r')
    (h : (segment q r).ending = .closed) :
    segment q (e.spell r) = ⟨e.spellPieces (pieces q r),
      (e.spell (r.take (segment q r).length)).length, .closed⟩ := by
  fun_induction segment q r with
  | case1 => cases h
  | case2 c r hq =>
    subst hq
    have hc : c ≠ '\n' := by rintro rfl; exact hn rfl
    rw [LineEnd.spell_cons hc, segment_quote, pieces_quote, List.take_succ_cons, List.take_zero,
      LineEnd.spell_cons hc]
    rfl
  | case3 => cases h
  | case4 c hq hc v r w hv ih =>
    simp only [Bool.and_eq_true, decide_eq_true_eq] at hc
    obtain ⟨rfl, rfl⟩ := hc
    have hfeed : v ≠ '\n' := by rintro rfl; cases hv
    have htake (n : Nat) : (e.spell (('\\' :: v :: r).take (n + 2))).length =
        (e.spell (r.take n)).length + 2 := by
      rw [List.take_succ_cons, List.take_succ_cons, LineEnd.spell_cons (by decide),
        LineEnd.spell_cons hfeed]
      rfl
    rw [LineEnd.spell_cons (by decide), LineEnd.spell_cons hfeed, Scan.segment_escape hv, ih h,
      pieces_escape hv, LineEnd.spellPieces_cons (by simp)]
    exact congrArg (Segment.mk _ · _) (htake _).symm
  | case5 => cases h
  | case6 c r hq hc ih =>
    by_cases hfeed : c = '\n'
    · subst hfeed
      have hb : ¬ (decide ('\r' = '\\') && decide (q = some '"')) = true := by simp
      have htake (n : Nat) : (e.spell (('\n' :: r).take (n + 1))).length =
          (e.spell (r.take n)).length + e.tail.length + 1 := by
        rw [List.take_succ_cons, LineEnd.spell_feed, List.length_cons, List.length_append]
        omega
      rw [LineEnd.spell_feed, segment_cons hr hb, segment_tail hn, ih h, pieces_cons hq hc,
        LineEnd.spellPieces_feed]
      exact congrArg (Segment.mk _ · _) (htake _).symm
    · have htake (n : Nat) : (e.spell ((c :: r).take (n + 1))).length =
          (e.spell (r.take n)).length + 1 := by
        rw [List.take_succ_cons, LineEnd.spell_cons hfeed]
        rfl
      rw [LineEnd.spell_cons hfeed, segment_cons hq hc, ih h, pieces_cons hq hc,
        LineEnd.spellPieces_cons (by simp [hfeed])]
      exact congrArg (Segment.mk _ · _) (htake _).symm

end Shape
/-! ### Strings in quotes -/

/-- The pieces of the string in quotes at a cursor. -/
def Cursor.pieces (c : Cursor) : List Piece :=
  Shape.pieces c.current? c.advance.rest

/-- The strings in quotes that are joined to what ends at a cursor have these pieces. -/
inductive Cursor.Joins : Cursor → List Piece → Prop
  | nil {c d : Cursor} (before : Scan.skipGaps c = .ok () d) (stop : d.rest.head? ≠ some '+') :
    Joins c []
  | cons {c d f g : Cursor} {r v : List Char} {ps : List Piece}
    (before : Scan.skipGaps c = .ok () d) (plus : d.rest = '+' :: r)
    (after : Scan.skipGaps d.advance = .ok () f) (quote : f.current?.any Shape.isQuote = true)
    (read : Scan.readSegment f = .ok v g) (others : Joins g ps) : Joins c (f.pieces ++ ps)

/-- The string in quotes at a cursor has these pieces, with those that are joined to it. -/
inductive Cursor.Quotes : Cursor → List Piece → Prop
  | mk {c d : Cursor} {v : List Char} {ps : List Piece}
    (quote : c.current?.any Shape.isQuote = true) (read : Scan.readSegment c = .ok v d)
    (others : d.Joins ps) : Quotes c (c.pieces ++ ps)

namespace Cursor

variable {c : Cursor} {ch : Char} {ps : List Piece}

theorem backslash_of_mem_pieces (h : ⟨ch, true⟩ ∈ c.pieces) : '\\' ∈ c.rest := by
  have hmem := Shape.backslash_of_mem_pieces h
  rw [advance_rest] at hmem
  exact List.mem_of_mem_tail hmem

theorem Joins.backslash (h : c.Joins ps) (hp : ⟨ch, true⟩ ∈ ps) : '\\' ∈ c.rest := by
  induction h with
  | nil => cases hp
  | @cons c d f g r v ps before plus after quote read others ih =>
    have hf : f.rest <:+ c.rest := by
      refine (Scan.suffix_of_skipGaps after).trans (.trans ?_ (Scan.suffix_of_skipGaps before))
      rw [advance_rest]
      exact List.tail_suffix d.rest
    obtain hp | hp := List.mem_append.1 hp
    · exact hf.subset (backslash_of_mem_pieces hp)
    · exact hf.subset ((Scan.suffix_of_readSegment read).subset (ih hp))

theorem Quotes.backslash (h : c.Quotes ps) (hp : ⟨ch, true⟩ ∈ ps) : '\\' ∈ c.rest := by
  obtain ⟨quote, read, others⟩ := h
  obtain hp | hp := List.mem_append.1 hp
  · exact backslash_of_mem_pieces hp
  · exact (Scan.suffix_of_readSegment read).subset (others.backslash hp)

end Cursor

namespace Scan

variable {e : LineEnd} {settings : ParserSettings} {o c c' d : Cursor} {v : List Char}

theorem exists_quote (h : c.current?.any Shape.isQuote = true) :
    ∃ ch, c.current? = some ch ∧ ch ≠ '\n' ∧ ch ≠ '\r' := by
  rw [Option.any_eq_true] at h
  obtain ⟨ch, hch, hquote⟩ := h
  refine ⟨ch, hch, ?_, ?_⟩
  all_goals
    rintro rfl
    cases hquote

theorem readSegment_respelled (h : Cursor.Respelled e o c c')
    (hquote : c.current?.any Shape.isQuote = true) (hs : readSegment c = .ok v d) :
    v = c.pieces.map Piece.char ∧ ⟨'\r', false⟩ ∉ c.pieces ∧
      ∃ d', readSegment c' = .ok (e.spellPieces c.pieces) d' ∧ Cursor.Respelled e o d d' := by
  obtain ⟨ch, hch, hn, hr⟩ := exists_quote hquote
  have hch' : c'.current? = some ch := (h.head? hn hr).2 hch
  have hadvance := h.next hch hn
  unfold readSegment at hs
  simp only at hs
  split at hs
  · next hclosed =>
    cases hs
    refine ⟨Shape.value_segment _ _, fun hm => hadvance.clean (Shape.mem_of_mem_pieces hm), ?_⟩
    have hspell := Shape.segment_spell (e := e) (by simpa [hch] using hn) (by simpa [hch] using hr)
      hclosed
    refine ⟨_, ?_, hadvance.past (c.advance.past_advanceBy _)⟩
    unfold readSegment
    simp only [hch', hadvance.rest]
    rw [← hch, hspell]
    rfl
  · cases hs
  · cases hs

theorem readJoined_respelled (h : Cursor.Respelled e o c c') (hs : readJoined c = .ok v d) :
    ∃ ps d', c.Joins ps ∧ ⟨'\r', false⟩ ∉ ps ∧ v = ps.map Piece.char ∧
      readJoined c' = .ok (e.spellPieces ps) d' ∧ Cursor.Respelled e o d d' := by
  fun_induction readJoined c generalizing v c' with
  | case5 c _ d₁ h₁ r hplus _ f h₂ hquote s g h₃ w d₂ hk ih =>
    cases hs
    obtain ⟨d₁', h₁', hd₁⟩ := skipGaps_respelled h h₁
    have hplus' : d₁'.rest = '+' :: e.spell r := by
      rw [hd₁.rest, hplus, LineEnd.spell_cons (by decide)]
    have hadvance := hd₁.next (by rw [Cursor.current?, hplus, List.head?_cons]) (by decide)
    obtain ⟨f', h₂', hf⟩ := skipGaps_respelled hadvance h₂
    obtain ⟨rfl, hclean, g', h₃', hg⟩ := readSegment_respelled hf hquote h₃
    obtain ⟨ps, d', hjoins, hclean', rfl, hk', hd'⟩ := ih hg hk
    have hquote' : f'.current?.any Shape.isQuote = true := by rwa [hf.any_head? rfl]
    refine ⟨_, d', .cons h₁ hplus h₂ hquote h₃ hjoins, by simp [hclean, hclean'], by simp, ?_, hd'⟩
    rw [LineEnd.spellPieces_append]
    exact readJoined_of_plus h₁' hplus' h₂' hquote' h₃' hk'
  | case7 c _ d₁ h₁ hplus =>
    cases hs
    obtain ⟨d₁', h₁', hd₁⟩ := skipGaps_respelled h h₁
    have hstop : d₁.rest.head? ≠ some '+' :=
      fun hhead => hplus _ (List.cons_head?_tail hhead).symm
    refine ⟨[], c', .nil h₁ hstop, List.not_mem_nil, rfl, readJoined_of_end h₁' ?_, h⟩
    rwa [hd₁.rest, ne_eq, LineEnd.head?_spell (by decide) (by decide)]
  | case1 => cases hs
  | case2 => cases hs
  | case3 => cases hs
  | case4 => cases hs
  | case6 => cases hs

/-- The strings in quotes at a cursor have an escaped line break that meets a line end. They are
read as one value, and as another one with other line ends. -/
def Differs (settings : ParserSettings) (e : LineEnd) (c : Cursor) (a a' : Option String) : Prop :=
  ∃ ps v v', c.Quotes ps ∧ e.Fuses ps ∧
    Dedent.strip? (ps.map Piece.char) c.position.column settings.tabWidth = some v ∧
    a = some (String.ofList v) ∧
    Dedent.strip? (e.spellPieces ps) c.position.column settings.tabWidth = some v' ∧
    a' = some (String.ofList v')

theorem readQuoted_respelled (h : Cursor.Respelled e o c c')
    (hquote : c.current?.any Shape.isQuote = true) (hs : readQuoted c = .ok v d) :
    ∃ ps d', c.Quotes ps ∧ ⟨'\r', false⟩ ∉ ps ∧ v = ps.map Piece.char ∧
      readQuoted c' = .ok (e.spellPieces ps) d' ∧ Cursor.Respelled e o d d' := by
  unfold readQuoted at hs
  split at hs
  · cases hs
  · next first f h₁ =>
    split at hs
    · cases hs
    · next h₂ =>
      cases hs
      obtain ⟨rfl, hclean, f', h₁', hf⟩ := readSegment_respelled h hquote h₁
      obtain ⟨ps, d', hjoins, hclean', rfl, h₂', hd⟩ := readJoined_respelled hf h₂
      refine ⟨_, d', .mk hquote h₁ hjoins, by simp [hclean, hclean'], by simp, ?_, hd⟩
      rw [LineEnd.spellPieces_append]
      simp only [readQuoted, h₁', h₂']

theorem feed_notMem_wordTail (r : List Char) : '\n' ∉ Shape.wordTail r := by
  induction r with
  | nil => exact List.not_mem_nil
  | cons ch r ih =>
    rw [Shape.wordTail]
    split
    · exact List.not_mem_nil
    · next hend =>
      rw [List.mem_cons, not_or]
      refine ⟨?_, ih⟩
      rintro rfl
      exact hend (Shape.atWordEnd_of_space rfl r)

theorem readWord_respelled (h : Cursor.Respelled e o c c')
    (hword : Shape.atWordEnd c.rest = false) (hs : readWord c = .ok v d) :
    ∃ d', readWord c' = .ok v d' ∧ Cursor.Respelled e o d d' := by
  obtain ⟨ch, r, hrest⟩ : ∃ ch r, c.rest = ch :: r := by
    cases hc : c.rest with
    | nil =>
      rw [hc] at hword
      cases hword
    | cons ch r => exact ⟨ch, r, rfl⟩
  have hn : ch ≠ '\n' := by
    rintro rfl
    rw [hrest, Shape.atWordEnd_of_space rfl] at hword
    cases hword
  have hpast := past_of_readWord (by rw [Cursor.current?, hrest, List.head?_cons]) hs
  have hself : e.spell (ch :: Shape.wordTail c.rest.tail) = ch :: Shape.wordTail c.rest.tail := by
    rw [LineEnd.spell_cons hn, LineEnd.spell_eq_self (feed_notMem_wordTail _)]
  have hsame : Shape.word c'.rest = Shape.word c.rest := by
    rw [h.rest, hrest, LineEnd.spell_cons hn, Shape.word, Shape.wordTail_spell, Shape.word]
  have hd := h.past hpast
  rw [hself] at hd
  refine ⟨_, ?_, hd⟩
  unfold readWord at hs ⊢
  simp only [bind_apply, get_apply, forward_apply, pure_apply, hsame] at hs ⊢
  cases hs
  rw [hrest]
  rfl

/-- The same string is read with other line ends. -/
theorem readString?_respelled {a : Option String} (h : Cursor.Respelled e o c c')
    (hs : readString? settings c = .ok a d) :
    ∃ a' d', readString? settings c' = .ok a' d' ∧ Cursor.Respelled e o d d' ∧
      (a' = a ∨ Differs settings e c a a') := by
  have hquote' := h.any_head? (p := Shape.isQuote) rfl
  have hend' : Shape.atWordEnd c'.rest = Shape.atWordEnd c.rest := by
    rw [h.rest, Shape.atWordEnd_spell]
  unfold readString? at hs ⊢
  simp only [bind_apply, get_apply, ite_apply, pure_apply, hquote', hend'] at hs ⊢
  split at hs
  · next hquote =>
    rw [if_pos hquote]
    split at hs
    · next hv =>
      obtain ⟨ps, d', hquotes, hclean, rfl, hv', hd⟩ := readQuoted_respelled h hquote hv
      split at hs
      · next hlayout =>
        cases hs
        obtain ⟨hstrip, rfl⟩ := withoutLayout_eq_ok.1 hlayout
        have hfit := (Dedent.strip?_eq_some.1 hstrip).1
        rw [← LineEnd.allFit_spellPieces e] at hfit
        have hstrip' := Dedent.strip?_of_allFit hfit
        have hlayout' := withoutLayout_eq_ok (c := d').2
          ⟨by rw [hstrip', String.toList_ofList], rfl⟩
        simp only [hv', h.position, hlayout']
        refine ⟨_, d', rfl, hd, ?_⟩
        by_cases hfuses : e.Fuses ps
        · exact .inr ⟨ps, _, _, hquotes, hfuses, hstrip, by rw [String.ofList_toList], hstrip', rfl⟩
        · left
          rw [LineEnd.strip_congr (LineEnd.unify_spellPieces hclean hfuses),
            (Dedent.strip?_eq_some.1 hstrip).2, String.ofList_toList]
      · cases hs
    · cases hs
  · next hquote =>
    rw [if_neg hquote]
    split at hs
    · next hword =>
      cases hs
      rw [if_pos hword]
      exact ⟨none, c', rfl, h, .inl rfl⟩
    · next hword =>
      rw [if_neg hword]
      split at hs
      · next hv =>
        obtain ⟨d', hv', hd⟩ := readWord_respelled h (by simpa using hword) hv
        split at hs
        · next hlayout =>
          cases hs
          obtain ⟨hstrip, rfl⟩ := withoutLayout_eq_ok.1 hlayout
          have hlayout' := withoutLayout_eq_ok (c := d').2 ⟨hstrip, rfl⟩
          simp only [hv', h.position, hlayout']
          exact ⟨_, d', rfl, hd, .inl rfl⟩
        · cases hs
      · cases hs

end Scan
end YangSchema
