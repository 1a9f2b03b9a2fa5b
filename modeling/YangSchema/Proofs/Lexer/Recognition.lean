import YangSchema.Proofs.Lexer.Outcome
import YangSchema.Proofs.Lexer.Room
import YangSchema.Statement.Printer

/-!
# Reading what was written

What the readings give on a text of a known shape: white space before something else, a name before
something else, an argument in quotes that were opened at the column it was written for.
-/
namespace YangSchema

namespace Cursor

variable {c : Cursor} {l r : List Char}

theorem advanceBy_add (c : Cursor) (m n : Nat) :
    c.advanceBy (m + n) = (c.advanceBy m).advanceBy n := by
  induction m generalizing c with
  | zero => rw [Nat.zero_add, advanceBy]
  | succ m ih => rw [Nat.add_right_comm, advanceBy, advanceBy, ih]

theorem rest_advanceBy_length (h : c.rest = l ++ r) : (c.advanceBy l.length).rest = r := by
  rw [advanceBy_rest, h, List.drop_left]

/-- Within a line each character is one column. -/
theorem column_advanceBy (h : c.rest = l ++ r) (hl : ∀ ch ∈ l, ch ≠ '\n' ∧ ch ≠ '\r') :
    (c.advanceBy l.length).position.column = c.position.column + l.length := by
  induction l generalizing c with
  | nil => simp [advanceBy]
  | cons ch l ih =>
    obtain ⟨hn, hr⟩ := hl ch (List.mem_cons_self ..)
    have hrest : c.advance.rest = l ++ r := by simp [h]
    have hcol : c.advance.position.column = c.position.column + 1 := by
      simp [advance, h, positionAfter, endsLine, hn, hr]
    rw [List.length_cons, advanceBy, ih hrest fun x hx => hl x (List.mem_cons_of_mem ch hx), hcol]
    push_cast
    omega

theorem column_advance_of_feed (h : c.rest = '\n' :: r) : c.advance.position.column = 1 := by
  simp [advance, h, positionAfter, endsLine]

end Cursor

namespace Position

def endsLineAt (text : List Char) (i : Nat) : Bool :=
  text[i]?.any fun ch => Cursor.endsLine ch (text.drop (i + 1))

def lineEnds (text : List Char) (p : Nat) : List Nat :=
  (List.range p).filter (endsLineAt text)

def lineStart (text : List Char) (p : Nat) : Nat :=
  (lineEnds text p).getLast?.elim 0 (· + 1)

def ofOffset (text : List Char) (p : Nat) : Position :=
  ⟨1 + (lineEnds text p).length, 1 + (p - lineStart text p)⟩

theorem lineEnds_succ (text : List Char) (p : Nat) :
    lineEnds text (p + 1) = lineEnds text p ++ bif endsLineAt text p then [p] else [] := by
  rw [lineEnds, List.range_succ, List.filter_append, List.filter_singleton]
  rfl

theorem ofOffset_succ {text r : List Char} {p : Nat} {ch : Char} (h : text.drop p = ch :: r) :
    ofOffset text (p + 1) = Cursor.positionAfter (ofOffset text p) ch r := by
  have hget : text[p]? = some ch := by rw [← List.head?_drop, h]; rfl
  have hrest : text.drop (p + 1) = r := by rw [← List.tail_drop, h]; rfl
  have hends : endsLineAt text p = Cursor.endsLine ch r := by rw [endsLineAt, hget, hrest]; rfl
  rw [Cursor.positionAfter, ofOffset, lineStart, lineEnds_succ, hends]
  cases Cursor.endsLine ch r with
  | true =>
    simp [ofOffset]
    omega
  | false =>
    simp [ofOffset, lineStart]
    omega

/-- A cursor that has come so far stands at the place of the offset. -/
theorem ofOffset_eq {text : String} {p : Nat} (hp : p ≤ text.toList.length) :
    ((Cursor.ofText text).advanceBy p).position = ofOffset text.toList p := by
  induction p with
  | zero => rfl
  | succ p ih =>
    have hdrop := List.drop_eq_getElem_cons (Nat.lt_of_succ_le hp)
    have hrest : ((Cursor.ofText text).advanceBy p).rest = _ :: _ :=
      (Cursor.advanceBy_rest _ p).trans hdrop
    rw [Cursor.advanceBy_add, Cursor.advanceBy, Cursor.advanceBy, Cursor.advance, hrest]
    simp only
    rw [ih (Nat.le_of_succ_le hp), ofOffset_succ hdrop]

end Position

namespace Scan

variable {c : Cursor} {l r : List Char}

theorem skipGaps_of_spaces (h : c.rest = l ++ r) (hl : ∀ ch ∈ l, Shape.isSpace ch = true)
    (hr : Shape.gap r = .none) : skipGaps c = .ok () (c.advanceBy l.length) := by
  induction l generalizing c with
  | nil =>
    rw [List.nil_append] at h
    rw [skipGaps]
    split
    · rfl
    · simp_all
    · simp_all
  | cons ch l ih =>
    have hgap : Shape.gap c.rest = .skip 1 := by
      rw [h, List.cons_append, Shape.gap, if_pos (hl ch (List.mem_cons_self ..))]
    have hrest : (c.advanceBy 1).rest = l ++ r := by simp [h]
    have htail := ih hrest fun x hx => hl x (List.mem_cons_of_mem ch hx)
    rw [skipGaps]
    split
    · simp_all
    · next n hn =>
      obtain rfl : n = 1 := by simpa [hgap] using hn.symm
      rw [htail]
      rfl
    · simp_all

theorem skipSpace_of_spaces (h : c.rest = l ++ r) (hl : ∀ ch ∈ l, Shape.isSpace ch = true)
    (hr : Shape.gap r = .none) : skipSpace c = .ok (!l.isEmpty) (c.advanceBy l.length) := by
  have hlen : c.offset < (c.advanceBy l.length).offset ↔ l.isEmpty = false := by
    rw [offset_advanceBy, h, List.isEmpty_eq_false_iff, ← List.length_pos_iff, List.length_append]
    omega
  simp only [skipSpace, skipGaps_of_spaces h hl hr, hlen]
  cases l <;> rfl

structure IsName (policy : IdentifierPolicy) (name : List Char) : Prop where
  start : name.head?.any (Shape.mayStart policy) = true
  chars : ∀ ch ∈ name, Shape.isIdentifierChar ch = true
  free : Shape.isReserved policy name = false

variable {policy : IdentifierPolicy} {name : List Char}

theorem IsName.ne_nil (h : IsName policy name) : name ≠ [] := by
  rintro rfl
  simpa using h.start

theorem isName_of_readIdentifier {d : Cursor} {name : String}
    (h : readIdentifier policy c = .ok name d) : IsName policy name.toList := by
  unfold readIdentifier at h
  simp only [bind_eq_ok, get_eq_ok] at h
  obtain ⟨_, _, ⟨rfl, rfl⟩, h⟩ := h
  split at h
  · next hs =>
    simp only [bind_eq_ok, forward_eq_ok] at h
    obtain ⟨_, _, rfl, h⟩ := h
    split at h
    · exact absurd h failAt_ne_ok
    · next hfree =>
      rw [pure_eq_ok] at h
      obtain ⟨rfl, _⟩ := h
      rw [String.toList_ofList]
      refine ⟨?_, fun ch hc => List.mem_takeWhile_imp hc, by simpa using hfree⟩
      cases hr : c.rest with
      | nil => simp [Cursor.current?, hr] at hs
      | cons ch r =>
        simp only [Cursor.current?, hr, List.head?_cons, Option.any_some] at hs
        rw [List.takeWhile_cons_of_pos (isIdentifierChar_of_mayStart hs)]
        simpa using hs
  · exact absurd h fail_ne_ok

theorem takeWhile_name (hn : IsName policy name)
    (hr : r.head?.any Shape.isIdentifierChar = false) :
    (name ++ r).takeWhile Shape.isIdentifierChar = name := by
  rw [List.takeWhile_append_of_pos hn.chars]
  cases r with
  | nil => simp
  | cons ch r => simpa using hr

theorem readIdentifier_name (h : c.rest = name ++ r) (hn : IsName policy name)
    (hr : r.head?.any Shape.isIdentifierChar = false) :
    readIdentifier policy c = .ok (String.ofList name) (c.advanceBy name.length) := by
  have hcur : c.current?.any (Shape.mayStart policy) = true := by
    have hs := hn.start
    rw [Cursor.current?, h]
    cases name with
    | nil => simp at hs
    | cons ch l => exact hs
  have htake : c.rest.takeWhile Shape.isIdentifierChar = name := by rw [h, takeWhile_name hn hr]
  simp only [readIdentifier, bind_apply, get_apply, ite_apply, hcur, if_true, htake,
    forward_apply, hn.free, Bool.false_eq_true, if_false, pure_apply]

/-- An argument was stripped of its layout, in quotes or not. -/
theorem settled_of_readString? {settings : ParserSettings} {d : Cursor} {value : String}
    (h : readString? settings c = .ok (some value) d) : Dedent.Settled value.toList := by
  unfold readString? at h
  simp only [bind_eq_ok, get_eq_ok] at h
  obtain ⟨_, _, ⟨rfl, rfl⟩, h⟩ := h
  split at h
  · simp only [bind_eq_ok, pure_eq_ok, Option.some.injEq] at h
    obtain ⟨_, _, _, _, _, hv, rfl, _⟩ := h
    exact Dedent.settled_of_strip? (withoutLayout_eq_ok.1 hv).1
  · split at h
    · rw [pure_eq_ok] at h
      exact absurd h.1 (by simp)
    · simp only [bind_eq_ok, pure_eq_ok, Option.some.injEq] at h
      obtain ⟨_, _, _, _, _, hv, rfl, _⟩ := h
      exact Dedent.settled_of_strip? (withoutLayout_eq_ok.1 hv).1

theorem segment_plain {ch : Char} (hq : ch ≠ '"') (hb : ch ≠ '\\') (r : List Char) :
    Shape.segment (some '"') (ch :: r) = (Shape.segment (some '"') r).cons ch 1 := by
  rw [Shape.segment.eq_def]
  simp [hq.symm, hb]

theorem segment_escape {e ch : Char} (h : Shape.escaped? e = some ch) (r : List Char) :
    Shape.segment (some '"') ('\\' :: e :: r) = (Shape.segment (some '"') r).cons ch 2 := by
  rw [Shape.segment.eq_def]
  simp [h]

theorem segment_close (r : List Char) : Shape.segment (some '"') ('"' :: r) = ⟨[], 1, .closed⟩ := by
  rw [Shape.segment.eq_def]
  simp

theorem segment_replicate_append (n : Nat) (r : List Char) :
    Shape.segment (some '"') (List.replicate n ' ' ++ r) =
      ⟨List.replicate n ' ' ++ (Shape.segment (some '"') r).value,
        (Shape.segment (some '"') r).length + n, (Shape.segment (some '"') r).ending⟩ := by
  induction n with
  | zero => rfl
  | succ n ih =>
    rw [List.replicate_succ, List.cons_append, segment_plain (by decide) (by decide), ih]
    rfl

/-- An escaped character stands for itself, a line feed for its padded form. -/
theorem segment_escapeChar (n : Nat) (ch : Char) (r : List Char) :
    Shape.segment (some '"') (StatementText.escapeChar n ch ++ r) =
      ⟨Dedent.pad n [ch] ++ (Shape.segment (some '"') r).value,
        (Shape.segment (some '"') r).length + (StatementText.escapeChar n ch).length,
        (Shape.segment (some '"') r).ending⟩ := by
  unfold StatementText.escapeChar
  split
  · rw [List.cons_append, List.cons_append, segment_escape rfl, Int.toNat_natCast,
      segment_replicate_append]
    simp [Shape.Segment.cons, Dedent.pad]
    omega
  · rw [List.cons_append, List.cons_append, segment_escape rfl]
    rfl
  · rw [List.cons_append, List.cons_append, segment_escape rfl]
    rfl
  · rw [List.cons_append, List.cons_append, segment_escape rfl]
    rfl
  · rw [List.cons_append, List.cons_append, segment_escape rfl]
    rfl
  · next hn hb hq _ _ =>
    have hpad : Dedent.pad n [ch] = [ch] := by simp [Dedent.pad, if_neg hn]
    rw [List.cons_append, segment_plain hq hb, hpad]
    rfl

theorem segment_quoted (n : Nat) (value r : List Char) :
    Shape.segment (some '"') (value.flatMap (StatementText.escapeChar n) ++ '"' :: r) =
      ⟨Dedent.pad n value, (value.flatMap (StatementText.escapeChar n)).length + 1, .closed⟩ := by
  induction value with
  | nil => exact segment_close r
  | cons ch value ih =>
    rw [List.flatMap_cons, List.append_assoc, segment_escapeChar, ih]
    simp only [Dedent.pad, List.flatMap_cons, List.flatMap_nil, List.append_nil, List.length_append]
    congr 1
    omega

/-- What ends a header: white space and then a semicolon or an opening brace. -/
theorem gap_terminator {m : Char} (hm : m = ';' ∨ m = '\x7b') (s : List Char) :
    Shape.gap (m :: s) = .none := by
  obtain rfl | rfl := hm <;> rfl

variable {m : Char} {s : List Char}

theorem readJoined_of_terminator (h : c.rest = l ++ m :: s)
    (hl : ∀ ch ∈ l, Shape.isSpace ch = true) (hm : m = ';' ∨ m = '\x7b') :
    readJoined c = .ok [] c := by
  have hgaps := skipGaps_of_spaces h hl (gap_terminator hm s)
  have hafter := Cursor.rest_advanceBy_length h
  rw [readJoined]
  split
  · simp_all
  · next d hd =>
    obtain rfl : c.advanceBy l.length = d := by simpa [hgaps] using hd
    split
    · next hp =>
      rw [hafter] at hp
      simp_all
    · rfl

/-- No string starts at what ends a header. -/
theorem readString?_terminator (settings : ParserSettings) (h : c.rest = m :: s)
    (hm : m = ';' ∨ m = '\x7b') : readString? settings c = .ok none c := by
  have hcur : c.current?.any Shape.isQuote = false := by
    rw [Cursor.current?, h]
    obtain rfl | rfl := hm <;> rfl
  have hend : Shape.atWordEnd c.rest = true := by
    rw [h]
    obtain rfl | rfl := hm <;> rfl
  simp only [readString?, bind_apply, get_apply, ite_apply, hcur, hend, Bool.false_eq_true,
    if_false, if_true, pure_apply]

theorem readSegment_quote {value : List Char} {n : Nat}
    (h : c.rest = StatementText.quote value n ++ r) :
    readSegment c =
      .ok (Dedent.pad n value) (c.advanceBy (StatementText.quote value n).length) := by
  have hcur : c.current? = some '"' := by rw [Cursor.current?, h]; rfl
  have hseg : Shape.segment c.current? c.advance.rest =
      ⟨Dedent.pad n value, (value.flatMap (StatementText.escapeChar n)).length + 1, .closed⟩ := by
    rw [hcur, Cursor.advance_rest, h, ← segment_quoted n value r]
    simp [StatementText.quote]
  have hlen : (StatementText.quote value n).length =
      (value.flatMap (StatementText.escapeChar n)).length + 1 + 1 := by
    simp [StatementText.quote]
  rw [hlen, Cursor.advanceBy]
  simp only [readSegment, hseg]

theorem map_withoutLayout_apply (settings : ParserSettings) (p : Position) (value : List Char)
    (c : Cursor) : (some <$> withoutLayout settings p value) c =
      match Dedent.strip? value p.column settings.tabWidth with
      | some text => .ok (some (String.ofList text)) c
      | none => .error ⟨.tooWide, c.position⟩ c := by
  unfold withoutLayout
  cases Dedent.strip? value p.column settings.tabWidth <;> rfl

/-- An argument in quotes is read as its padded form without the layout. -/
theorem readString?_padded (settings : ParserSettings) {value : List Char} {n : Nat}
    (h : c.rest = StatementText.quote value n ++ (l ++ m :: s))
    (hl : ∀ ch ∈ l, Shape.isSpace ch = true) (hm : m = ';' ∨ m = '\x7b') :
    readString? settings c =
      (some <$> withoutLayout settings c.position (Dedent.pad n value))
        (c.advanceBy (StatementText.quote value n).length) := by
  have hcur : c.current? = some '"' := by rw [Cursor.current?, h]; rfl
  have hquoted : readQuoted c =
      .ok (Dedent.pad n value) (c.advanceBy (StatementText.quote value n).length) := by
    rw [readQuoted, readSegment_quote h]
    simp only [readJoined_of_terminator (Cursor.rest_advanceBy_length h) hl hm, List.append_nil]
  simp only [readString?, bind_apply, get_apply, ite_apply, hcur, Option.any_some,
    show Shape.isQuote '"' = true from rfl, if_true, hquoted, pure_apply, map_apply]

/-- An argument that was quoted for the column at which the quote stands is read back. -/
theorem readString?_quote (settings : ParserSettings) {value : String} {n : Nat}
    (h : c.rest = StatementText.quote value.toList n ++ (l ++ m :: s))
    (hl : ∀ ch ∈ l, Shape.isSpace ch = true) (hm : m = ';' ∨ m = '\x7b')
    (hc : c.position.column = n) (hv : Dedent.Settled value.toList) :
    readString? settings c =
      .ok (some value) (c.advanceBy (StatementText.quote value.toList n).length) := by
  have hstrip := Dedent.strip?_pad n settings.tabWidth hv
  rw [← hc] at hstrip
  rw [readString?_padded settings h hl hm, map_apply, withoutLayout_eq_ok.2 ⟨hstrip, rfl⟩]

end Scan

end YangSchema
