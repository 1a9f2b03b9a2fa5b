import YangSchema.Proofs.Lexer.StringContinuation

/-!
# Spellings of strings

A string can be split into parts that are joined by plus signs, each in quotes of either kind, with
escapes or without them, and with white space and comments around the signs. All of this denotes the
text of the parts together, and the layout is stripped from this text alone.
-/
namespace YangSchema

namespace Spelling

def escapes : List (Char × Char) :=
  [('\\', '\\'), ('"', '"'), ('n', '\n'), ('r', '\r'), ('t', '\t')]

/-- A value and a text for it between double quotes: each character as it is, unless it is the quote
or the backslash, or as an escape. -/
inductive Escaped : List Char → List Char → Prop
  | nil : Escaped [] []
  | plain {ch : Char} {value text : List Char} (hquote : ch ≠ '"') (hbackslash : ch ≠ '\\')
      (h : Escaped value text) : Escaped (ch :: value) (ch :: text)
  | escape {e ch : Char} {value text : List Char} (he : (e, ch) ∈ escapes)
      (h : Escaped value text) : Escaped (ch :: value) ('\\' :: e :: text)

inductive Quoted : List Char → List Char → Prop
  | single {value : List Char} (h : '\'' ∉ value) : Quoted value ('\'' :: (value ++ ['\'']))
  | double {value text : List Char} (h : Escaped value text) :
      Quoted value ('"' :: (text ++ ['"']))

/-- White space and comments, each of them closed. -/
inductive Filler : List Char → Prop
  | nil : Filler []
  | space {ch : Char} {text : List Char} (hch : ch ∈ [' ', '\t', '\r', '\n']) (h : Filler text) :
      Filler (ch :: text)
  | block {body text : List Char} (hbody : ¬ ['*', '/'] <:+: body) (h : Filler text) :
      Filler ('/' :: '*' :: (body ++ ['*', '/']) ++ text)
  | line {stop : Char} {body text : List Char}
      (hbody : ∀ ch ∈ body, ch ≠ '\n' ∧ ch ≠ '\r')
      (hstop : stop = '\n' ∨ stop = '\r') (h : Filler text) :
      Filler ('/' :: '/' :: (body ++ [stop]) ++ text)

/-- Values and a text for all of them together, each in quotes, with plus signs in between. -/
inductive Literal : List (List Char) → List Char → Prop
  | one {value text : List Char} (h : Quoted value text) : Literal [value] text
  | join {value text before after others : List Char} {values : List (List Char)}
      (h : Quoted value text) (hbefore : Filler before) (hafter : Filler after)
      (hothers : Literal values others) :
      Literal (value :: values) (text ++ (before ++ '+' :: (after ++ others)))

end Spelling

open Spelling

/-- A literal for the values goes from the first cursor to the second one, from where filler leads
to what ends a header. -/
structure Cursor.Spells (c : Cursor) (values : List (List Char)) (d : Cursor) : Prop where
  literal : ∃ text, Literal values text ∧ c.Past text d
  ends : ∃ filler mark r, Filler filler ∧ (mark = ';' ∨ mark = '\x7b') ∧
    d.rest = filler ++ mark :: r

theorem Cursor.Past.split {c d : Cursor} {t u : List Char} (h : c.Past (t ++ u) d) :
    c.Past t (c.advanceBy t.length) ∧ (c.advanceBy t.length).Past u d := by
  have hrest : c.rest = t ++ (u ++ d.rest) := by rw [h.rest, List.append_assoc]
  refine ⟨past_of_rest hrest, rest_advanceBy_length hrest, ?_⟩
  rw [h.stop, List.length_append, advanceBy_add]

namespace Shape

variable {body : List Char}

/-- A block comment ends with its first closing mark. -/
theorem closer?_of_not_isInfix (h : ¬ ['*', '/'] <:+: body) (r : List Char) :
    closer? (body ++ '*' :: '/' :: r) = some body.length := by
  induction body with
  | nil => rfl
  | cons ch body ih =>
    have hbody : ¬ ['*', '/'] <:+: body :=
      fun hb => h (hb.trans (List.suffix_cons ch body).isInfix)
    rw [List.cons_append, closer?_cons, ih hbody, if_neg]
    · rfl
    · rintro ⟨rfl, hhead⟩
      cases body with
      | nil => cases hhead
      | cons e body =>
        cases hhead
        exact h (List.prefix_append ['*', '/'] body).isInfix

theorem gap_block_of_not_isInfix (h : ¬ ['*', '/'] <:+: body) (r : List Char) :
    gap ('/' :: '*' :: (body ++ ['*', '/']) ++ r) =
      .skip ('/' :: '*' :: (body ++ ['*', '/'])).length := by
  have hclose := closer?_of_not_isInfix h r
  simp [gap_block, hclose]

theorem gap_line_of_stop {stop : Char} (hbody : ∀ ch ∈ body, ch ≠ '\n' ∧ ch ≠ '\r')
    (hstop : stop = '\n' ∨ stop = '\r') (r : List Char) :
    gap ('/' :: '/' :: (body ++ [stop]) ++ r) = .skip ('/' :: '/' :: (body ++ [stop])).length := by
  have hline : ∀ ch ∈ '/' :: '/' :: body, ch ≠ '\n' ∧ ch ≠ '\r' := by
    simpa using hbody
  have hlen := lineCommentLength_append hline hstop r
  have htext : '/' :: '/' :: (body ++ [stop]) ++ r = '/' :: '/' :: body ++ stop :: r := by simp
  rw [htext]
  change Gap.skip (lineCommentLength ('/' :: '/' :: body ++ stop :: r)) = _
  rw [hlen]
  simp

end Shape

namespace Scan

variable {c d : Cursor} {settings : ParserSettings} {value text filler : List Char}
  {values : List (List Char)}

/-- A piece of filler is skipped, and then what comes behind it. -/
theorem skipGaps_of_piece {t u : List Char} (hgap : ∀ r, Shape.gap (t ++ r) = .skip t.length)
    (h : c.Past (t ++ u) d) (hu : (c.advanceBy t.length).Past u d →
      skipGaps (c.advanceBy t.length) = .ok () d) : skipGaps c = .ok () d := by
  obtain ⟨hpiece, hbehind⟩ := h.split
  rw [skipGaps_of_skip (hpiece.rest ▸ hgap _)]
  exact hu hbehind

theorem skipGaps_of_filler (hf : Filler filler) (h : c.Past filler d)
    (hd : Shape.gap d.rest = .none) : skipGaps c = .ok () d := by
  induction hf generalizing c with
  | nil =>
    obtain rfl : d = c := h.stop
    exact skipGaps_of_none hd
  | @space ch text hch _ ih =>
    have hspace : Shape.isSpace ch = true := by simpa [Shape.isSpace, or_assoc] using hch
    exact skipGaps_of_piece (t := [ch]) (Shape.gap_space hspace) h ih
  | block hbody _ ih => exact skipGaps_of_piece (Shape.gap_block_of_not_isInfix hbody) h ih
  | line hbody hstop _ ih => exact skipGaps_of_piece (Shape.gap_line_of_stop hbody hstop) h ih

theorem segment_of_escaped (h : Escaped value text) (r : List Char) :
    Shape.segment (some '"') (text ++ '"' :: r) = ⟨value, text.length + 1, .closed⟩ := by
  induction h with
  | nil => exact segment_close r
  | plain hquote hbackslash _ ih =>
    rw [List.cons_append, segment_plain hquote hbackslash, ih]
    rfl
  | @escape e ch value text he _ ih =>
    have hescaped : Shape.escaped? e = some ch := by
      simp only [escapes, List.mem_cons, Prod.mk.injEq, List.not_mem_nil, or_false] at he
      rcases he with ⟨rfl, rfl⟩ | ⟨rfl, rfl⟩ | ⟨rfl, rfl⟩ | ⟨rfl, rfl⟩ | ⟨rfl, rfl⟩ <;> rfl
    rw [List.cons_append, List.cons_append, segment_escape hescaped, ih]
    rfl

theorem segment_of_notMem (h : '\'' ∉ value) (r : List Char) :
    Shape.segment (some '\'') (value ++ '\'' :: r) = ⟨value, value.length + 1, .closed⟩ := by
  induction value with
  | nil => rw [List.nil_append, Shape.segment_quote]; rfl
  | cons ch value ih =>
    obtain ⟨hch, hvalue⟩ : '\'' ≠ ch ∧ '\'' ∉ value := by simpa using h
    rw [List.cons_append, Shape.segment.eq_def]
    simp [hch, ih hvalue, Shape.Segment.cons]

theorem opens_of_literal (h : Literal values text) (r : List Char) : Opens (text ++ r) := by
  have hquoted {value text : List Char} (h : Quoted value text) (r : List Char) :
      Opens (text ++ r) := by
    cases h <;> rfl
  cases h with
  | one h => exact hquoted h r
  | join h _ _ _ =>
    rw [List.append_assoc]
    exact hquoted h _

theorem readSegment_of_segment {quote : Char} (h : c.Past (quote :: text) d)
    (hs : Shape.segment (some quote) (text ++ d.rest) = ⟨value, text.length, .closed⟩) :
    readSegment c = .ok value d := by
  have hcur : c.current? = some quote := by rw [Cursor.current?, h.rest]; rfl
  have hrest : c.advance.rest = text ++ d.rest := by rw [Cursor.advance_rest, h.rest]; rfl
  have hstop : d = c.advance.advanceBy text.length := h.stop
  simp only [readSegment, hcur, hrest, hs, ← hstop]

theorem readSegment_of_quoted (hq : Quoted value text) (h : c.Past text d) :
    readSegment c = .ok value d := by
  cases hq with
  | single hvalue =>
    refine readSegment_of_segment h ?_
    have hs := segment_of_notMem hvalue d.rest
    simpa using hs
  | double htext =>
    refine readSegment_of_segment h ?_
    have hs := segment_of_escaped htext d.rest
    simpa using hs

theorem readQuoted_eq_ok : readQuoted c = .ok value d ↔
    ∃ first e others, readSegment c = .ok first e ∧ readJoined e = .ok others d ∧
      first ++ others = value := by
  unfold readQuoted
  cases readSegment c with
  | error f e => simp
  | ok first e => cases h : readJoined e <;> simp [h, and_comm]

/-- The parts of a literal are read one after the other, if nothing is joined to the last one. -/
theorem readQuoted_of_literal (hl : Literal values text) (h : c.Past text d)
    (hd : readJoined d = .ok [] d) : readQuoted c = .ok values.flatten d := by
  induction hl generalizing c with
  | one hq =>
    refine readQuoted_eq_ok.2 ⟨_, _, _, readSegment_of_quoted hq h, hd, ?_⟩
    rw [List.flatten_singleton, List.append_nil]
  | join hq hbefore hafter hothers ih =>
    obtain ⟨hpart, h⟩ := h.split
    obtain ⟨hspace, h⟩ := h.split
    obtain ⟨hplus, h⟩ := Cursor.Past.split (t := ['+']) h
    obtain ⟨hspace', h⟩ := h.split
    have hopens := opens_of_literal hothers d.rest
    rw [← h.rest] at hopens
    obtain ⟨first, e, others, hfirst, hjoined, hvalue⟩ := readQuoted_eq_ok.1 (ih h)
    have hgap := skipGaps_of_filler hbefore hspace (by rw [hplus.rest]; rfl)
    have hgap' := skipGaps_of_filler hafter hspace' hopens.gap
    refine readQuoted_eq_ok.2 ⟨_, _, _, readSegment_of_quoted hq hpart,
      readJoined_of_plus hgap hplus.rest hgap' hopens hfirst hjoined, ?_⟩
    rw [hvalue, List.flatten_cons]

theorem readString?_of_readQuoted (hc : c.current?.any Shape.isQuote = true)
    (h : readQuoted c = .ok value d) :
    readString? settings c = (some <$> withoutLayout settings c.position value) d := by
  simp [readString?, hc, h]

/-- A literal is read as the text of its values together, without the layout, up to its last quote,
if there is room for what stays of the layout. Hence two literals at one column whose values are
together the same are read as the same text, however they are split and spelled, or both find no
room. -/
theorem reads_value_of_spelling (settings : ParserSettings) :
    (∀ {c d : Cursor} {values : List (List Char)}, c.Spells values d →
      readString? settings c =
        match Dedent.strip? values.flatten c.position.column settings.tabWidth with
        | some text => .ok (some (String.ofList text)) d
        | none => .error ⟨.tooWide, d.position⟩ d) ∧
    ∀ {c d c' d' : Cursor} {values values' : List (List Char)}, c.Spells values d →
      c'.Spells values' d' → values.flatten = values'.flatten →
      c.position.column = c'.position.column →
      (∃ value, readString? settings c = .ok (some value) d ∧
        readString? settings c' = .ok (some value) d') ∨
      (readString? settings c = .error ⟨.tooWide, d.position⟩ d ∧
        readString? settings c' = .error ⟨.tooWide, d'.position⟩ d') := by
  have hreads {c d : Cursor} {values : List (List Char)} (h : c.Spells values d) :
      readString? settings c =
        match Dedent.strip? values.flatten c.position.column settings.tabWidth with
        | some text => .ok (some (String.ofList text)) d
        | none => .error ⟨.tooWide, d.position⟩ d := by
    obtain ⟨text, hl, hpast⟩ := h.literal
    obtain ⟨filler, mark, r, hf, hmark, hrest⟩ := h.ends
    have hterminates : Terminates (d.advanceBy filler.length).rest := by
      rw [Cursor.rest_advanceBy_length hrest]
      exact hmark.imp (congrArg some) (congrArg some)
    have hgaps := skipGaps_of_filler hf (Cursor.past_of_rest hrest) hterminates.gap
    have hjoined := readJoined_of_end hgaps hterminates.unjoined.head?_ne
    have hquote : c.current?.any Shape.isQuote = true := by
      rw [Cursor.current?, hpast.rest]
      exact opens_of_literal hl d.rest
    rw [readString?_of_readQuoted hquote (readQuoted_of_literal hl hpast hjoined)]
    exact map_withoutLayout_apply settings c.position values.flatten d
  refine ⟨hreads, fun h h' hvalue hcolumn => ?_⟩
  rw [hreads h, hreads h', hvalue, hcolumn]
  cases Dedent.strip? _ _ settings.tabWidth with
  | none => exact .inr ⟨rfl, rfl⟩
  | some text => exact .inl ⟨_, rfl, rfl⟩

/-- One string in two spellings: in two parts with comments between them, and in one piece with a
line feed in its quotes. -/
theorem reads_value_of_two_spellings :
    ∃ c d c' d' : Cursor, c.rest = "'it'/*+*/+//x\r\n\"\\\"s\\n  !\" ;".toList ∧
      c'.rest = "\"it\\\"s\n  !\"\x7b".toList ∧
      c.Spells ["it".toList, "\"s\n  !".toList] d ∧ c'.Spells ["it\"s\n  !".toList] d' ∧
      c.position.column = 5 ∧ c'.position.column = 5 ∧
      readString? {} c = .ok (some "it\"s\n!") d ∧
      readString? {} c' = .ok (some "it\"s\n!") d' := by
  let c : Cursor := ⟨"'it'/*+*/+//x\r\n\"\\\"s\\n  !\" ;".toList, 4, ⟨1, 5⟩⟩
  let c' : Cursor := ⟨"\"it\\\"s\n  !\"\x7b".toList, 4, ⟨1, 5⟩⟩
  have hpart : Escaped "\"s\n  !".toList "\\\"s\\n  !".toList := by
    refine .escape (e := '"') (by decide) (.plain (by decide) (by decide) ?_)
    refine .escape (e := 'n') (by decide) (.plain (by decide) (by decide) ?_)
    exact .plain (by decide) (by decide) (.plain (by decide) (by decide) .nil)
  have hwhole : Escaped "it\"s\n  !".toList "it\\\"s\n  !".toList := by
    refine .plain (by decide) (by decide) (.plain (by decide) (by decide) ?_)
    refine .escape (e := '"') (by decide) (.plain (by decide) (by decide) ?_)
    refine .plain (by decide) (by decide) (.plain (by decide) (by decide) ?_)
    exact .plain (by decide) (by decide) (.plain (by decide) (by decide) .nil)
  have hbefore : Filler ['/', '*', '+', '*', '/'] := @Filler.block ['+'] [] (by decide) .nil
  have hafter : Filler ['/', '/', 'x', '\r', '\n'] :=
    @Filler.line '\r' ['x'] ['\n'] (by simp) (.inr rfl) (.space (by decide) .nil)
  have hc : c.Spells ["it".toList, "\"s\n  !".toList] (c.advanceBy 25) := by
    refine ⟨⟨_, .join (.single ?_) hbefore hafter (.one (.double hpart)), ?_⟩, ?_⟩
    · decide
    · exact Cursor.past_of_rest (u := [' ', ';']) rfl
    · exact ⟨[' '], ';', [], .space (by decide) .nil, .inl rfl, rfl⟩
  have hc' : c'.Spells ["it\"s\n  !".toList] (c'.advanceBy 11) := by
    refine ⟨⟨_, .one (.double hwhole), ?_⟩, ?_⟩
    · exact Cursor.past_of_rest (u := ['\x7b']) rfl
    · exact ⟨[], '\x7b', [], .nil, .inr rfl, rfl⟩
  have hstrip : Dedent.strip? ["it".toList, "\"s\n  !".toList].flatten c.position.column
      ({} : ParserSettings).tabWidth = some "it\"s\n!".toList := by
    decide +kernel
  obtain ⟨hreads, hsame⟩ := reads_value_of_spelling {}
  have hread := hreads hc
  rw [hstrip] at hread
  obtain ⟨value, hvalue, hvalue'⟩ | ⟨hlimit, -⟩ := hsame hc hc' rfl rfl
  · cases hread.symm.trans hvalue
    exact ⟨c, _, c', _, rfl, rfl, hc, hc', rfl, rfl, hread, hvalue'⟩
  · cases hread.symm.trans hlimit

end Scan

end YangSchema
