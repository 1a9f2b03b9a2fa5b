import YangSchema.Proofs.Lexer.Recognition

/-!
# Cursors stand where they say

A cursor keeps its line and its column while it goes on, one character at a time, and can be set
back to a place where it has been. Whatever is read, with success or without, they are the line and
the column of its offset, as these are counted in the text. No two offsets have the same ones.
-/
namespace YangSchema

namespace Position

variable {text : List Char} {p q : Nat}

/-- The line and the column of an offset as they are counted in a text. A line ends with a line
feed, or with a carriage return that no line feed follows; the line is one more than the ends before
the offset, and the column one more than the characters since the last of them. -/
def counted (text : List Char) (p : Nat) : Position :=
  let ends := (List.range p).filter fun i =>
    text[i]? = some '\n' || text[i]? = some '\r' && text[i + 1]? ≠ some '\n'
  ⟨1 + ends.length, 1 + (p - ends.getLast?.elim 0 (· + 1))⟩

theorem counted_eq_ofOffset (text : List Char) (p : Nat) : counted text p = ofOffset text p := by
  have hends : ((List.range p).filter fun i =>
      text[i]? = some '\n' || text[i]? = some '\r' && text[i + 1]? ≠ some '\n') =
        lineEnds text p := by
    refine List.filter_congr fun i _ => ?_
    rw [endsLineAt]
    cases text[i]? with
    | none => rfl
    | some ch => simp [Cursor.endsLine]
  rw [counted, hends]
  rfl

theorem lineStart_le (text : List Char) (p : Nat) : lineStart text p ≤ p := by
  rw [lineStart]
  cases h : (lineEnds text p).getLast? with
  | none => exact Nat.zero_le p
  | some i => exact List.mem_range.1 (List.mem_filter.1 (List.mem_of_getLast? h)).1

theorem lineEnds_isPrefix_add (text : List Char) (p k : Nat) :
    lineEnds text p <+: lineEnds text (p + k) := by
  induction k with
  | zero => exact List.prefix_rfl
  | succ k ih =>
    rw [← Nat.add_assoc, lineEnds_succ]
    exact ih.trans (List.prefix_append _ _)

theorem eq_of_ofOffset_eq_of_le (hpq : p ≤ q) (h : ofOffset text p = ofOffset text q) : p = q := by
  obtain ⟨k, rfl⟩ := Nat.exists_eq_add_of_le hpq
  have hline := congrArg Position.line h
  have hcolumn := congrArg Position.column h
  simp only [ofOffset] at hline hcolumn
  have hends : lineEnds text p = lineEnds text (p + k) :=
    (lineEnds_isPrefix_add text p k).eq_of_length (by omega)
  have hstart : lineStart text (p + k) = lineStart text p := by rw [lineStart, lineStart, hends]
  have hle := lineStart_le text p
  omega

theorem ofOffset_inj : ofOffset text p = ofOffset text q ↔ p = q := by
  refine ⟨fun h => ?_, fun h => h ▸ rfl⟩
  obtain hpq | hqp := Nat.le_total p q
  · exact eq_of_ofOffset_eq_of_le hpq h
  · exact (eq_of_ofOffset_eq_of_le hqp h.symm).symm

end Position

namespace Cursor

variable {text : List Char} {c d e : Cursor}

/-- A cursor of a text stands before what comes from its offset on, at the place of this. -/
structure Stands (text : List Char) (c : Cursor) : Prop where
  offset_le : c.offset ≤ text.length
  rest : c.rest = text.drop c.offset
  position : c.position = .ofOffset text c.offset

theorem stands_ofText (text : String) : (ofText text).Stands text.toList :=
  ⟨Nat.zero_le _, rfl, rfl⟩

theorem Stands.advance (h : c.Stands text) : c.advance.Stands text := by
  cases hr : c.rest with
  | nil => rwa [Cursor.advance, hr]
  | cons ch r =>
    have hdrop : text.drop c.offset = ch :: r := h.rest.symm.trans hr
    have hadvance : c.advance = ⟨r, c.offset + 1, positionAfter c.position ch r⟩ := by
      rw [Cursor.advance, hr]
    rw [hadvance]
    refine ⟨?_, ?_, ?_⟩
    · have hlength := congrArg List.length hdrop
      simp only [List.length_drop, List.length_cons] at hlength
      change c.offset + 1 ≤ text.length
      omega
    · rw [← List.tail_drop, hdrop, List.tail_cons]
    · rw [Position.ofOffset_succ hdrop, h.position]

theorem Stands.advanceBy (h : c.Stands text) (n : Nat) : (c.advanceBy n).Stands text := by
  induction n generalizing c with
  | zero => exact h
  | succ n ih => exact ih h.advance

def Reaches (c d : Cursor) : Prop :=
  ∃ n, d = c.advanceBy n

theorem Reaches.refl (c : Cursor) : c.Reaches c :=
  ⟨0, rfl⟩

theorem Reaches.trans (h : c.Reaches d) (h' : d.Reaches e) : c.Reaches e := by
  obtain ⟨m, rfl⟩ := h
  obtain ⟨n, rfl⟩ := h'
  exact ⟨m + n, (advanceBy_add c m n).symm⟩

theorem reaches_advanceBy (c : Cursor) (n : Nat) : c.Reaches (c.advanceBy n) :=
  ⟨n, rfl⟩

theorem reaches_advance (c : Cursor) : c.Reaches c.advance :=
  c.reaches_advanceBy 1

theorem Stands.reaches (h : c.Stands text) (hd : c.Reaches d) : d.Stands text := by
  obtain ⟨n, rfl⟩ := hd
  exact h.advanceBy n

end Cursor

namespace Scan

variable {α β : Type} {m : Scan α} {f : α → Scan β} {c d : Cursor} {a : α} {e : SyntaxError}
  {policy : IdentifierPolicy} {settings : ParserSettings}

def left (m : Scan α) (c : Cursor) : Cursor :=
  match m c with
  | .ok _ d => d
  | .error _ d => d

/-- A reading leaves the cursor further on, also where it fails. -/
def Onward (m : Scan α) : Prop :=
  ∀ c : Cursor, c.Reaches (left m c)

theorem Onward.of_ok (h : Onward m) (hm : m c = .ok a d) : c.Reaches d := by
  simpa only [left, hm] using h c

theorem Onward.of_error (h : Onward m) (hm : m c = .error e d) : c.Reaches d := by
  simpa only [left, hm] using h c

theorem onward_pure (a : α) : Onward (pure a) :=
  fun c => .refl c

theorem onward_get : Onward (get : Scan Cursor) :=
  fun c => .refl c

theorem onward_current? : Onward current? :=
  fun c => .refl c

theorem onward_fail (fault : SyntaxFault) : Onward (fail fault : Scan α) :=
  fun c => .refl c

theorem onward_failAt (fault : SyntaxFault) (p : Position) : Onward (failAt fault p : Scan α) :=
  fun c => .refl c

theorem onward_forward (n : Nat) : Onward (forward n) :=
  fun c => c.reaches_advanceBy n

theorem onward_bind (h : Onward m) (hf : ∀ a, Onward (f a)) : Onward (m >>= f) := by
  intro c
  cases hm : m c with
  | error e d =>
    simp only [left, bind_apply, hm]
    exact h.of_error hm
  | ok a d =>
    simp only [left, bind_apply, hm]
    exact (h.of_ok hm).trans (hf a d)

theorem onward_ite (p : Prop) [Decidable p] {m₁ m₂ : Scan α} (h₁ : Onward m₁) (h₂ : Onward m₂) :
    Onward (if p then m₁ else m₂) := by
  split
  · exact h₁
  · exact h₂

theorem onward_skipGaps : Onward skipGaps := by
  intro c
  unfold left
  fun_induction skipGaps c with
  | case1 c => exact .refl c
  | case2 c n _ ih => exact (c.reaches_advanceBy n).trans ih
  | case3 c => exact .refl c

theorem onward_skipSpace : Onward skipSpace := by
  intro c
  unfold left skipSpace
  cases h : skipGaps c with
  | ok u d => exact onward_skipGaps.of_ok h
  | error e d => exact onward_skipGaps.of_error h

theorem onward_skipLineComment : Onward skipLineComment :=
  onward_bind onward_get fun _ => onward_forward _

theorem onward_skipBlockComment : Onward skipBlockComment := by
  refine onward_bind onward_get fun c => ?_
  cases Shape.blockCommentLength? c.rest with
  | none => exact onward_fail _
  | some n => exact onward_forward n

theorem onward_atSpace : Onward atSpace :=
  onward_bind onward_get fun _ => onward_pure _

theorem onward_readSegment : Onward readSegment := by
  intro c
  have hafter (n : Nat) : c.Reaches (c.advance.advanceBy n) :=
    c.reaches_advance.trans (c.advance.reaches_advanceBy n)
  simp only [left, readSegment]
  cases (Shape.segment c.current? c.advance.rest).ending <;> exact hafter _

theorem onward_readJoined : Onward readJoined := by
  intro c
  unfold left
  fun_induction readJoined c with
  | case1 c e d h => exact onward_skipGaps.of_error h
  | case2 c _ d h _ _ e f h' =>
    exact (onward_skipGaps.of_ok h).trans (d.reaches_advance.trans (onward_skipGaps.of_error h'))
  | case3 c _ d h _ _ _ f h' _ e g h'' =>
    have hf := (onward_skipGaps.of_ok h).trans (d.reaches_advance.trans (onward_skipGaps.of_ok h'))
    exact hf.trans (onward_readSegment.of_error h'')
  | case4 c _ d h _ _ _ f h' _ v g h'' e k hk ih =>
    have hf := (onward_skipGaps.of_ok h).trans (d.reaches_advance.trans (onward_skipGaps.of_ok h'))
    rw [hk] at ih
    exact (hf.trans (onward_readSegment.of_ok h'')).trans ih
  | case5 c _ d h _ _ _ f h' _ v g h'' w k hk ih =>
    have hf := (onward_skipGaps.of_ok h).trans (d.reaches_advance.trans (onward_skipGaps.of_ok h'))
    rw [hk] at ih
    exact (hf.trans (onward_readSegment.of_ok h'')).trans ih
  | case6 c _ d h _ _ _ f h' =>
    exact (onward_skipGaps.of_ok h).trans (d.reaches_advance.trans (onward_skipGaps.of_ok h'))
  | case7 c => exact .refl c

theorem onward_readQuoted : Onward readQuoted := by
  intro c
  unfold left readQuoted
  cases h : readSegment c with
  | error e d => exact onward_readSegment.of_error h
  | ok v d =>
    have hd := onward_readSegment.of_ok h
    simp only
    cases h' : readJoined d with
    | error e f => exact hd.trans (onward_readJoined.of_error h')
    | ok w f => exact hd.trans (onward_readJoined.of_ok h')

theorem onward_readWord : Onward readWord :=
  onward_bind onward_get fun _ => onward_bind (onward_forward _) fun _ => onward_pure _

theorem onward_withoutLayout (settings : ParserSettings) (start : Position) (value : List Char) :
    Onward (withoutLayout settings start value) := by
  unfold withoutLayout
  cases Dedent.strip? value start.column settings.tabWidth with
  | none => exact onward_fail _
  | some text => exact onward_pure _

theorem onward_readString? (settings : ParserSettings) : Onward (readString? settings) := by
  refine onward_bind onward_get fun c => onward_ite _ ?_ (onward_ite _ (onward_pure _) ?_)
  · refine onward_bind onward_readQuoted fun value => ?_
    exact onward_bind (onward_withoutLayout _ _ value) fun _ => onward_pure _
  · refine onward_bind onward_readWord fun value => ?_
    exact onward_bind (onward_withoutLayout _ _ value) fun _ => onward_pure _

theorem onward_atIdentifier (policy : IdentifierPolicy) : Onward (atIdentifier policy) :=
  onward_bind onward_current? fun _ => onward_pure _

theorem onward_readIdentifier (policy : IdentifierPolicy) : Onward (readIdentifier policy) := by
  refine onward_bind onward_get fun c => onward_ite _ ?_ (onward_fail _)
  exact onward_bind (onward_forward _) fun _ => onward_ite _ (onward_failAt _ _) (onward_pure _)

theorem onward_readDigits (width : Nat) : Onward (readDigits width) := by
  refine onward_bind onward_get fun c => onward_bind (onward_forward _) fun _ => onward_ite _ ?_ ?_
  · exact onward_bind onward_current? fun _ => onward_fail _
  · exact onward_pure _

theorem onward_expect (text : String) : Onward (expect text) :=
  onward_bind onward_current? fun _ => onward_ite _ (onward_forward 1) (onward_fail _)

theorem onward_readDate : Onward readDate := by
  refine onward_bind onward_get fun start => ?_
  refine onward_bind (onward_readDigits 4) fun year => ?_
  refine onward_bind (onward_expect "-") fun _ => ?_
  refine onward_bind (onward_readDigits 2) fun month => ?_
  refine onward_bind (onward_expect "-") fun _ => ?_
  refine onward_bind (onward_readDigits 2) fun day => ?_
  simp only
  cases Date.of (Text.Numeral.value year) (Text.Numeral.value month) (Text.Numeral.value day) with
  | ok d => exact onward_pure d
  | error fault => exact onward_failAt _ _

end Scan

/-- A cursor with the marks that were made of it, in their order. -/
structure Lexing where
  cursor : Cursor
  marks : List Cursor := []

namespace Lexing

variable {text : List Char} {s : Lexing} {settings : ParserSettings}

def ofText (text : String) : Lexing :=
  { cursor := .ofText text }

/-- What is asked of a cursor. A mark is named by its number. -/
inductive Call where
  | advance
  | current?
  | skipSpace
  | skipLineComment
  | skipBlockComment
  | atSpace
  | readSegment
  | readWord
  | readString?
  | atIdentifier
  | readIdentifier
  | readDigits (width : Nat)
  | expect (text : String)
  | readDate
  | mark
  | reset (mark : Int)

def after {α : Type} (s : Lexing) (m : Scan α) : Lexing :=
  { s with cursor := Scan.left m s.cursor }

/-- What a call makes of the cursor and its marks. A reading that fails leaves the cursor where it
failed; there is no going back to a mark that was not made. -/
def perform (settings : ParserSettings) (s : Lexing) : Call → Lexing
  | .advance => { s with cursor := s.cursor.advance }
  | .current? => s.after Scan.current?
  | .skipSpace => s.after Scan.skipSpace
  | .skipLineComment => s.after Scan.skipLineComment
  | .skipBlockComment => s.after Scan.skipBlockComment
  | .atSpace => s.after Scan.atSpace
  | .readSegment => s.after Scan.readSegment
  | .readWord => s.after Scan.readWord
  | .readString? => s.after (Scan.readString? settings)
  | .atIdentifier => s.after (Scan.atIdentifier settings.identifierPolicy)
  | .readIdentifier => s.after (Scan.readIdentifier settings.identifierPolicy)
  | .readDigits width => s.after (Scan.readDigits width)
  | .expect text => s.after (Scan.expect text)
  | .readDate => s.after Scan.readDate
  | .mark => { s with marks := s.marks ++ [s.cursor] }
  | .reset mark =>
    match Index.item s.marks mark with
    | .ok cursor => { s with cursor }
    | .error _ => s

def run (settings : ParserSettings) (s : Lexing) (calls : List Call) : Lexing :=
  calls.foldl (perform settings) s

/-- The cursor stands where it says, and so did it at every mark. -/
structure Stands (text : List Char) (s : Lexing) : Prop where
  cursor : s.cursor.Stands text
  marks : ∀ c ∈ s.marks, c.Stands text

theorem Stands.after {α : Type} {m : Scan α} (h : s.Stands text) (hm : Scan.Onward m) :
    (s.after m).Stands text :=
  ⟨h.cursor.reaches (hm s.cursor), h.marks⟩

theorem mem_of_item {α : Type} {row : List α} {index : Int} {x : α}
    (h : Index.item row index = .ok x) : x ∈ row := by
  obtain ⟨i, -, h⟩ := except_bind_eq_ok.1 h
  cases hi : row[i]? with
  | none =>
    rw [hi] at h
    cases h
  | some y =>
    rw [hi] at h
    cases h
    exact List.mem_of_getElem? hi

theorem Stands.perform (h : s.Stands text) (call : Call) :
    (s.perform settings call).Stands text := by
  cases call with
  | advance => exact ⟨h.cursor.advance, h.marks⟩
  | current? => exact h.after Scan.onward_current?
  | skipSpace => exact h.after Scan.onward_skipSpace
  | skipLineComment => exact h.after Scan.onward_skipLineComment
  | skipBlockComment => exact h.after Scan.onward_skipBlockComment
  | atSpace => exact h.after Scan.onward_atSpace
  | readSegment => exact h.after Scan.onward_readSegment
  | readWord => exact h.after Scan.onward_readWord
  | readString? => exact h.after (Scan.onward_readString? settings)
  | atIdentifier => exact h.after (Scan.onward_atIdentifier _)
  | readIdentifier => exact h.after (Scan.onward_readIdentifier _)
  | readDigits width => exact h.after (Scan.onward_readDigits width)
  | expect text => exact h.after (Scan.onward_expect text)
  | readDate => exact h.after Scan.onward_readDate
  | mark =>
    refine ⟨h.cursor, fun c hc => ?_⟩
    obtain hc | hc := List.mem_append.1 hc
    · exact h.marks c hc
    · rw [List.mem_singleton.1 hc]
      exact h.cursor
  | reset mark =>
    rw [Lexing.perform]
    split
    · next c hc => exact ⟨h.marks c (mem_of_item hc), h.marks⟩
    · exact h

theorem Stands.run (h : s.Stands text) (calls : List Call) :
    (s.run settings calls).Stands text := by
  induction calls generalizing s with
  | nil => exact h
  | cons call calls ih => exact ih (h.perform call)

theorem stands_ofText (text : String) : (ofText text).Stands text.toList :=
  ⟨Cursor.stands_ofText text, by simp [ofText]⟩

end Lexing
end YangSchema
