import YangSchema.Proofs.Statement.Readable

/-!
# The canonical text of a syntax tree

What the printer writes for a readable syntax tree is read back as the same tree, at other places.
-/
namespace YangSchema

/-- An argument and the space before it, as they are written at the column of the space. -/
def argumentText (column : Nat) : Option String → List Char
  | none => []
  | some a => ' ' :: StatementText.quote a.toList (column + 1 : Nat)

def Header.text (depth : Nat) (h : Header) : List Char :=
  h.keyword.toList ++ argumentText (2 * depth + 1 + h.keyword.toList.length) h.argument

/-- The cursor stands behind the indentation of a depth, before a text. -/
structure Cursor.Indented (c : Cursor) (depth : Nat) (text : List Char) : Prop where
  rest : c.rest = text
  column : c.position.column = (2 * depth + 1 : Nat)

namespace SyntaxTree
open StatementText

def level (depth : Nat) (row : List SyntaxTree) : Nat :=
  if row.isEmpty then depth else depth + 1

mutual

/-- The canonical text of a syntax tree at a depth, without the indentation before it. -/
def text (depth : Nat) : SyntaxTree → List Char
  | node h [] => h.text depth ++ [';']
  | node h (s :: r) =>
    h.text depth ++ [' ', '\x7b', '\n'] ++ indent (level depth (s :: r)) ++ rowText depth (s :: r)

def rowText (depth : Nat) : List SyntaxTree → List Char
  | [] => ['\x7d']
  | s :: r => text (depth + 1) s ++ '\n' :: indent (level depth r) ++ rowText depth r

end

mutual

def unplaced : SyntaxTree → SyntaxTree
  | node h block => node { h with position := default } (unplacedAll block)

def unplacedAll : List SyntaxTree → List SyntaxTree
  | [] => []
  | s :: r => s.unplaced :: unplacedAll r

end

theorem head_view (depth : Nat) (parent : Option StatementId) (id : StatementId) (h : Header)
    (block : List SyntaxTree) :
    head depth (view parent id (node h block)).statement = indent depth ++ h.text depth := by
  rw [view]
  simp only [StatementView.statement, head, Statement.keyword, Header.text, Header.keyword]
  cases h.argument with
  | none => simp [argumentText]
  | some a =>
    have hlen : ((indent depth ++ (qualifiedKeyword h.qualifier h.name).toList).length + 2 : Int) =
        (2 * depth + 1 + (qualifiedKeyword h.qualifier h.name).toList.length + 1 : Nat) := by
      simp [indent]
      omega
    simp only [hlen, List.append_assoc, argumentText]

mutual

theorem flatMap_lines (depth : Nat) (parent : Option StatementId) (id : StatementId)
    (s : SyntaxTree) :
    (lines depth (s.view parent id)).flatMap (· ++ ['\n']) =
      indent depth ++ s.text depth ++ ['\n'] := by
  cases s with
  | node h block =>
    have hhead := head_view depth parent id h block
    cases block with
    | nil =>
      simp only [view, viewAll, StatementView.statement] at hhead ⊢
      rw [lines, hhead, text]
      simp
    | cons s r =>
      have hrow := flatMap_linesAll depth id (id + 1) (s :: r)
      simp only [view, viewAll, StatementView.statement] at hhead hrow ⊢
      rw [lines, List.cons_append, List.flatMap_cons, hrow, hhead, text]
      simp

theorem flatMap_linesAll (depth : Nat) (parent id : StatementId) (row : List SyntaxTree) :
    (linesAll (depth + 1) (viewAll parent id row) ++ [indent depth ++ ['\x7d']]).flatMap
        (· ++ ['\n']) =
      indent (level depth row) ++ rowText depth row ++ ['\n'] := by
  cases row with
  | nil => simp [viewAll, linesAll, rowText, level]
  | cons s r =>
    rw [viewAll, linesAll, List.append_assoc, List.flatMap_append, flatMap_lines,
      flatMap_linesAll, rowText]
    simp [level]

end

end SyntaxTree

namespace Grammar
open SyntaxTree

variable {settings : ParserSettings}

section Headers

variable {policy : IdentifierPolicy} {c : Cursor} {h : Header} {l s r : List Char} {m : Char}

theorem toList_keyword (hr : h.Readable policy) :
    h.keyword.toList =
      match h.qualifier with
      | none => h.name.toList
      | some q => q.toList ++ ':' :: h.name.toList := by
  rw [Header.keyword]
  cases hq : h.qualifier with
  | none => rfl
  | some q =>
    have hne : q ≠ "" := by
      rintro rfl
      exact (hr.qualifier _ hq).ne_nil rfl
    rw [qualifiedKeyword.eq_def]
    split
    · simp_all
    · simp_all
    · next hs =>
      cases hs
      simp [toString]

/-- A keyword stays in its line. -/
theorem notMem_keyword (hr : h.Readable policy) :
    ∀ ch ∈ h.keyword.toList, ch ≠ '\n' ∧ ch ≠ '\r' := by
  have hname {name : List Char} (hn : Scan.IsName policy name) :
      ∀ ch ∈ name, ch ≠ '\n' ∧ ch ≠ '\r' := by
    intro ch hc
    have := hn.chars ch hc
    constructor <;> rintro rfl <;> simp [Shape.isIdentifierChar] at this
  rw [toList_keyword hr]
  cases hq : h.qualifier with
  | none => exact hname hr.name
  | some q =>
    intro ch hc
    rw [List.mem_append, List.mem_cons] at hc
    obtain hc | rfl | hc := hc
    · exact hname (hr.qualifier q hq) ch hc
    · decide
    · exact hname hr.name ch hc

theorem readKeyword_keyword (hr : h.Readable policy) (hc : c.rest = h.keyword.toList ++ r)
    (hi : r.head?.any Shape.isIdentifierChar = false) (hcolon : r.head? ≠ some ':') :
    Scan.readKeyword policy c =
      .ok (h.qualifier, h.name) (c.advanceBy h.keyword.toList.length) := by
  have hkeyword := toList_keyword hr
  cases hq : h.qualifier with
  | none =>
    simp only [hq] at hkeyword
    rw [hkeyword] at hc ⊢
    have hfirst := Scan.readIdentifier_name hc hr.name hi
    have hcur : (c.advanceBy h.name.toList.length).current? ≠ some ':' := by
      rwa [Cursor.current?, Cursor.rest_advanceBy_length hc]
    simp [Scan.readKeyword, hfirst, hcur]
  | some q =>
    simp only [hq] at hkeyword
    rw [hkeyword] at hc ⊢
    rw [List.append_assoc, List.cons_append] at hc
    have hfirst := Scan.readIdentifier_name hc (hr.qualifier q hq) (by rfl)
    have hrest := Cursor.rest_advanceBy_length hc
    have hcur : (c.advanceBy q.toList.length).current? = some ':' := by
      rw [Cursor.current?, hrest]
      rfl
    have hafter : ((c.advanceBy q.toList.length).advanceBy 1).rest = h.name.toList ++ r := by
      rw [Cursor.advanceBy_rest, hrest]
      rfl
    have hsecond := Scan.readIdentifier_name hafter hr.name hi
    have hlen : (q.toList ++ ':' :: h.name.toList).length =
        q.toList.length + 1 + h.name.toList.length := by
      rw [List.length_append, List.length_cons]
      omega
    rw [hlen, Cursor.advanceBy_add, Cursor.advanceBy_add]
    simp [Scan.readKeyword, hfirst, hcur, hsecond]

theorem head?_terminator (hl : ∀ ch ∈ l, Shape.isSpace ch = true) (hm : m = ';' ∨ m = '\x7b') :
    (l ++ m :: s).head?.any Shape.isIdentifierChar = false ∧ (l ++ m :: s).head? ≠ some ':' := by
  cases l with
  | nil => obtain rfl | rfl := hm <;> exact ⟨rfl, by simp⟩
  | cons ch l =>
    have hsp := hl ch (List.mem_cons_self ..)
    simp only [Shape.isSpace, Bool.or_eq_true, decide_eq_true_eq] at hsp
    obtain ((rfl | rfl) | rfl) | rfl := hsp <;> exact ⟨rfl, by simp⟩

theorem readArgument?_none (hc : c.rest = l ++ m :: s)
    (hl : ∀ ch ∈ l, Shape.isSpace ch = true) (hm : m = ';' ∨ m = '\x7b') :
    Scan.readArgument? settings c = .ok none c := by
  have hskip := Scan.skipSpace_of_spaces hc hl (Scan.gap_terminator hm s)
  cases l with
  | nil =>
    rw [Scan.readArgument?, hskip]
    rfl
  | cons ch l =>
    have hnone := Scan.readString?_terminator settings
      (Cursor.rest_advanceBy_length hc) hm
    simp only [Scan.readArgument?, hskip, List.isEmpty_cons, Bool.not_false, hnone]

theorem readArgument?_quote {a : String} {n : Nat}
    (hc : c.rest = ' ' :: StatementText.quote a.toList (n + 1 : Nat) ++ (l ++ m :: s))
    (hcol : c.position.column = n) (hl : ∀ ch ∈ l, Shape.isSpace ch = true)
    (hm : m = ';' ∨ m = '\x7b') (ha : Dedent.Settled a.toList) :
    Scan.readArgument? settings c =
      .ok (some a)
        (c.advanceBy (' ' :: StatementText.quote a.toList (n + 1 : Nat)).length) := by
  have hskip := Scan.skipSpace_of_spaces (l := [' ']) hc (by simp [Shape.isSpace]) (by rfl)
  have hrest : (c.advanceBy 1).rest =
      StatementText.quote a.toList (n + 1 : Nat) ++ (l ++ m :: s) :=
    Cursor.rest_advanceBy_length (l := [' ']) hc
  have hcolumn : (c.advanceBy 1).position.column = (n + 1 : Nat) := by
    have := Cursor.column_advanceBy (l := [' ']) hc (by simp)
    simpa [hcol] using this
  have hread := Scan.readString?_quote settings hrest hl hm hcolumn ha
  rw [List.length_cons, Nat.add_comm, Cursor.advanceBy_add]
  simp only [Scan.readArgument?, hskip, List.isEmpty_cons, Bool.not_false, List.length_singleton,
    hread]

theorem readArgument?_text (settings : ParserSettings) {a : Option String} {n : Nat}
    (hc : c.rest = argumentText n a ++ (l ++ m :: s)) (hcol : c.position.column = n)
    (hl : ∀ ch ∈ l, Shape.isSpace ch = true) (hm : m = ';' ∨ m = '\x7b')
    (ha : ∀ value, a = some value → Dedent.Settled value.toList) :
    Scan.readArgument? settings c = .ok a (c.advanceBy (argumentText n a).length) := by
  cases a with
  | none => exact readArgument?_none hc hl hm
  | some a => exact readArgument?_quote hc hcol hl hm (ha a rfl)

theorem head?_argumentText (n : Nat) (a : Option String) (hl : ∀ ch ∈ l, Shape.isSpace ch = true)
    (hm : m = ';' ∨ m = '\x7b') :
    (argumentText n a ++ (l ++ m :: s)).head?.any Shape.isIdentifierChar = false ∧
      (argumentText n a ++ (l ++ m :: s)).head? ≠ some ':' := by
  cases a with
  | none => exact head?_terminator hl hm
  | some a => exact ⟨rfl, by simp [argumentText]⟩

/-- A header that was written at its depth is read back, up to what ends it. -/
theorem header_text {depth : Nat} (hr : h.Readable settings.identifierPolicy)
    (hc : c.Indented depth (h.text depth ++ (l ++ m :: s)))
    (hl : ∀ ch ∈ l, Shape.isSpace ch = true) (hm : m = ';' ∨ m = '\x7b') :
    ∃ d, header settings c = .ok { h with position := c.position } d ∧ d.rest = m :: s := by
  obtain ⟨hc, hcol⟩ := hc
  rw [Header.text, List.append_assoc] at hc
  have hhead := head?_argumentText (s := s) (2 * depth + 1 + h.keyword.toList.length) h.argument
    hl hm
  have hkeyword := readKeyword_keyword hr hc hhead.1 hhead.2
  have hrest := Cursor.rest_advanceBy_length hc
  have hcolumn := Cursor.column_advanceBy hc (notMem_keyword hr)
  rw [hcol, ← Int.natCast_add] at hcolumn
  have hargument := readArgument?_text settings hrest hcolumn hl hm hr.argument
  have hend := Cursor.rest_advanceBy_length hrest
  have hskip := Scan.skipSpace_of_spaces hend hl (Scan.gap_terminator hm s)
  refine ⟨_, ?_, Cursor.rest_advanceBy_length hend⟩
  rw [header_eq_readHeader]
  simp only [Scan.readHeader, bind_apply, get_apply, hkeyword, hargument, hskip,
    pure_apply]

end Headers

theorem pass_feed {c : Cursor} {m : Char} {depth : Nat} {r : List Char}
    (hc : c.rest = m :: '\n' :: (StatementText.indent depth ++ r)) (hr : Shape.gap r = .none) :
    ∃ d, pass c = .ok () d ∧ d.Indented depth r := by
  have hfeed : (c.advanceBy 1).rest = '\n' :: (StatementText.indent depth ++ r) := by
    rw [Cursor.advanceBy_rest, hc]
    rfl
  have hrest : (c.advanceBy 1).advance.rest = StatementText.indent depth ++ r := by
    rw [Cursor.advance_rest, hfeed]
    rfl
  have hspaces : ∀ ch ∈ '\n' :: StatementText.indent depth, Shape.isSpace ch = true := by
    simp [StatementText.indent, Shape.isSpace]
  have hskip := Scan.skipSpace_of_spaces (l := '\n' :: StatementText.indent depth) hfeed hspaces hr
  refine ⟨_, ?_, Cursor.rest_advanceBy_length hrest, ?_⟩
  · simp only [pass, bind_apply, Scan.forward_apply, hskip, pure_apply]
    rfl
  · rw [Cursor.column_advanceBy hrest (by simp [StatementText.indent]),
      Cursor.column_advance_of_feed hfeed]
    simp [StatementText.indent]
    omega

theorem mayStart_keyword {policy : IdentifierPolicy} {h : Header} (hr : h.Readable policy) :
    ∃ ch r, h.keyword.toList = ch :: r ∧ Shape.mayStart policy ch = true := by
  have hname {name : List Char} (hn : Scan.IsName policy name) :
      ∃ ch r, name = ch :: r ∧ Shape.mayStart policy ch = true := by
    obtain ⟨ch, r, rfl⟩ := List.exists_cons_of_ne_nil hn.ne_nil
    exact ⟨ch, r, rfl, hn.start⟩
  rw [toList_keyword hr]
  cases hq : h.qualifier with
  | none => exact hname hr.name
  | some q =>
    obtain ⟨ch, r, he, hch⟩ := hname (hr.qualifier q hq)
    exact ⟨ch, r ++ ':' :: h.name.toList, by simp [he], hch⟩

theorem mayStart_text {policy : IdentifierPolicy} {s : SyntaxTree} (depth : Nat)
    (hs : s.Readable policy) :
    ∃ ch r, s.text depth = ch :: r ∧ Shape.mayStart policy ch = true := by
  cases s with
  | node h block =>
    obtain ⟨ch, r, hk, hch⟩ := mayStart_keyword hs.1
    cases block <;> exact ⟨ch, _, by rw [text, Header.text, hk]; rfl, hch⟩

/-- White space before what follows in a block ends where that starts. -/
theorem gap_rowText {policy : IdentifierPolicy} {row : List SyntaxTree} (depth : Nat)
    (hrow : AllReadable policy row) (r : List Char) :
    Shape.gap (rowText depth row ++ r) = .none := by
  cases row with
  | nil => rfl
  | cons s row =>
    obtain ⟨ch, t, ht, hch⟩ := mayStart_text (depth + 1) hrow.1
    rw [rowText, ht]
    exact gap_of_mayStart _ hch

mutual

/-- The canonical text of a statement is read as that statement, at other places. -/
theorem statement_text {c : Cursor} {depth k : Nat} {s : SyntaxTree} {r : List Char}
    (hs : s.Readable settings.identifierPolicy)
    (hc : c.Indented depth (s.text depth ++ '\n' :: (StatementText.indent k ++ r)))
    (hr : Shape.gap r = .none) :
    ∃ s' d, (statement settings c).outcome = .ok s' d ∧ s'.unplaced = s.unplaced ∧
      d.Indented k r := by
  cases s with
  | node h block =>
    cases block with
    | nil =>
      have htext : c.Indented depth
          (h.text depth ++ ([] ++ ';' :: '\n' :: (StatementText.indent k ++ r))) := by
        simpa [text] using hc
      obtain ⟨d, hh, hd⟩ := header_text hs.1 htext (by simp) (.inl rfl)
      obtain ⟨e, hp, he⟩ := pass_feed hd hr
      refine ⟨.node { h with position := c.position } [], e, ?_, rfl, he⟩
      rw [statement_of_semicolon hh hd, map_apply, hp]
    | cons s row =>
      have htext : c.Indented depth (h.text depth ++ ([' '] ++ '\x7b' :: '\n' ::
          (StatementText.indent (level depth (s :: row)) ++ (rowText depth (s :: row) ++
            '\n' :: (StatementText.indent k ++ r))))) := by
        simpa [text] using hc
      obtain ⟨d, hh, hd⟩ := header_text hs.1 htext (by simp [Shape.isSpace]) (.inr rfl)
      obtain ⟨e, hp, he⟩ := pass_feed hd (gap_rowText depth hs.2 _)
      obtain ⟨row', f, hrow, hsame, hf⟩ := block_text h.keyword hs.2 he hr
      refine ⟨.node { h with position := c.position } row', f, ?_, ?_, hf⟩
      · rw [statement_of_brace hh hd, hp]
        exact Taken.map_of_ok hrow _
      · rw [unplaced, unplaced, hsame]

theorem block_text (keyword : String) {c : Cursor} {depth k : Nat} {row : List SyntaxTree}
    {r : List Char} (hrow : AllReadable settings.identifierPolicy row)
    (hc : c.Indented (level depth row)
      (rowText depth row ++ '\n' :: (StatementText.indent k ++ r)))
    (hr : Shape.gap r = .none) :
    ∃ row' d, (block settings keyword c).outcome = .ok row' d ∧
      unplacedAll row' = unplacedAll row ∧ d.Indented k r := by
  cases row with
  | nil =>
    have hrest := hc.rest
    rw [rowText, List.singleton_append] at hrest
    have hcur : c.current?.any (Shape.mayStart settings.identifierPolicy) = false := by
      rw [Cursor.current?, hrest]
      exact Scan.mayStart_brace _
    obtain ⟨d, hp, hd⟩ := pass_feed hrest hr
    refine ⟨[], d, ?_, rfl, hd⟩
    rw [block_of_brace hcur hrest, map_apply, hp]
  | cons s row =>
    have htext : c.Indented (depth + 1) (s.text (depth + 1) ++ '\n' ::
        (StatementText.indent (level depth row) ++ (rowText depth row ++
          '\n' :: (StatementText.indent k ++ r)))) := by
      simpa [rowText, level] using hc
    have hcur : c.current?.any (Shape.mayStart settings.identifierPolicy) = true := by
      obtain ⟨ch, t, ht, hch⟩ := mayStart_text (depth + 1) hrow.1
      rw [Cursor.current?, htext.rest, ht]
      exact hch
    obtain ⟨s', d, hs, hsame, hd⟩ := statement_text hrow.1 htext (gap_rowText depth hrow.2 _)
    obtain ⟨row', e, hb, hsames, he⟩ := block_text keyword hrow.2 hd hr
    refine ⟨s' :: row', e, ?_, ?_, he⟩
    · rw [block_of_statement hcur, hs]
      exact Taken.map_of_ok hb _
    · rw [unplacedAll, unplacedAll, hsame, hsames]

end

end Grammar
end YangSchema
