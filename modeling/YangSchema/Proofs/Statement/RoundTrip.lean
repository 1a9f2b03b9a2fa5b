import YangSchema.Proofs.Statement.Canonical

/-!
# Parsing, printing and parsing again

What a document prints is a document again, with the same statements under the same settings, and
it prints itself.
-/
namespace YangSchema

def Statement.row (s : Statement) :
    Option StatementId × Option String × String × Option String :=
  (s.parent, s.qualifier, s.name, s.argument)

/-- What the statements of a tree say, from the root on, each before its children. -/
def StatementTree.outline (t : StatementTree) :
    Except TreeFault (List (Option StatementId × Option String × String × Option String)) :=
  (t.walk none).map (List.map Statement.row)

namespace SyntaxTree
open StatementView

mutual

theorem size_unplaced (s : SyntaxTree) : s.unplaced.size = s.size := by
  cases s with
  | node h block => rw [unplaced, size, size, sizeAll_unplacedAll]

theorem sizeAll_unplacedAll (row : List SyntaxTree) : sizeAll (unplacedAll row) = sizeAll row := by
  cases row with
  | nil => rfl
  | cons s r => rw [unplacedAll, sizeAll, sizeAll, size_unplaced, sizeAll_unplacedAll]

end

mutual

theorem text_unplaced (depth : Nat) (s : SyntaxTree) : s.unplaced.text depth = s.text depth := by
  cases s with
  | node h block =>
    cases block with
    | nil => rfl
    | cons s r =>
      have hrow := rowText_unplacedAll depth (s :: r)
      rw [unplacedAll] at hrow
      rw [unplaced, unplacedAll, text, text, hrow]
      rfl

theorem rowText_unplacedAll (depth : Nat) (row : List SyntaxTree) :
    rowText depth (unplacedAll row) = rowText depth row := by
  cases row with
  | nil => rfl
  | cons s r =>
    have hlevel : level depth (unplacedAll r) = level depth r := by cases r <;> rfl
    rw [unplacedAll, rowText, rowText, text_unplaced, rowText_unplacedAll, hlevel]

end

mutual

theorem rows_unplaced (parent : Option StatementId) (id : StatementId) (s : SyntaxTree) :
    (s.unplaced.view parent id).preorder.map Statement.row =
      (s.view parent id).preorder.map Statement.row := by
  cases s with
  | node h block =>
    rw [unplaced, view, view, preorder, preorder, List.map_cons, List.map_cons,
      rows_unplacedAll]
    rfl

theorem rows_unplacedAll (parent id : StatementId) (row : List SyntaxTree) :
    (preorderAll (viewAll parent id (unplacedAll row))).map Statement.row =
      (preorderAll (viewAll parent id row)).map Statement.row := by
  cases row with
  | nil => rfl
  | cons s r =>
    rw [unplacedAll, viewAll, viewAll, preorderAll, preorderAll, List.map_append,
      List.map_append, rows_unplaced, size_unplaced, rows_unplacedAll]

end

theorem render_arena (s : SyntaxTree) :
    s.arena.render none = .ok (String.ofList (s.text 0 ++ ['\n'])) := by
  rw [StatementTree.render, StatementTree.start, rootStatement_arena]
  change Except.ok (s.arena.view (s.view none 0).statement).render = _
  rw [view_arena, StatementView.render, flatMap_lines]
  rfl

theorem outline_arena (s : SyntaxTree) :
    s.arena.outline = .ok ((s.view none 0).preorder.map Statement.row) := by
  rw [StatementTree.outline, StatementTree.walk, StatementTree.start, rootStatement_arena]
  change Except.ok ((s.arena.view (s.view none 0).statement).preorder.map Statement.row) = _
  rw [view_arena]

end SyntaxTree

open Grammar SyntaxTree

variable {settings : ParserSettings}

/-- A document is the arena of a readable syntax tree. -/
theorem exists_of_parseDocument {text : String} {p : Parsed}
    (h : parseDocument text settings = .ok p) :
    ∃ s : SyntaxTree, s.Readable settings.identifierPolicy ∧ p.tree = s.arena := by
  rw [parseDocument, parseStatement_eq] at h
  cases hskip : Scan.skipSpace (Cursor.ofText text) with
  | error e c => simp [hskip, Except.bind] at h
  | ok b c =>
    simp only [hskip] at h
    cases hs : (Grammar.statement settings c).outcome with
    | error e d => simp [hs, Except.bind] at h
    | ok s d =>
      simp only [hs, Except.bind, Parsed.asDocument] at h
      split at h
      · cases h
        exact ⟨s, readable_of_statement hs, rfl⟩
      · simp at h

/-- The canonical text of a readable syntax tree is a document with the same tree at other
places. -/
theorem parseDocument_text {s : SyntaxTree} (hs : s.Readable settings.identifierPolicy) :
    ∃ (s' : SyntaxTree) (p : Parsed),
      parseDocument (String.ofList (s.text 0 ++ ['\n'])) settings = .ok p ∧ p.tree = s'.arena ∧
        s'.unplaced = s.unplaced := by
  have hc : (Cursor.ofText (String.ofList (s.text 0 ++ ['\n']))).Indented 0
      (s.text 0 ++ '\n' :: (StatementText.indent 0 ++ [])) :=
    ⟨by simp [Cursor.ofText, StatementText.indent], rfl⟩
  obtain ⟨ch, r, htext, hch⟩ := mayStart_text 0 hs
  have hgap : Shape.gap (s.text 0 ++ ['\n']) = .none := by
    rw [htext]
    exact gap_of_mayStart _ hch
  have hskip := Scan.skipSpace_of_spaces (l := []) hc.rest (by simp) hgap
  obtain ⟨s', d, hread, hsame, hd⟩ := statement_text hs hc rfl
  refine ⟨s', ⟨s'.arena, d⟩, ?_, rfl, hsame⟩
  rw [parseDocument, parseStatement_eq, hskip]
  simp only [List.length_nil, Cursor.advanceBy, hread, Except.bind, Parsed.asDocument,
    Cursor.atEnd, hd.rest, List.isEmpty_nil, if_true]

/-- What a document prints is again a document under the same settings. It has the same statements
in the same order and nesting, and it prints the same text. -/
theorem parseDocument_render {text : String} {p : Parsed}
    (h : parseDocument text settings = .ok p) :
    ∃ out p' rows, p.tree.render none = .ok out ∧ parseDocument out settings = .ok p' ∧
      p.tree.outline = .ok rows ∧ p'.tree.outline = .ok rows ∧ p'.tree.render none = .ok out := by
  obtain ⟨s, hs, ht⟩ := exists_of_parseDocument h
  obtain ⟨s', p', hp', ht', hsame⟩ := parseDocument_text hs
  have htext : s'.text 0 = s.text 0 := by rw [← text_unplaced, hsame, text_unplaced]
  have hrows : (s'.view none 0).preorder.map Statement.row =
      (s.view none 0).preorder.map Statement.row := by
    rw [← rows_unplaced, hsame, rows_unplaced]
  refine ⟨_, p', _, by rw [ht, render_arena], hp', by rw [ht, outline_arena], ?_, ?_⟩
  · rw [ht', outline_arena, hrows]
  · rw [ht', render_arena, htext]

/-- Blank line ends, a tab and quotes in an argument of several lines. -/
theorem parseDocument_render_of_layout :
    ∃ p out p' rows,
      parseDocument "p:a 'x \n \t y\\\"\n   ' \x7b b; c d \x7b e; \x7d \x7d" {} = .ok p ∧
        p.tree.render none = .ok out ∧ parseDocument out {} = .ok p' ∧
        p.tree.outline = .ok rows ∧ p'.tree.outline = .ok rows ∧
        p'.tree.render none = .ok out := by
  have hok : (parseDocument "p:a 'x \n \t y\\\"\n   ' \x7b b; c d \x7b e; \x7d \x7d" {}).isOk =
      true := by
    decide +kernel
  cases hp : parseDocument "p:a 'x \n \t y\\\"\n   ' \x7b b; c d \x7b e; \x7d \x7d" {} with
  | error e =>
    rw [hp] at hok
    cases hok
  | ok p =>
    obtain ⟨out, p', rows, h⟩ := parseDocument_render hp
    exact ⟨p, out, p', rows, rfl, h⟩

end YangSchema
