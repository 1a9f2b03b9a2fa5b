import Mathlib.Data.List.Forall2
import YangSchema.Proofs.Lexer.RespelledString
import YangSchema.Proofs.Statement.KeywordPlace
import YangSchema.Proofs.Statement.Stack

/-!
# Documents with other line ends

A text that is read as a document is also one when its lines end with carriage returns, or with
carriage returns and line feeds. It has the same statements at the same lines and columns, with the
same arguments but for those in which an escaped line break meets a line end.
-/
namespace YangSchema

def LineEnd.respell (e : LineEnd) (text : String) : String :=
  String.ofList (e.spell text.toList)

/-- In the text of a first cursor, the argument of the statement with a place and a keyword begins
at another one: behind the keyword, which begins at the place, and the white space after it. -/
def Scan.ArgumentAt (settings : ParserSettings) (o : Cursor) (position : Position)
    (qualifier : Option String) (name : String) (c : Cursor) : Prop :=
  ∃ n k, (o.advanceBy n).position = position ∧
    readKeyword settings.identifierPolicy (o.advanceBy n) = .ok (qualifier, name) k ∧
    skipSpace k = .ok true c

/-- The headers are the same but for an argument that other line ends change. -/
structure Header.Respelled (settings : ParserSettings) (e : LineEnd) (o : Cursor) (h h' : Header) :
    Prop where
  same : h' = { h with argument := h'.argument }
  argument : h'.argument = h.argument ∨ ∃ c,
    Scan.ArgumentAt settings o h.position h.qualifier h.name c ∧
      Scan.Differs settings e c h.argument h'.argument

namespace SyntaxTree

mutual

def Corresponds (R : Header → Header → Prop) : SyntaxTree → SyntaxTree → Prop
  | node h block, node h' block' => R h h' ∧ AllCorrespond R block block'

def AllCorrespond (R : Header → Header → Prop) : List SyntaxTree → List SyntaxTree → Prop
  | [], [] => True
  | s :: r, s' :: r' => Corresponds R s s' ∧ AllCorrespond R r r'
  | _, _ => False

end

end SyntaxTree

namespace Scan

variable {settings : ParserSettings} {e : LineEnd} {o c c' d : Cursor}

theorem readKeyword_respelled {policy : IdentifierPolicy} {k : Option String × String}
    (h : Cursor.Respelled e o c c') (hs : readKeyword policy c = .ok k d) :
    ∃ d', readKeyword policy c' = .ok k d' ∧ Cursor.Respelled e o d d' := by
  unfold readKeyword at hs ⊢
  simp only [bind_apply, current?_apply, ite_apply, forward_apply, pure_apply] at hs ⊢
  split at hs
  · next first f h₁ =>
    obtain ⟨f', h₁', hf⟩ := readIdentifier_respelled h h₁
    simp only [h₁', hf.head? (m := ':') (by decide) (by decide)]
    split at hs
    · next hcolon =>
      rw [if_pos hcolon]
      split at hs
      · next h₂ =>
        cases hs
        obtain ⟨d', h₂', hd⟩ := readIdentifier_respelled (hf.next hcolon (by decide)) h₂
        change readIdentifier policy (f'.advanceBy 1) = _ at h₂'
        simp only [h₂']
        exact ⟨d', rfl, hd⟩
      · cases hs
    · next hcolon =>
      cases hs
      rw [if_neg hcolon]
      exact ⟨f', rfl, hf⟩
  · cases hs

theorem readArgument?_respelled {a : Option String} (h : Cursor.Respelled e o c c')
    (hs : readArgument? settings c = .ok a d) :
    ∃ a' d', readArgument? settings c' = .ok a' d' ∧ Cursor.Respelled e o d d' ∧
      (a' = a ∨ ∃ f, skipSpace c = .ok true f ∧ Differs settings e f a a') := by
  unfold readArgument? at hs ⊢
  split at hs
  · cases hs
  · next hspace =>
    cases hs
    obtain ⟨d', hspace', hd⟩ := skipSpace_respelled h hspace
    simp only [hspace']
    exact ⟨none, d', rfl, hd, .inl rfl⟩
  · next f hspace =>
    obtain ⟨f', hspace', hf⟩ := skipSpace_respelled h hspace
    simp only [hspace']
    split at hs
    · cases hs
    · next hv =>
      cases hs
      obtain ⟨a', d', hv', hd, ha⟩ := readString?_respelled hf hv
      obtain rfl | ⟨ps, v, v', -, -, -, hnone, -⟩ := ha
      · simp only [hv']
        exact ⟨none, c', rfl, h, .inl rfl⟩
      · cases hnone
    · next v _ hv =>
      cases hs
      obtain ⟨a', d', hv', hd, ha⟩ := readString?_respelled hf hv
      obtain ⟨v', rfl⟩ : ∃ v', a' = some v' := by
        obtain rfl | ⟨ps, -, -, -, -, -, -, -, rfl⟩ := ha
        · exact ⟨v, rfl⟩
        · exact ⟨_, rfl⟩
      simp only [hv']
      exact ⟨some v', d', rfl, hd, ha.imp_right fun hdiffers => ⟨f, hspace, hdiffers⟩⟩

theorem readHeader_respelled {header : Header} (h : Cursor.Respelled e o c c')
    (hs : readHeader settings c = .ok header d) :
    ∃ header' d', readHeader settings c' = .ok header' d' ∧ Cursor.Respelled e o d d' ∧
      header.Respelled settings e o header' := by
  unfold readHeader at hs
  simp only [bind_eq_ok, get_eq_ok, pure_eq_ok] at hs
  obtain ⟨_, _, ⟨rfl, rfl⟩, ⟨q, name⟩, _, hk, a, _, ha, b, _, hspace, rfl, rfl⟩ := hs
  obtain ⟨f', hk', hf⟩ := readKeyword_respelled h hk
  obtain ⟨a', g', ha', hg, hrelated⟩ := readArgument?_respelled hf ha
  obtain ⟨d', hspace', hd⟩ := skipSpace_respelled hg hspace
  refine ⟨⟨name, c.position, q, a'⟩, d', ?_, hd, rfl, hrelated.imp_right ?_⟩
  · simp only [readHeader, bind_apply, get_apply, hk', ha', hspace', pure_apply, h.position]
  · rintro ⟨f, hf, hdiffers⟩
    obtain ⟨n, rfl⟩ := h.reached
    exact ⟨f, ⟨n, _, rfl, hk, hf⟩, hdiffers⟩

end Scan

namespace Grammar
open Scan SyntaxTree

variable {settings : ParserSettings} {e : LineEnd} {o : Cursor}

theorem pass_respelled {c c' d : Cursor} {m : Char} (h : Cursor.Respelled e o c c')
    (hm : c.current? = some m) (hfeed : m ≠ '\n') (hs : pass c = .ok () d) :
    ∃ d', pass c' = .ok () d' ∧ Cursor.Respelled e o d d' := by
  simp only [pass, bind_eq_ok, forward_eq_ok, pure_eq_ok] at hs
  obtain ⟨_, _, rfl, b, _, hspace, -, rfl⟩ := hs
  obtain ⟨d', hspace', hd⟩ := skipSpace_respelled (h.next hm hfeed) hspace
  change skipSpace (c'.advanceBy 1) = _ at hspace'
  exact ⟨d', by simp only [pass, bind_apply, forward_apply, hspace', pure_apply], hd⟩

mutual

theorem statement_respelled {c c' d : Cursor} {s : SyntaxTree} (h : Cursor.Respelled e o c c')
    (hs : (statement settings c).outcome = .ok s d) :
    ∃ s' d', (statement settings c').outcome = .ok s' d' ∧ Cursor.Respelled e o d d' ∧
      s.Corresponds (Header.Respelled settings e o) s' := by
  cases hh : header settings c with
  | error e f =>
    rw [statement_of_header_error hh] at hs
    cases hs
  | ok a f =>
    have hlt : f.rest.length < c.rest.length := (leading settings c).forward hh
    obtain ⟨a', f', hh', hf, ha⟩ : ∃ a' f', header settings c' = .ok a' f' ∧
        Cursor.Respelled e o f f' ∧ a.Respelled settings e o a' := by
      rw [header_eq_readHeader] at hh ⊢
      exact readHeader_respelled h hh
    by_cases hm : f.current? = some ';'
    · have hm' := (hf.head? (m := ';') (by decide) (by decide)).2 hm
      rw [statement_of_semicolon hh (List.cons_head?_tail hm).symm, map_apply] at hs
      rw [statement_of_semicolon hh' (List.cons_head?_tail hm').symm, map_apply]
      split at hs
      · next hp =>
        cases hs
        obtain ⟨d', hp', hd⟩ := pass_respelled hf hm (by decide) hp
        rw [hp']
        exact ⟨_, d', rfl, hd, ha, trivial⟩
      · cases hs
    · by_cases hb : f.current? = some '\x7b'
      · have hb' := (hf.head? (m := '\x7b') (by decide) (by decide)).2 hb
        have hrest := (List.cons_head?_tail hb).symm
        rw [statement_of_brace hh hrest] at hs
        rw [statement_of_brace hh' (List.cons_head?_tail hb').symm]
        split at hs
        · next g hp =>
          have hg := length_lt_of_pass (fun hnil => by rw [hnil] at hrest; cases hrest) hp
          obtain ⟨row, hrow, rfl⟩ := exists_of_map_ok hs
          obtain ⟨g', hp', hg'⟩ := pass_respelled hf hb (by decide) hp
          obtain ⟨row', d', hrow', hd, hrows⟩ := block_respelled hg' hrow a'.keyword
          simp only [hp']
          exact ⟨_, d', Taken.map_of_ok hrow' _, hd, ha, hrows⟩
        · cases hs
      · rw [statement_of_no_mark hh hm hb] at hs
        cases hs
termination_by (c.rest.length, 0)

theorem block_respelled {c c' d : Cursor} {keyword : String} {row : List SyntaxTree}
    (h : Cursor.Respelled e o c c') (hs : (block settings keyword c).outcome = .ok row d)
    (keyword' : String) :
    ∃ row' d', (block settings keyword' c').outcome = .ok row' d' ∧ Cursor.Respelled e o d d' ∧
      AllCorrespond (Header.Respelled settings e o) row row' := by
  have hstart := h.any_head? (p := Shape.mayStart settings.identifierPolicy)
    (by cases settings.identifierPolicy <;> rfl)
  cases hc : c.current?.any (Shape.mayStart settings.identifierPolicy) with
  | true =>
    rw [block_of_statement hc] at hs
    rw [block_of_statement (hstart.trans hc)]
    split at hs
    · next s f hs₁ =>
      have hlt := (statement settings c).forward hs₁
      obtain ⟨r, hr, rfl⟩ := exists_of_map_ok hs
      obtain ⟨s', f', hs₁', hf, hcorr⟩ := statement_respelled h hs₁
      obtain ⟨r', d', hr', hd, hrows⟩ := block_respelled hf hr keyword'
      simp only [hs₁']
      exact ⟨_, d', Taken.map_of_ok hr' _, hd, hcorr, hrows⟩
    · cases hs
  | false =>
    by_cases hb : c.current? = some '\x7d'
    · have hb' := (h.head? (m := '\x7d') (by decide) (by decide)).2 hb
      rw [block_of_brace hc (List.cons_head?_tail hb).symm, map_apply] at hs
      rw [block_of_brace (hstart.trans hc) (List.cons_head?_tail hb').symm, map_apply]
      split at hs
      · next hp =>
        cases hs
        obtain ⟨d', hp', hd⟩ := pass_respelled h hb (by decide) hp
        rw [hp']
        exact ⟨_, d', rfl, hd, trivial⟩
      · cases hs
    · rw [block_of_neither hc hb] at hs
      cases hs
termination_by (c.rest.length, 1)

end

end Grammar
def Statement.ArgumentAt (settings : ParserSettings) (o : Cursor) (s : Statement) (c : Cursor) :
    Prop :=
  Scan.ArgumentAt settings o s.position s.qualifier s.name c

/-- The statements are the same but for an argument that other line ends change. -/
structure Statement.Respelled (settings : ParserSettings) (e : LineEnd) (o : Cursor)
    (s s' : Statement) : Prop where
  same : s' = { s with argument := s'.argument }
  argument : s'.argument = s.argument ∨ ∃ c, s.ArgumentAt settings o c ∧
    Scan.Differs settings e c s.argument s'.argument

namespace SyntaxTree
open StatementView

variable {R : Header → Header → Prop}

mutual

theorem size_of_corresponds {s s' : SyntaxTree} (h : s.Corresponds R s') : s'.size = s.size := by
  cases s with
  | node a block =>
    cases s' with
    | node a' block' => rw [size, size, sizeAll_of_allCorrespond h.2]

theorem sizeAll_of_allCorrespond {row row' : List SyntaxTree} (h : AllCorrespond R row row') :
    sizeAll row' = sizeAll row := by
  match row, row', h with
  | [], [], _ => rfl
  | s :: r, s' :: r', ⟨hs, hr⟩ =>
    rw [sizeAll, sizeAll, size_of_corresponds hs, sizeAll_of_allCorrespond hr]

end

theorem ids_of_allCorrespond {row row' : List SyntaxTree} (h : AllCorrespond R row row')
    (id : StatementId) : ids id row' = ids id row := by
  match row, row', h with
  | [], [], _ => rfl
  | s :: r, s' :: r', ⟨hs, hr⟩ =>
    rw [ids, ids, size_of_corresponds hs, ids_of_allCorrespond hr]

variable {settings : ParserSettings} {e : LineEnd} {o : Cursor}

mutual

theorem forall₂_preorder {s s' : SyntaxTree}
    (h : s.Corresponds (Header.Respelled settings e o) s') (parent : Option StatementId)
    (id : StatementId) :
    List.Forall₂ (Statement.Respelled settings e o) (s.view parent id).preorder
      (s'.view parent id).preorder := by
  cases s with
  | node a block =>
    cases s' with
    | node a' block' =>
      obtain ⟨ha, hblock⟩ := h
      rw [view, view, preorder, preorder, ids_of_allCorrespond hblock]
      refine .cons ⟨?_, ha.argument⟩ (forall₂_preorderAll hblock id (id + 1))
      rw [ha.same]

theorem forall₂_preorderAll {row row' : List SyntaxTree}
    (h : AllCorrespond (Header.Respelled settings e o) row row') (parent id : StatementId) :
    List.Forall₂ (Statement.Respelled settings e o) (preorderAll (viewAll parent id row))
      (preorderAll (viewAll parent id row')) := by
  match row, row', h with
  | [], [], _ => exact .nil
  | s :: r, s' :: r', ⟨hs, hr⟩ =>
    rw [viewAll, viewAll, preorderAll, preorderAll, size_of_corresponds hs]
    exact List.rel_append (forall₂_preorder hs (some parent) id)
      (forall₂_preorderAll hr parent (id + s.size))

end

end SyntaxTree

/-- The argument of some statement of a document is in quotes and has an escaped line break beside a
line end that it meets. -/
def LineEnd.Fusing (e : LineEnd) (settings : ParserSettings) (text : String) (p : Parsed) : Prop :=
  ∃ s ∈ p.tree.statements.toList, ∃ c ps, s.ArgumentAt settings (Cursor.ofText text) c ∧
    c.Quotes ps ∧ e.Fuses ps

/-- Without escapes no line ends meet. -/
theorem LineEnd.not_fusing {e : LineEnd} {settings : ParserSettings} {text : String} {p : Parsed}
    (h : '\\' ∉ text.toList) : ¬ e.Fusing settings text p := by
  rintro ⟨s, -, c, ps, ⟨n, k, -, hkeyword, hspace⟩, hquotes, l, a, b, r, rfl, hmeets⟩
  have hescaped : ∃ ch, ⟨ch, true⟩ ∈ l ++ a :: b :: r := by
    obtain ⟨rfl, -⟩ | ⟨-, -, rfl⟩ := hmeets
    · exact ⟨'\r', by simp⟩
    · exact ⟨'\n', by simp⟩
  obtain ⟨ch, hch⟩ := hescaped
  have hk := (Scan.onward_readKeyword _).of_ok hkeyword
  obtain ⟨m, hm⟩ := (Cursor.reaches_advanceBy (Cursor.ofText text) n).trans
    (hk.trans (Scan.onward_skipSpace.of_ok hspace))
  have hmem := hquotes.backslash hch
  rw [hm, Cursor.advanceBy_rest] at hmem
  exact h (List.mem_of_mem_drop hmem)

theorem Statement.Respelled.eq {settings : ParserSettings} {e : LineEnd} {text : String}
    {p : Parsed} {s s' : Statement} (h : s.Respelled settings e (Cursor.ofText text) s')
    (hs : s ∈ p.tree.statements.toList) (hf : ¬ e.Fusing settings text p) : s = s' := by
  have hsame : s'.argument = s.argument := by
    refine h.argument.resolve_right ?_
    rintro ⟨c, hc, ps, v, v', hquotes, hfuses, -⟩
    exact hf ⟨s, hs, c, ps, hc, hquotes, hfuses⟩
  rw [h.same, hsame]

theorem respelled_ofText {e : LineEnd} {text : String} (ht : '\r' ∉ text.toList) :
    Cursor.Respelled e (Cursor.ofText text) (Cursor.ofText text)
      (Cursor.ofText (e.respell text)) where
  reached := ⟨0, rfl⟩
  rest := by simp only [Cursor.ofText, LineEnd.respell, String.toList_ofList]
  position := rfl
  clean := ht

/-- A document without carriage returns is one with other line ends too, with the same statements
at the same lines and columns. An argument is another one only if it is written in quotes and an
escaped line break meets a line end there; if no argument of the document is, nothing changes. -/
theorem parseDocument_respell {text : String} {settings : ParserSettings} {p : Parsed} (e : LineEnd)
    (ht : '\r' ∉ text.toList) (h : parseDocument text settings = .ok p) :
    ∃ p', parseDocument (e.respell text) settings = .ok p' ∧ p'.tree.root = p.tree.root ∧
      List.Forall₂ (Statement.Respelled settings e (Cursor.ofText text))
        p.tree.statements.toList p'.tree.statements.toList ∧
      (¬ e.Fusing settings text p → p'.tree = p.tree) := by
  rw [parseDocument, parseStatement_eq] at h
  cases hskip : Scan.skipSpace (Cursor.ofText text) with
  | error fault c => simp [hskip, Except.bind] at h
  | ok b c =>
    simp only [hskip] at h
    cases hs : (Grammar.statement settings c).outcome with
    | error fault d => simp [hs, Except.bind] at h
    | ok s d =>
      simp only [hs, Except.bind, Parsed.asDocument] at h
      split at h
      · next hend =>
        cases h
        obtain ⟨c', hskip', hc⟩ := Scan.skipSpace_respelled (respelled_ofText (e := e) ht) hskip
        obtain ⟨s', d', hs', hd, hcorresponds⟩ := Grammar.statement_respelled hc hs
        have hend' : d'.atEnd = true := by
          rw [Cursor.atEnd, List.isEmpty_iff] at hend ⊢
          rw [hd.rest, hend]
          rfl
        have hrows := SyntaxTree.forall₂_preorder hcorresponds none 0
        refine ⟨⟨s'.arena, d'⟩, ?_, rfl, hrows, fun hf => ?_⟩
        · rw [parseDocument, parseStatement_eq, hskip']
          simp only [hs', Except.bind, Parsed.asDocument, hend', if_true]
        · have hmem := (List.forall₂_and_left _ _).2 ⟨fun _ hs => hs, hrows⟩
          have heq := hmem.imp fun _ _ hrow => hrow.2.eq hrow.1 hf
          rw [List.forall₂_eq_eq_eq] at heq
          simp only [SyntaxTree.arena, heq]
      · cases h

/-- An argument of two lines, of which the second is indented beyond the quote. -/
theorem parseDocument_respell_of_lines :
    ∃ p p₁ p₂, parseDocument "y \"a\n    b\";\n" {} = .ok p ∧
      parseDocument (LineEnd.carriage.respell "y \"a\n    b\";\n") {} = .ok p₁ ∧
      p₁.tree = p.tree ∧
      parseDocument (LineEnd.pair.respell "y \"a\n    b\";\n") {} = .ok p₂ ∧
      p₂.tree = p.tree := by
  have hclean : '\r' ∉ "y \"a\n    b\";\n".toList := by decide +kernel
  have hplain : '\\' ∉ "y \"a\n    b\";\n".toList := by decide +kernel
  have hok : (parseDocument "y \"a\n    b\";\n" {}).isOk = true := by
    decide +kernel
  cases hp : parseDocument "y \"a\n    b\";\n" {} with
  | error e =>
    rw [hp] at hok
    cases hok
  | ok p =>
    obtain ⟨p₁, h₁, -, -, hsame₁⟩ := parseDocument_respell .carriage hclean hp
    obtain ⟨p₂, h₂, -, -, hsame₂⟩ := parseDocument_respell .pair hclean hp
    exact ⟨p, p₁, p₂, rfl, h₁, hsame₁ (LineEnd.not_fusing hplain), h₂,
      hsame₂ (LineEnd.not_fusing hplain)⟩

/-- An escaped carriage return before a line feed makes one line break with it, and two before
another line end. -/
example :
    ((parseDocument "a \"x\\r\ny\";" {}).toOption.map (·.root.argument) = some (some "x\ny")) ∧
      ((parseDocument (LineEnd.pair.respell "a \"x\\r\ny\";") {}).toOption.map (·.root.argument) =
        some (some "x\n\ny")) := by
  decide +kernel

end YangSchema
