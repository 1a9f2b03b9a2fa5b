import YangSchema.Proofs.Statement.Arena

/-!
# The stack of open blocks reads the grammar

Reading on with a block on top of the stack is reading the block by the grammar, adding what was
found below the block's statement, and reading on with the stack below. From this the parser as a
whole is the recursive reading, on accepted and on refused texts.
-/
namespace YangSchema

theorem modify_append_left {α : Type} {l : List α} {n : Nat} (hn : n < l.length) (m : List α)
    (f : α → α) : (l ++ m).modify n f = l.modify n f ++ m := by
  induction l generalizing n with
  | nil => simp at hn
  | cons a l ih =>
    cases n with
    | zero => rfl
    | succ n => simp [ih (by simpa using hn)]

theorem modify_append_last {α : Type} {l : List α} {n : Nat} (hn : l.length = n) (a : α)
    (f : α → α) : (l ++ [a]).modify n f = l ++ [f a] := by
  subst hn
  induction l with
  | nil => rfl
  | cons b l ih => simp [ih]

namespace SyntaxTree

mutual

def graft (t : StatementTree) (parent : StatementId) : SyntaxTree → StatementTree
  | node h block =>
    graftAll (t.addBelow parent h.name h.position h.qualifier h.argument) t.size block

def graftAll (t : StatementTree) (parent : StatementId) : List SyntaxTree → StatementTree
  | [] => t
  | s :: r => graftAll (graft t parent s) parent r

end

def withChildren (more : List StatementId) (s : Statement) : Statement :=
  { s with children := s.children ++ more }

theorem withChildren_comp (a b : List StatementId) :
    withChildren b ∘ withChildren a = withChildren (a ++ b) := by
  funext s
  simp [withChildren]

theorem withChildren_nil : withChildren [] = id := by
  funext s
  simp [withChildren]

def leaf (parent : Option StatementId) (id : StatementId) (h : Header) : Statement :=
  { id, parent, name := h.name, position := h.position, qualifier := h.qualifier
    argument := h.argument }

theorem addBelow_statements (t : StatementTree) {parent : Nat} (h : Header)
    (hp : parent < t.size) :
    (t.addBelow parent h.name h.position h.qualifier h.argument).statements.toList =
      t.statements.toList.modify parent (withChildren [t.size]) ++
        [leaf (some parent) t.size h] := by
  have hlen : parent < t.statements.toList.length := by simpa [StatementTree.size] using hp
  simp only [StatementTree.addBelow, StatementTree.setParent, StatementTree.modify,
    StatementTree.add, Array.toList_modify, Array.toList_push]
  rw [modify_append_left hlen, modify_append_last (by simp [StatementTree.size])]
  rfl

mutual

theorem graft_statements (t : StatementTree) {parent : Nat} (s : SyntaxTree)
    (hp : parent < t.size) :
    (graft t parent s).statements.toList =
      t.statements.toList.modify parent (withChildren [t.size]) ++
        (s.view (some parent) t.size).preorder := by
  cases s with
  | node h block =>
    have hadd := addBelow_statements t h hp
    have hsize : (t.addBelow parent h.name h.position h.qualifier h.argument).size =
        t.size + 1 := by
      simpa [StatementTree.size] using congrArg List.length hadd
    rw [graft, graftAll_statements _ block (hsize ▸ Nat.lt_succ_self t.size), hadd, hsize,
      modify_append_last (by simp [StatementTree.size]), List.append_assoc]
    rfl

theorem graftAll_statements (t : StatementTree) {parent : Nat} (row : List SyntaxTree)
    (hp : parent < t.size) :
    (graftAll t parent row).statements.toList =
      t.statements.toList.modify parent (withChildren (ids t.size row)) ++
        StatementView.preorderAll (viewAll parent t.size row) := by
  cases row with
  | nil => simp [graftAll, ids, viewAll, StatementView.preorderAll, withChildren_nil]
  | cons s r =>
    have hgraft := graft_statements t s hp
    have hsize : (graft t parent s).size = t.size + s.size := by
      simpa [StatementTree.size, length_preorder_view] using congrArg List.length hgraft
    have hrow := graftAll_statements (graft t parent s) r (hsize ▸ Nat.lt_add_right s.size hp)
    have hlen : parent < (t.statements.toList.modify parent (withChildren [t.size])).length := by
      simpa [StatementTree.size] using hp
    rw [graftAll, hrow, hgraft, hsize, modify_append_left hlen, List.modify_modify_eq,
      withChildren_comp, List.append_assoc]
    rfl

end

mutual

theorem root_graft (t : StatementTree) (parent : StatementId) (s : SyntaxTree) :
    (graft t parent s).root = t.root := by
  cases s with
  | node h block =>
    rw [graft, root_graftAll]
    rfl

theorem root_graftAll (t : StatementTree) (parent : StatementId) (row : List SyntaxTree) :
    (graftAll t parent row).root = t.root := by
  cases row with
  | nil => rfl
  | cons s r => rw [graftAll, root_graftAll, root_graft]

end

def rootOnly (h : Header) : StatementTree :=
  { ({} : StatementTree).add h.name h.position h.qualifier h.argument with root := some 0 }

/-- The arena of a syntax tree is what growing it from its root gives. -/
theorem graftAll_rootOnly (h : Header) (block : List SyntaxTree) :
    graftAll (rootOnly h) 0 block = (node h block).arena := by
  have hs := graftAll_statements (rootOnly h) block (Nat.zero_lt_one : 0 < (rootOnly h).size)
  have hr := root_graftAll (rootOnly h) 0 block
  cases hg : graftAll (rootOnly h) 0 block with
  | mk statements root =>
    rw [hg] at hs hr
    rw [arena, show statements = statements.toList.toArray from Array.toArray_toList.symm,
      show statements.toList = _ from hs, show root = _ from hr]
    rfl

end SyntaxTree

namespace Scan
open Grammar SyntaxTree

variable {settings : ParserSettings} {c d : Cursor}

theorem exists_rest_of_current? {ch : Char} (h : c.current? = some ch) :
    ∃ r, c.rest = ch :: r := by
  cases hr : c.rest with
  | nil => simp [Cursor.current?, hr] at h
  | cons x r =>
    obtain rfl : x = ch := by simpa [Cursor.current?, hr] using h
    exact ⟨r, rfl⟩

theorem length_lt_of_pass {u : Unit} (hc : c.rest ≠ []) (h : pass c = .ok u d) :
    d.rest.length < c.rest.length :=
  (mark c hc).forward h

theorem readTerminator_of_mark {keyword : String} {ch : Char} {r : List Char}
    (hr : c.rest = ch :: r) (hc : ch = ';' ∨ ch = '\x7b') :
    readTerminator keyword c = ((fun _ => decide (ch = '\x7b')) <$> pass) c := by
  have hcur : c.current? = some ch := by simp [Cursor.current?, hr]
  have hmark : (decide (ch = ';') || decide (ch = '\x7b')) = true := by simpa using hc
  simp only [readTerminator, Grammar.pass, bind_apply, map_apply, current?_apply, forward_apply,
    ite_apply, hcur, Option.some.injEq, if_pos hmark, pure_apply]
  cases skipSpace (c.advanceBy 1) <;> rfl

theorem readTerminator_of_no_mark {keyword : String} (hs : c.current? ≠ some ';')
    (hb : c.current? ≠ some '\x7b') :
    readTerminator keyword c = .error ⟨.terminatorExpected keyword c.current?, c.position⟩ c := by
  simp [readTerminator, hs, hb]

theorem readChild_apply (keyword : String)
    (hc : c.current?.any (Shape.mayStart settings.identifierPolicy) = true) :
    readChild settings keyword c =
      match header settings c with
      | .ok h d => ((fun opens => (h, opens)) <$> readTerminator h.keyword) d
      | .error e d => .error e d := by
  simp only [readChild, bind_apply, current?_apply, ite_apply, hc, if_true, header_eq_readHeader]
  cases readHeader settings c with
  | error e d => rfl
  | ok h d =>
    simp only [map_apply]
    rfl

variable {t : StatementTree} {top : OpenBlock} {outer : List OpenBlock}

theorem readBlocks_of_brace (hc : c.current? = some '\x7d') :
    readBlocks settings t (top :: outer) c =
      match pass c with
      | .ok _ d => readBlocks settings t outer d
      | .error e d => .error e d := by
  have hpass : pass = closeBlock := rfl
  rw [readBlocks, dif_pos hc, hpass]
  split <;> simp_all

theorem readBlocks_of_child_error {e : SyntaxError} (hc : c.current? ≠ some '\x7d')
    (h : readChild settings top.keyword c = .error e d) :
    readBlocks settings t (top :: outer) c = .error e d := by
  rw [readBlocks, dif_neg hc]
  split <;> simp_all

theorem readBlocks_of_child {h : Header} {opens : Bool} (hc : c.current? ≠ some '\x7d')
    (hr : readChild settings top.keyword c = .ok (h, opens) d) :
    readBlocks settings t (top :: outer) c =
      readBlocks settings (t.addBelow top.id h.name h.position h.qualifier h.argument)
        (if opens then ⟨t.size, h.keyword⟩ :: top :: outer else top :: outer) d := by
  rw [readBlocks, dif_neg hc]
  split <;> simp_all

/-- Reading on with a block on top of the stack is reading the block by the grammar first. -/
def ReadsBlock (settings : ParserSettings) (c : Cursor) : Prop :=
  ∀ (t : StatementTree) (top : OpenBlock) (outer : List OpenBlock),
    readBlocks settings t (top :: outer) c =
      match (Grammar.block settings top.keyword c).outcome with
      | .ok row d => readBlocks settings (graftAll t top.id row) outer d
      | .error e d => .error e d

/-- Where a statement starts in a block, the statement is read by the grammar first. -/
def ReadsStatement (settings : ParserSettings) (c : Cursor) : Prop :=
  ∀ (t : StatementTree) (top : OpenBlock) (outer : List OpenBlock),
    readBlocks settings t (top :: outer) c =
      match (Grammar.statement settings c).outcome with
      | .ok s d => readBlocks settings (graft t top.id s) (top :: outer) d
      | .error e d => .error e d

theorem mayStart_brace (policy : IdentifierPolicy) : Shape.mayStart policy '\x7d' = false := by
  cases policy <;> decide

theorem readsStatement (hc : c.current?.any (Shape.mayStart settings.identifierPolicy) = true)
    (ih : ∀ d : Cursor, d.rest.length < c.rest.length → ReadsBlock settings d) :
    ReadsStatement settings c := by
  intro t top outer
  have hne : c.current? ≠ some '\x7d' := by
    intro he
    simp [he, mayStart_brace] at hc
  have hchild := readChild_apply top.keyword hc
  cases hh : header settings c with
  | error e d =>
    rw [hh] at hchild
    rw [readBlocks_of_child_error hne hchild, statement_of_header_error hh]
  | ok h d =>
    have hd : d.rest.length < c.rest.length := (leading settings c).forward hh
    rw [hh] at hchild
    simp only [map_apply] at hchild
    by_cases hs : d.current? = some ';'
    · obtain ⟨r, hr⟩ := exists_rest_of_current? hs
      rw [readTerminator_of_mark hr (.inl rfl)] at hchild
      rw [statement_of_semicolon hh hr]
      simp only [map_apply] at hchild ⊢
      cases hp : pass d with
      | error e f => rw [readBlocks_of_child_error hne (by rw [hchild, hp])]
      | ok _ f =>
        rw [readBlocks_of_child hne (by rw [hchild, hp])]
        rfl
    · by_cases hb : d.current? = some '\x7b'
      · obtain ⟨r, hr⟩ := exists_rest_of_current? hb
        rw [readTerminator_of_mark hr (.inr rfl)] at hchild
        rw [statement_of_brace hh hr]
        simp only [map_apply] at hchild
        cases hp : pass d with
        | error e f => rw [readBlocks_of_child_error hne (by rw [hchild, hp])]
        | ok _ f =>
          have hf := length_lt_of_pass (by simp [hr]) hp
          rw [readBlocks_of_child hne (by rw [hchild, hp]), if_pos (decide_eq_true trivial),
            ih f (Nat.lt_trans hf hd)]
          simp only [Taken.map]
          cases (Grammar.block settings h.keyword f).outcome <;> rfl
      · rw [readTerminator_of_no_mark hs hb] at hchild
        rw [readBlocks_of_child_error hne hchild, statement_of_no_mark hh hs hb]

theorem readsBlock (settings : ParserSettings) (c : Cursor) : ReadsBlock settings c := by
  intro t top outer
  cases hc : c.current?.any (Shape.mayStart settings.identifierPolicy) with
  | true =>
    have ih := fun d (_ : d.rest.length < c.rest.length) => readsBlock settings d
    rw [readsStatement hc ih, block_of_statement hc]
    cases hs : (Grammar.statement settings c).outcome with
    | error e d => rfl
    | ok s d =>
      have hd := (Grammar.statement settings c).forward hs
      change readBlocks settings (graft t top.id s) (top :: outer) d = _
      rw [ih d hd]
      simp only [Taken.map]
      cases (Grammar.block settings top.keyword d).outcome <;> rfl
  | false =>
    by_cases hb : c.current? = some '\x7d'
    · obtain ⟨r, hr⟩ := exists_rest_of_current? hb
      rw [readBlocks_of_brace hb, block_of_brace hc hr, map_apply]
      cases pass c <;> rfl
    · have hchild : readChild settings top.keyword c =
          .error ⟨.statementExpected top.keyword c.current?, c.position⟩ c := by
        simp [readChild, hc]
      rw [readBlocks_of_child_error hb hchild, block_of_neither hc hb]
termination_by c.rest.length

/-- The parser gives the arena of what the grammar reads. -/
theorem readStatement_apply (settings : ParserSettings) (c : Cursor) :
    readStatement settings c =
      match (Grammar.statement settings c).outcome with
      | .ok s d => .ok s.arena d
      | .error e d => .error e d := by
  simp only [readStatement, bind_apply]
  rw [← header_eq_readHeader]
  cases hh : header settings c with
  | error e d => rw [statement_of_header_error hh]
  | ok h d =>
    refine (bind_apply (readTerminator h.keyword) _ d).trans ?_
    by_cases hs : d.current? = some ';'
    · obtain ⟨r, hr⟩ := exists_rest_of_current? hs
      rw [readTerminator_of_mark hr (.inl rfl), statement_of_semicolon hh hr, map_apply, map_apply]
      cases hp : pass d with
      | error e f => rfl
      | ok _ f =>
        change readBlocks settings (rootOnly h) [] f = _
        rw [readBlocks]
        rfl
    · by_cases hb : d.current? = some '\x7b'
      · obtain ⟨r, hr⟩ := exists_rest_of_current? hb
        rw [readTerminator_of_mark hr (.inr rfl), statement_of_brace hh hr, map_apply]
        cases hp : pass d with
        | error e f => rfl
        | ok _ f =>
          change readBlocks settings (rootOnly h) [⟨0, h.keyword⟩] f = _
          rw [readsBlock settings f]
          simp only [Taken.map]
          cases (Grammar.block settings h.keyword f).outcome with
          | error e g => rfl
          | ok row g =>
            change readBlocks settings (graftAll (rootOnly h) 0 row) [] g = _
            rw [readBlocks, graftAll_rootOnly]
      · rw [readTerminator_of_no_mark hs hb, statement_of_no_mark hh hs hb]

end Scan

theorem parseStatement_eq (text : String) (settings : ParserSettings) :
    parseStatement text settings =
      match Scan.skipSpace (Cursor.ofText text) with
      | .ok _ c =>
        match (Grammar.statement settings c).outcome with
        | .ok s d => .ok ⟨s.arena, d⟩
        | .error e _ => .error e
      | .error e _ => .error e := by
  simp only [parseStatement, bind_apply]
  cases Scan.skipSpace (Cursor.ofText text) with
  | error e c => rfl
  | ok b c =>
    simp only [Scan.readStatement_apply]
    cases (Grammar.statement settings c).outcome <;> rfl

/-- The parser with its stack and the recursive reading of the grammar have one outcome at every
cursor: the same tree, found again by following the links from the root, with the same cursor
behind it, or the same error at the same place. -/
theorem readStatement_eq_grammar (settings : ParserSettings) (c : Cursor) :
    match (Grammar.statement settings c).outcome with
    | .ok s d =>
      Scan.readStatement settings c = .ok s.arena d ∧
        ∃ root, s.arena.rootStatement = .ok root ∧ (s.arena.view root).syntaxTree = s
    | .error e d => Scan.readStatement settings c = .error e d := by
  have h := Scan.readStatement_apply settings c
  cases hg : (Grammar.statement settings c).outcome with
  | error e d => rwa [hg] at h
  | ok s d =>
    rw [hg] at h
    refine ⟨h, _, s.rootStatement_arena, ?_⟩
    rw [s.view_arena, s.syntaxTree_view]

end YangSchema
