import YangSchema.Proofs.Statement.KeywordPlace
import YangSchema.Proofs.Statement.Reachable
import YangSchema.Proofs.Statement.Stack

/-!
# Trees in the order of the text

A walk through a tree that was read comes to all its statements, in the order of their numbers and
of their places in the text. The numbers are those of the walk because statements are numbered when
their headers are read; the places go up because every header takes at least one character.
-/
namespace YangSchema

namespace Position

variable {p q r : Position}

def Before (p q : Position) : Prop :=
  p.line < q.line ∨ p.line = q.line ∧ p.column < q.column

theorem Before.trans (h : p.Before q) (h' : q.Before r) : p.Before r := by
  unfold Before at *
  omega

theorem before_positionAfter (p : Position) (ch : Char) (rest : List Char) :
    p.Before (Cursor.positionAfter p ch rest) := by
  unfold Cursor.positionAfter Before
  split
  · exact .inl (Int.lt_succ p.line)
  · exact .inr ⟨rfl, Int.lt_succ p.column⟩

end Position

namespace Cursor

variable {c d : Cursor}

theorem before_advance (h : c.rest ≠ []) : c.position.Before c.advance.position := by
  rw [advance]
  split
  · contradiction
  · exact Position.before_positionAfter ..

theorem Reaches.eq_or_before (h : c.Reaches d) : d = c ∨ c.position.Before d.position := by
  obtain ⟨n, rfl⟩ := h
  induction n generalizing c with
  | zero => exact .inl rfl
  | succ n ih =>
    by_cases hc : c.rest = []
    · exact .inl (advanceBy_of_nil hc _)
    · have hstep := before_advance hc
      obtain heq | hbefore := ih (c := c.advance)
      · rw [advanceBy, heq]
        exact .inr hstep
      · exact .inr (hstep.trans hbefore)

theorem Reaches.before (h : c.Reaches d) (hlt : d.rest.length < c.rest.length) :
    c.position.Before d.position := by
  obtain rfl | hbefore := h.eq_or_before
  · exact absurd hlt (Nat.lt_irrefl _)
  · exact hbefore

end Cursor

/-- Places that go up, up to before a cursor. -/
structure Ascending (row : List Position) (c : Cursor) : Prop where
  pairwise : row.Pairwise Position.Before
  before : ∀ p ∈ row, p.Before c.position

namespace Ascending

variable {row : List Position} {c d : Cursor}

theorem nil (c : Cursor) : Ascending [] c :=
  ⟨.nil, by simp⟩

theorem reaches (h : Ascending row c) (hd : c.Reaches d) : Ascending row d := by
  refine ⟨h.pairwise, fun p hp => ?_⟩
  obtain rfl | hbefore := hd.eq_or_before
  · exact h.before p hp
  · exact (h.before p hp).trans hbefore

/-- The place of the cursor is put behind the others, and the cursor goes on. -/
theorem append (h : Ascending row c) (hd : c.position.Before d.position) :
    Ascending (row ++ [c.position]) d := by
  constructor
  · rw [List.pairwise_append]
    refine ⟨h.pairwise, List.pairwise_singleton _ _, fun p hp q hq => ?_⟩
    rw [List.mem_singleton.1 hq]
    exact h.before p hp
  · rw [List.forall_mem_append]
    exact ⟨fun p hp => (h.before p hp).trans hd, by simpa using hd⟩

end Ascending

namespace StatementTree

variable {t : StatementTree}

def positions (t : StatementTree) : List Position :=
  t.statements.toList.map (·.position)

theorem positions_modify (id : StatementId) {f : Statement → Statement}
    (hf : ∀ s, (f s).position = s.position) : (t.modify id f).positions = t.positions := by
  refine List.ext_getElem? fun i => ?_
  simp only [positions, modify, List.getElem?_map, Array.getElem?_toList, Array.getElem?_modify]
  split
  · cases t.statements[i]? <;> simp [hf]
  · rfl

theorem positions_add (name : String) (position : Position) (qualifier argument : Option String) :
    (t.add name position qualifier argument).positions = t.positions ++ [position] := by
  simp [positions, add]

theorem positions_addBelow (parent : StatementId) (name : String) (position : Position)
    (qualifier argument : Option String) :
    (t.addBelow parent name position qualifier argument).positions = t.positions ++ [position] := by
  refine (positions_modify t.size ?_).trans <|
    (positions_modify parent ?_).trans (positions_add name position qualifier argument)
  · exact fun _ => rfl
  · exact fun _ => rfl

end StatementTree

namespace Scan

variable {settings : ParserSettings} {c d : Cursor} {tree tree' : StatementTree}

theorem ascending_of_readBlocks {blocks : List OpenBlock}
    (h : readBlocks settings tree blocks c = .ok tree' d) (ht : Ascending tree.positions c) :
    Ascending tree'.positions d := by
  fun_induction readBlocks settings tree blocks c with
  | case1 =>
    cases h
    exact ht
  | case2 => cases h
  | case3 tree c block outer _ u e hclose ih =>
    exact ih h (ht.reaches (onward_closeBlock.of_ok hclose))
  | case4 => cases h
  | case5 tree c block outer _ header opens e hchild child grown ih =>
    have hgrown : grown.positions = tree.positions ++ [c.position] := by
      rw [StatementTree.positions_addBelow, (header_of_readChild hchild).1]
    have honward := (onward_readChild settings block.keyword).of_ok hchild
    exact ih h (hgrown ▸ ht.append (honward.before (length_lt_of_readChild hchild)))

theorem ascending_of_readStatement (h : readStatement settings c = .ok tree d) :
    Ascending tree.positions d := by
  obtain ⟨header, e, hheader, h⟩ := bind_eq_ok.1 h
  obtain ⟨opens, f, hmark, hblocks⟩ := bind_eq_ok.1 h
  have honward := (onward_readHeader settings).of_ok hheader
  have hroot : Ascending [header.position] e := by
    rw [(keyword_of_readHeader hheader).1]
    exact (Ascending.nil c).append (honward.before (length_lt_of_readHeader hheader))
  exact ascending_of_readBlocks hblocks (hroot.reaches ((onward_readTerminator _).of_ok hmark))

end Scan

namespace SyntaxTree

mutual

/-- Below a statement every parent has a smaller number. -/
theorem parent_lt_view {parent id : StatementId} (hp : parent < id) (s : SyntaxTree) :
    ∀ q ∈ (s.view (some parent) id).preorder, ∃ r < q.id, q.parent = some r := by
  cases s with
  | node h block =>
    rw [view, StatementView.preorder, List.forall_mem_cons]
    exact ⟨⟨parent, hp, rfl⟩, parent_lt_viewAll (Nat.lt_succ_self id) block⟩

theorem parent_lt_viewAll {parent id : StatementId} (hp : parent < id) (row : List SyntaxTree) :
    ∀ q ∈ StatementView.preorderAll (viewAll parent id row), ∃ r < q.id, q.parent = some r := by
  cases row with
  | nil => simp [viewAll, StatementView.preorderAll]
  | cons s r =>
    rw [viewAll, StatementView.preorderAll, List.forall_mem_append]
    exact ⟨parent_lt_view hp s, parent_lt_viewAll (Nat.lt_add_right s.size hp) r⟩

end

theorem walk_arena (s : SyntaxTree) : s.arena.walk none = .ok s.arena.statements.toList := by
  rw [StatementTree.walk, StatementTree.start, rootStatement_arena, Except.map, view_arena]
  simp [arena]

end SyntaxTree

structure StatementTree.InDocumentOrder (t : StatementTree) : Prop where
  root : ∃ s, t.rootStatement = .ok s ∧ s.id = 0 ∧ s.parent = none
  walk : ∃ row, t.walk none = .ok row ∧ row.map (·.id) = List.range t.size ∧
    (row.map (·.position)).Pairwise Position.Before
  parent_lt : ∀ id s, t.get? id = some s → id ≠ 0 → ∃ q < id, s.parent = some q

theorem SyntaxTree.inDocumentOrder_arena (s : SyntaxTree) {c : Cursor}
    (h : Ascending s.arena.positions c) : s.arena.InDocumentOrder where
  root := by
    refine ⟨_, s.rootStatement_arena, ?_⟩
    cases s
    exact ⟨rfl, rfl⟩
  walk := by
    refine ⟨_, s.walk_arena, ?_, h.pairwise⟩
    rw [size_arena, List.range_eq_range', ← ids_preorder_view none 0 s, arena]
  parent_lt id q hq hid := by
    have hmem : q ∈ (s.view none 0).preorder := by
      have := List.mem_of_getElem? (Array.getElem?_toList.trans hq)
      simpa [arena] using this
    have hnumber := id_of_get?_arena hq
    cases s with
    | node header block =>
      rw [view, StatementView.preorder] at hmem
      obtain rfl | hmem := List.mem_cons.1 hmem
      · exact absurd hnumber.symm hid
      · obtain ⟨r, hr, hparent⟩ := parent_lt_viewAll Nat.zero_lt_one block q hmem
        exact ⟨r, hnumber ▸ hr, hparent⟩

theorem inDocumentOrder_of_parseStatement {text : String} {settings : ParserSettings} {p : Parsed}
    (h : parseStatement text settings = .ok p) : p.tree.InDocumentOrder := by
  obtain ⟨_, c, -, hread⟩ := parseStatement_eq_ok.1 h
  have hascending := Scan.ascending_of_readStatement hread
  rw [Scan.readStatement_apply] at hread
  split at hread
  · next s d _ =>
    obtain ⟨harena, -⟩ : s.arena = p.tree ∧ d = p.stop := by simpa using hread
    rw [← harena] at hascending ⊢
    exact s.inDocumentOrder_arena hascending
  · cases hread

end YangSchema
