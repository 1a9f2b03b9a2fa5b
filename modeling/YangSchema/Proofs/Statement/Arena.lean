import YangSchema.Proofs.Statement.Grammar
import YangSchema.Statement.View

/-!
# Syntax trees as arenas

The statements of a syntax tree are numbered from the root on, each before those below it. A tree
that is grown by adding one statement below another, in the order of the text, holds exactly these
statements, and following the links to the children from the root gives the syntax tree back.
-/
namespace YangSchema
namespace SyntaxTree

mutual

def size : SyntaxTree → Nat
  | node _ block => sizeAll block + 1

def sizeAll : List SyntaxTree → Nat
  | [] => 0
  | s :: r => s.size + sizeAll r

end

/-- The numbers of the first statements of a row of trees that are numbered from `id` on. -/
def ids (id : StatementId) : List SyntaxTree → List StatementId
  | [] => []
  | s :: r => id :: ids (id + s.size) r

mutual

/-- A syntax tree with its statements numbered from `id` on. -/
def view (parent : Option StatementId) (id : StatementId) : SyntaxTree → StatementView
  | node h block =>
    .mk { id, parent, name := h.name, position := h.position, qualifier := h.qualifier
          argument := h.argument, children := ids (id + 1) block }
      (viewAll id (id + 1) block)

def viewAll (parent id : StatementId) : List SyntaxTree → List StatementView
  | [] => []
  | s :: r => view (some parent) id s :: viewAll parent (id + s.size) r

end

def arena (s : SyntaxTree) : StatementTree :=
  { statements := (s.view none 0).preorder.toArray, root := some 0 }

end SyntaxTree

namespace StatementView

mutual

/-- What a view says without numbers and links. -/
def syntaxTree : StatementView → SyntaxTree
  | mk s below => .node ⟨s.name, s.position, s.qualifier, s.argument⟩ (syntaxTrees below)

def syntaxTrees : List StatementView → List SyntaxTree
  | [] => []
  | v :: r => v.syntaxTree :: syntaxTrees r

end

end StatementView

namespace SyntaxTree
open StatementView

mutual

theorem syntaxTree_view (parent : Option StatementId) (id : StatementId) (s : SyntaxTree) :
    (s.view parent id).syntaxTree = s := by
  cases s with
  | node h block => rw [view, StatementView.syntaxTree, syntaxTrees_viewAll]

theorem syntaxTrees_viewAll (parent id : StatementId) (row : List SyntaxTree) :
    syntaxTrees (viewAll parent id row) = row := by
  cases row with
  | nil => rfl
  | cons s r => rw [viewAll, syntaxTrees, syntaxTree_view, syntaxTrees_viewAll]

end

mutual

theorem length_preorder_view (parent : Option StatementId) (id : StatementId) (s : SyntaxTree) :
    (s.view parent id).preorder.length = s.size := by
  cases s with
  | node h block => rw [view, preorder, List.length_cons, length_preorderAll_viewAll, size]

theorem length_preorderAll_viewAll (parent id : StatementId) (row : List SyntaxTree) :
    (preorderAll (viewAll parent id row)).length = sizeAll row := by
  cases row with
  | nil => rfl
  | cons s r =>
    rw [viewAll, preorderAll, List.length_append, length_preorder_view,
      length_preorderAll_viewAll, sizeAll]

end

mutual

theorem ids_preorder_view (parent : Option StatementId) (id : StatementId) (s : SyntaxTree) :
    (s.view parent id).preorder.map Statement.id = List.range' id s.size := by
  cases s with
  | node h block =>
    rw [view, preorder, List.map_cons, ids_preorderAll_viewAll, size, List.range'_succ]

theorem ids_preorderAll_viewAll (parent id : StatementId) (row : List SyntaxTree) :
    (preorderAll (viewAll parent id row)).map Statement.id = List.range' id (sizeAll row) := by
  cases row with
  | nil => rfl
  | cons s r =>
    rw [viewAll, preorderAll, List.map_append, ids_preorder_view, ids_preorderAll_viewAll, sizeAll,
      List.range'_append_1]

end

/-- Every statement of an arena stands at its own number. -/
theorem id_of_get?_arena {s : SyntaxTree} {id : StatementId} {q : Statement}
    (h : s.arena.get? id = some q) : q.id = id := by
  have hids := congrArg (·[id]?) (ids_preorder_view none 0 s)
  simp only [arena, StatementTree.get?, List.getElem?_toArray] at h
  simp only [List.getElem?_map, h, Option.map_some] at hids
  obtain ⟨hlt, hid⟩ := List.getElem?_eq_some_iff.1 hids.symm
  rw [← hid, List.getElem_range', Nat.zero_add, Nat.one_mul]

/-- Some statements stand in a tree one after the other, from a number on. -/
def Occurs (t : StatementTree) (id : StatementId) (row : List Statement) : Prop :=
  row <+: t.statements.toList.drop id

theorem Occurs.get? {t : StatementTree} {id : StatementId} {s : Statement} {row : List Statement}
    (h : Occurs t id (s :: row)) : t.get? id = some s := by
  obtain ⟨rest, hr⟩ := h
  have : (t.statements.toList.drop id)[0]? = some s := by simp [← hr]
  simpa [StatementTree.get?] using this

theorem Occurs.left {t : StatementTree} {id : StatementId} {a b : List Statement}
    (h : Occurs t id (a ++ b)) : Occurs t id a :=
  (List.prefix_append a b).trans h

theorem Occurs.right {t : StatementTree} {id : StatementId} {a b : List Statement}
    (h : Occurs t id (a ++ b)) : Occurs t (id + a.length) b := by
  obtain ⟨rest, hr⟩ := h
  refine ⟨rest, ?_⟩
  rw [← List.drop_drop, ← hr]
  simp

theorem Occurs.tail {t : StatementTree} {id : StatementId} {s : Statement} {row : List Statement}
    (h : Occurs t id (s :: row)) : Occurs t (id + 1) row :=
  Occurs.right (a := [s]) h

theorem childStatements_of_occurs {t : StatementTree} {parent id : StatementId}
    {row : List SyntaxTree} (h : Occurs t id (preorderAll (viewAll parent id row))) :
    (ids id row).filterMap t.get? = (viewAll parent id row).map statement := by
  induction row generalizing id with
  | nil => rfl
  | cons s r ih =>
    rw [viewAll, preorderAll] at h
    have hr := h.right
    rw [length_preorder_view] at hr
    have hs : t.get? id = some (s.view (some parent) id).statement := by
      cases s with
      | node hd block =>
        rw [view, preorder] at h
        exact h.left.get?
    rw [ids, List.filterMap_cons_some hs, ih hr, viewAll, List.map_cons]

mutual

/-- Going down far enough from a statement shows all that was numbered below it. -/
theorem viewTo_of_occurs {t : StatementTree} {parent : Option StatementId} {id levels : Nat}
    {s : SyntaxTree} (h : Occurs t id (s.view parent id).preorder) (hl : s.size ≤ levels + 1) :
    t.viewTo levels (s.view parent id).statement = s.view parent id := by
  cases s with
  | node hd block =>
    rw [view, preorder] at h
    have hb := h.tail
    rw [size] at hl
    cases levels with
    | zero =>
      cases block with
      | nil => rfl
      | cons s r =>
        cases s
        rw [sizeAll, size] at hl
        omega
    | succ levels =>
      have hc : t.childStatements (view parent id (.node hd block)).statement =
          (viewAll id (id + 1) block).map statement := by
        rw [view]
        exact childStatements_of_occurs hb
      rw [StatementTree.viewTo, hc, List.map_map, viewAll_of_occurs hb (by omega), view]
      rfl

theorem viewAll_of_occurs {t : StatementTree} {parent id levels : Nat} {row : List SyntaxTree}
    (h : Occurs t id (preorderAll (viewAll parent id row))) (hl : sizeAll row ≤ levels + 1) :
    (viewAll parent id row).map (t.viewTo levels ∘ statement) = viewAll parent id row := by
  cases row with
  | nil => rfl
  | cons s r =>
    rw [viewAll, preorderAll] at h
    rw [sizeAll] at hl
    have hr := h.right
    rw [length_preorder_view] at hr
    rw [viewAll, List.map_cons, Function.comp_apply, viewTo_of_occurs h.left (by omega),
      viewAll_of_occurs hr (by omega)]

end

theorem size_arena (s : SyntaxTree) : s.arena.size = s.size := by
  simp [arena, StatementTree.size, length_preorder_view]

theorem rootStatement_arena (s : SyntaxTree) :
    s.arena.rootStatement = .ok (s.view none 0).statement := by
  cases s with
  | node h block =>
    rw [arena, view, preorder]
    rfl

/-- The links of an arena from its root on are those of the syntax tree. -/
theorem view_arena (s : SyntaxTree) :
    s.arena.view (s.view none 0).statement = s.view none 0 := by
  refine viewTo_of_occurs ?_ ?_
  · simp [Occurs, arena]
  · rw [size_arena]
    omega

end SyntaxTree
end YangSchema
