import YangSchema.Statement.Tree

/-!
# Statements with what is below them

A statement together with its descendants, as a tree of its own. Everything that is printed of a
statement is a function of this view.
-/
namespace YangSchema

inductive StatementView where
  | mk (statement : Statement) (children : List StatementView)
  deriving Inhabited

namespace StatementTree

/-- A statement with its descendants, so many levels deep. -/
def viewTo (t : StatementTree) : Nat → Statement → StatementView
  | 0, s => .mk s []
  | n + 1, s => .mk s ((t.childStatements s).map (t.viewTo n))

/-- A statement with its descendants, which are no deeper than the tree has statements. -/
def view (t : StatementTree) (s : Statement) : StatementView :=
  t.viewTo t.size s

end StatementTree

namespace StatementView

def statement : StatementView → Statement
  | mk s _ => s

def children : StatementView → List StatementView
  | mk _ cs => cs

mutual

/-- A statement before its children, and these in their order. -/
def preorder : StatementView → List Statement
  | mk s cs => s :: preorderAll cs

def preorderAll : List StatementView → List Statement
  | [] => []
  | v :: vs => preorder v ++ preorderAll vs

end

end StatementView

/-- The statements from a given one on, or from the root, each before its children. -/
def StatementTree.walk (t : StatementTree) (id? : Option StatementId) :
    Except TreeFault (List Statement) :=
  (t.start id?).map fun s => (t.view s).preorder

end YangSchema
