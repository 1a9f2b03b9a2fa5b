import YangSchema.Statement.View

/-!
# Canonical text of statements

One statement a line, two spaces for each level, and every argument in double quotes. A line feed in
an argument is written as an escape with spaces after it up to the column of the opening quote;
these are the layout that reading takes away again.
-/
namespace YangSchema

namespace StatementText

/-- A character of an argument in double quotes that open at a column. -/
def escapeChar (column : Int) : Char → List Char
  | '\n' => '\\' :: 'n' :: List.replicate column.toNat ' '
  | '\\' => ['\\', '\\']
  | '"' => ['\\', '"']
  | '\t' => ['\\', 't']
  | '\r' => ['\\', 'r']
  | c => [c]

def quote (argument : List Char) (column : Int) : List Char :=
  '"' :: argument.flatMap (escapeChar column) ++ ['"']

def indent (depth : Nat) : List Char :=
  List.replicate (2 * depth) ' '

/-- A statement up to what ends it or opens its block. -/
def head (depth : Nat) (s : Statement) : List Char :=
  let start := indent depth ++ s.keyword.toList
  match s.argument with
  | none => start
  | some a => start ++ ' ' :: quote a.toList (start.length + 2)

mutual

def lines (depth : Nat) : StatementView → List (List Char)
  | .mk s [] => [head depth s ++ [';']]
  | .mk s (c :: cs) =>
    (head depth s ++ [' ', '\x7b']) :: linesAll (depth + 1) (c :: cs) ++ [indent depth ++ ['\x7d']]

def linesAll (depth : Nat) : List StatementView → List (List Char)
  | [] => []
  | v :: vs => lines depth v ++ linesAll depth vs

end

end StatementText

/-- Quotes an argument for a column; layout for a column before the first is empty. -/
def quoteArgument (argument : String) (column : Int) : String :=
  String.ofList (StatementText.quote argument.toList column)

def StatementView.render (v : StatementView) : String :=
  String.ofList ((StatementText.lines 0 v).flatMap (· ++ ['\n']))

/-- The canonical text of a statement, or of the root. -/
def StatementTree.render (t : StatementTree) (id? : Option StatementId) :
    Except TreeFault String :=
  (t.start id?).map fun s => (t.view s).render

end YangSchema
