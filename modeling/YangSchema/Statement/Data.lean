import YangSchema.Json
import YangSchema.Statement.View

/-!
# Statements as nested data

A statement as an object with its parts and, under `children`, the objects of its children.
-/
namespace YangSchema

namespace StatementView

def positionMembers (p : Position) : List (String × JsonValue) :=
  [("line", .int p.line), ("column", .int p.column)]

mutual

def toData (positions : Bool) : StatementView → JsonValue
  | mk s cs =>
    .object <|
      [("name", .string s.name), ("prefix", .ofOption s.qualifier),
        ("argument", .ofOption s.argument)] ++
      (if positions then positionMembers s.position else []) ++
      [("children", .array (toDataAll positions cs))]

def toDataAll (positions : Bool) : List StatementView → List JsonValue
  | [] => []
  | v :: vs => toData positions v :: toDataAll positions vs

end

end StatementView

def StatementTree.toData (t : StatementTree) (id? : Option StatementId) (positions : Bool) :
    Except TreeFault JsonValue :=
  (t.start id?).map fun s => (t.view s).toData positions

end YangSchema
