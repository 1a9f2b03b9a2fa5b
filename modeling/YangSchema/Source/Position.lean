/-!
# Places in a source text
-/
namespace YangSchema

/-- A line and a column, both counted from one in a text. -/
structure Position where
  line : Int
  column : Int
  deriving Repr, DecidableEq, Inhabited

def Position.text (p : Position) : String :=
  s!"{p.line}:{p.column}"

/-- A keyword as it is written: an empty qualifier is left out with its colon. -/
def qualifiedKeyword (qualifier : Option String) (name : String) : String :=
  match qualifier with
  | none | some "" => name
  | some q => s!"{q}:{name}"

/-- The statement that an entity comes from. -/
structure Origin where
  keyword : String
  position : Position
  qualifier : Option String := none
  deriving Repr, DecidableEq, Inhabited

def Origin.text (o : Origin) : String :=
  s!"\"{qualifiedKeyword o.qualifier o.keyword}\" ({o.position.text})"

end YangSchema
