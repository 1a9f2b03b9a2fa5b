/-!
# Parser settings
-/
namespace YangSchema

/-- Which identifiers are refused. -/
inductive IdentifierPolicy where
  /-- Those that begin with "xml" in any letter case. -/
  | yang
  /-- Those that begin with one of `X x M m L l`. -/
  | legacy
  deriving Repr, DecidableEq, Inhabited

namespace IdentifierPolicy

def name : IdentifierPolicy → String
  | yang => "yang"
  | legacy => "legacy"

def all : List IdentifierPolicy :=
  [yang, legacy]

def named? (s : String) : Option IdentifierPolicy :=
  all.find? (·.name = s)

end IdentifierPolicy

structure ParserSettings where
  identifierPolicy : IdentifierPolicy := .yang
  /-- The columns that a tab counts for when layout is stripped from a string. -/
  tabWidth : Int := 8
  deriving Repr, DecidableEq, Inhabited

end YangSchema
