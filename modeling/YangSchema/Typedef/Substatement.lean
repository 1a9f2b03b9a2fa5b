import YangSchema.SchemaError

/-!
# Sub-statements

Which statements may stand below another, and how many of each. What may not is reported and left
out; statements with a qualifier belong to extensions and are passed over.
-/
namespace YangSchema

/-- A keyword that may stand below a statement. -/
structure Allowed where
  keyword : String
  many : Bool := false
  deriving Repr, DecidableEq

namespace Allowed

def inTypedef : List Allowed :=
  [⟨"type", false⟩, ⟨"default", false⟩, ⟨"description", false⟩, ⟨"reference", false⟩,
    ⟨"status", false⟩, ⟨"units", false⟩]

def inType : List Allowed :=
  [⟨"range", false⟩, ⟨"length", false⟩, ⟨"pattern", true⟩, ⟨"fraction-digits", false⟩]

def inRestriction : List Allowed :=
  [⟨"error-message", false⟩, ⟨"error-app-tag", false⟩, ⟨"description", false⟩,
    ⟨"reference", false⟩]

end Allowed

/-- The statements that were accepted, in their order, and the errors of the others. -/
structure Substatements where
  accepted : List Statement := []
  errors : List SchemaError := []

namespace Substatements

def named (s : Substatements) (keyword : String) : List Statement :=
  s.accepted.filter (·.name = keyword)

/-- Takes one more statement. -/
def take (allowed : List Allowed) (s : Substatements) (child : Statement) : Substatements :=
  if child.qualifier.isSome then s
  else match allowed.find? (·.keyword = child.name) with
    | none => { s with errors := s.errors ++ [.unexpectedStatement child] }
    | some a =>
      if !a.many && !(s.named child.name).isEmpty then
        { s with errors := s.errors ++ [.tooManyInstances child] }
      else { s with accepted := s.accepted ++ [child] }

def of (allowed : List Allowed) (children : List Statement) : Substatements :=
  children.foldl (take allowed) {}

end Substatements
end YangSchema
