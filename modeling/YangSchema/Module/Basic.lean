import YangSchema.Calendar
import YangSchema.Name
import YangSchema.Source.Position
import YangSchema.Text.Quoted
import YangSchema.Types.Store

/-!
# Modules

What the header of a module says, its revisions, and the types that it exports in their order.
-/
namespace YangSchema

structure Revision where
  date : Date
  description : Option String := none
  reference : Option String := none
  origin : Option Origin := none
  deriving Repr, DecidableEq

structure YangModule where
  name : String
  namespaceOf : Namespace := .unassigned
  qualifier : Option String := none
  contact : Option String := none
  organization : Option String := none
  description : Option String := none
  reference : Option String := none
  revisions : List Revision := []
  exported : List (QualifiedName × TypeId) := []
  origin : Option Origin := none
  deriving Repr, DecidableEq

/-- The module has not been given a namespace. -/
structure NamespaceMissing where
  module : String
  deriving Repr, DecidableEq

def NamespaceMissing.message (e : NamespaceMissing) : String :=
  s!"Cannot retrieve the qualified name of module {Text.quoted e.module} " ++
    "before its namespace is set"

namespace YangModule

def qualifiedName (m : YangModule) : Except NamespaceMissing QualifiedName :=
  if m.namespaceOf.isValid then .ok ⟨m.namespaceOf, m.name⟩ else .error ⟨m.name⟩

/-- The first of the revisions with the latest date. -/
def latestRevision? (m : YangModule) : Option Revision :=
  m.revisions.foldl
    (fun latest r =>
      match latest with
      | none => some r
      | some l => if l.date.ordinal < r.date.ordinal then some r else some l)
    none

def assignNamespace (m : YangModule) (uri : String) : YangModule :=
  { m with namespaceOf := ⟨some m.name, some uri⟩ }

/-- Exports a type under its name; one of the same name gives way and keeps its place. -/
def exportType (m : YangModule) (name : QualifiedName) (id : TypeId) : YangModule :=
  if m.exported.any (·.1 = name) then
    { m with exported := m.exported.map fun e => if e.1 = name then (name, id) else e }
  else { m with exported := m.exported ++ [(name, id)] }

/-- The last exported type with a local name. -/
def typeNamed? (m : YangModule) (name : String) : Option TypeId :=
  (m.exported.reverse.find? (·.1.name = name)).map (·.2)

end YangModule

/-- A reference to a type by name, which is resolved once all types are known. -/
structure TypeReference where
  name : String
  qualifier : Option String := none
  resolved : Option TypeId := none
  deriving Repr, DecidableEq

/-- The reference has not been resolved. -/
structure Unresolved where
  reference : String
  deriving Repr, DecidableEq

def Unresolved.message (e : Unresolved) : String :=
  s!"Type reference {Text.quoted e.reference} has not been resolved"

namespace TypeReference

def text (r : TypeReference) : String :=
  qualifiedKeyword r.qualifier r.name

def shown (r : TypeReference) : String :=
  let resolved := if r.resolved.isSome then "True" else "False"
  s!"TypeReference({Text.quoted r.text}, resolved={resolved})"

def type (r : TypeReference) : Except Unresolved TypeId :=
  match r.resolved with
  | some id => .ok id
  | none => .error ⟨r.text⟩

end TypeReference
end YangSchema
