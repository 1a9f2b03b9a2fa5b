/-!
# Qualified names

Two types of one local name in different modules are different, so that names are compared with
their namespaces.
-/
namespace YangSchema

structure Namespace where
  module : Option String := none
  /-- Only the namespace of a module that has not been given one has no URI. -/
  uri : Option String := none
  deriving Repr, DecidableEq, Inhabited

namespace Namespace

def isValid (n : Namespace) : Bool :=
  n.uri.isSome

def text (n : Namespace) : String :=
  "\x7b" ++ n.uri.getD "" ++ "\x7d"

/-- The namespace of the built-in types. -/
def builtIn : Namespace :=
  { uri := some "urn:ietf:params:xml:ns:yang:1" }

/-- The namespace of a module that has not been given one. -/
def unassigned : Namespace := {}

end Namespace

structure QualifiedName where
  namespaceOf : Namespace
  name : String
  deriving Repr, DecidableEq, Inhabited

namespace QualifiedName

def text (n : QualifiedName) : String :=
  n.namespaceOf.text ++ n.name

def builtIn (name : String) : QualifiedName :=
  ⟨.builtIn, name⟩

end QualifiedName
end YangSchema
