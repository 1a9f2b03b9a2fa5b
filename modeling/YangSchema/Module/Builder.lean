import YangSchema.Module.Basic
import YangSchema.Typedef.Builder

/-!
# Building modules

Reads the header of a module statement and its revisions, and builds its typedefs if it has a
namespace. Other statements are passed over. Only one module is looked at, so that a name from
another one stays unresolved.
-/
namespace YangSchema

/-- What can be told of a module statement: the errors, and the value that is read from it. -/
abbrev Told (α : Type) := α × List SchemaError

namespace ModuleText

def single (tree : StatementTree) (s : Statement) (keyword : String) : Told (Option Statement) :=
  let found := tree.childrenNamed s keyword
  (found.head?, found.tail.map .tooManyInstances)

/-- The argument of a statement that is there, which it has to have. -/
def argument (s : Option Statement) : Told (Option String) :=
  match s with
  | none => (none, [])
  | some s =>
    match s.argument with
    | some a => (some a, [])
    | none => (none, [.argumentExpected s])

def singleArgument (tree : StatementTree) (s : Statement) (keyword : String) :
    Told (Option String) :=
  let (child, repeated) := single tree s keyword
  let (a, missing) := argument child
  (a, repeated ++ missing)

def inRevision : List String :=
  ["description", "reference"]

/-- The children of a revision that may not stand there. -/
def strangers (tree : StatementTree) (s : Statement) : List Statement :=
  (tree.childStatements s).filter fun c => c.qualifier.isNone && !inRevision.contains c.name

/-- A revision, if its argument is a date. -/
def revision (tree : StatementTree) (s : Statement) :
    Except Text.Numeral.Fault (Told (Option Revision)) :=
  match argument (some s) with
  | (none, missing) => .ok (none, missing)
  | (some text, _) =>
    match Argument.date text with
    | .error (.numeral f) => .error f
    | .error (.fault f) => .ok (none, [.argumentParserError s (.fault f)])
    | .ok date =>
      let (description, e₁) := singleArgument tree s "description"
      let (reference, e₂) := singleArgument tree s "reference"
      .ok (some { date, description, reference, origin := some s.origin },
        (strangers tree s).map .unexpectedStatement ++ e₁ ++ e₂)

/-- The revisions of a row of statements; those without a date are left out. -/
def revisions (tree : StatementTree) :
    List Statement → Except Text.Numeral.Fault (Told (List Revision))
  | [] => .ok ([], [])
  | s :: r => do
    let (first, e₁) ← revision tree s
    let (others, e₂) ← revisions tree r
    return (first.toList ++ others, e₁ ++ e₂)

/-- The one version of the language that is known. -/
def supportedVersion : String := "1"

def version (tree : StatementTree) (s : Statement) : List SchemaError :=
  let (child, repeated) := single tree s "yang-version"
  let (a, missing) := argument child
  let unsupported := match child, a with
    | some c, some v => if v = supportedVersion then [] else [.unsupportedYangVersion c v]
    | _, _ => []
  repeated ++ missing ++ unsupported

/-- The argument of a child that a module has to have. -/
def requiredArgument (tree : StatementTree) (s : Statement) (keyword : String) :
    Told (Option String) :=
  let (child, repeated) := single tree s keyword
  match child with
  | none => (none, repeated ++ [.missingRequiredStatement s keyword])
  | some _ =>
    let (a, missing) := argument child
    (a, repeated ++ missing)

/-- The statements that say something of the module as a whole. -/
def headerKeywords : List String :=
  ["yang-version", "namespace", "prefix", "organization", "contact", "description", "reference"]

/-- The keywords of the children that are passed over. -/
def passedOver (tree : StatementTree) (s : Statement) : List String :=
  ((tree.childStatements s).filter fun c =>
    !headerKeywords.contains c.name && !(["revision", "typedef"].contains c.name)).map
    Statement.keyword

/-- A module without its types, from its header. -/
def header (tree : StatementTree) (s : Statement) (name : String) :
    Except Text.Numeral.Fault (Told YangModule) := do
  let e₁ := version tree s
  let (uri, e₂) := requiredArgument tree s "namespace"
  let (qualifier, e₃) := requiredArgument tree s "prefix"
  let (organization, e₄) := singleArgument tree s "organization"
  let (contact, e₅) := singleArgument tree s "contact"
  let (description, e₆) := singleArgument tree s "description"
  let (reference, e₇) := singleArgument tree s "reference"
  let (revisions, e₈) ← revisions tree (tree.childrenNamed s "revision")
  let namespaceOf : Namespace := match uri with
    | some u => ⟨some name, some u⟩
    | none => .unassigned
  return ({ name, namespaceOf, qualifier, contact, organization, description, reference, revisions,
            origin := some s.origin },
    e₁ ++ e₂ ++ e₃ ++ e₄ ++ e₅ ++ e₆ ++ e₇ ++ e₈)

end ModuleText

/-- A module with its types, the errors that were found, and what the log says. The module is there
unless the statement is no named module. -/
structure BuiltModule where
  module : Option YangModule := none
  errors : List SchemaError := []
  store : TypeStore := .initial
  log : List LogLine := []
  deriving Inhabited

/-- A building that ended early: why, and what the log says up to there. -/
structure BrokenModule where
  fault : BuildFault
  log : List LogLine := []

namespace BuiltModule
open ModuleText

def skippedLine (name : String) (keywords : List String) : List LogLine :=
  if keywords.isEmpty then []
  else
    let all := ", ".intercalate keywords
    [⟨.modules, s!"Module {name}: not interpreting {all}"⟩]

def builtLine (m : YangModule) (errors : List SchemaError) : LogLine :=
  ⟨.modules,
    s!"Built module {m.name}: {m.exported.length} types, {errors.length} errors"⟩

def noNamespaceLine (name : String) : LogLine :=
  ⟨.modules, s!"Skipping typedefs of module {name}: no namespace"⟩

/-- A builder for the typedefs of a module. -/
def builderFor (runtime : Runtime) (m : YangModule) : TypeBuilder :=
  { scope := { namespaceOf := m.namespaceOf, qualifier := m.qualifier, runtime } }

/-- Builds the types of a module from its header. -/
def withTypes (runtime : Runtime) (tree : StatementTree) (s : Statement) (m : YangModule)
    (errors : List SchemaError) : Except BrokenModule BuiltModule :=
  if m.namespaceOf.isValid then
    match Build.addTypedefs tree s.id (builderFor runtime m) with
    | .error f b => .error ⟨f, b.log⟩
    | .ok ids b =>
      let m := ids.foldl (fun m id => m.exportType (b.store.get id).name id) m
      .ok { module := some m, errors := errors ++ b.errors, store := b.store, log := b.log }
  else .ok { module := some m, errors, log := [noNamespaceLine m.name] }

def ofStatement (runtime : Runtime) (tree : StatementTree) (s : Statement) :
    Except BrokenModule BuiltModule :=
  if s.qualifier.isSome || s.name ≠ "module" then
    .ok { errors := [.expectedStatement s "module"] }
  else match s.argument with
    | none => .ok { errors := [.argumentExpected s] }
    | some name =>
      match header tree s name with
      | .error f => .error { fault := .numeral f }
      | .ok (m, errors) =>
        (withTypes runtime tree s m errors).map fun built =>
          let last := (built.module.map fun m => builtLine m built.errors).toList
          { built with log := built.log ++ skippedLine name (passedOver tree s) ++ last }

/-- Builds the module of a statement of a tree, or of its root. -/
def of (runtime : Runtime) (tree : StatementTree) (id? : Option StatementId) :
    Except BrokenModule BuiltModule :=
  match tree.start id? with
  | .error f => .error { fault := .tree f }
  | .ok s => ofStatement runtime tree s

end BuiltModule
end YangSchema
