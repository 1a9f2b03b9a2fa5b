import YangSchema.Log
import YangSchema.Typedef.Substatement
import YangSchema.Types.Validation

/-!
# Building types

A builder turns the `typedef` and `type` statements of one scope into types. It collects errors and
goes on, so that one pass reports every problem; a typedef that cannot be built is left out. Only a
numeral or a count that is too large to be read, or a type that is used before it is ready, ends a
step.
-/
namespace YangSchema

/-- The names that the types of a scope can be built from, and the interpreter that builds them. -/
structure Scope where
  namespaceOf : Namespace
  /-- The prefix of the scope itself. -/
  qualifier : Option String := none
  imports : List (String × Namespace) := []
  external : List (QualifiedName × TypeId) := []
  runtime : Runtime := {}
  deriving Inhabited

structure TypeBuilder where
  scope : Scope
  store : TypeStore := .initial
  typedefs : List (QualifiedName × TypeId) := []
  errors : List SchemaError := []
  log : List LogLine := []
  deriving Inhabited

/-- What ends a step of a builder. -/
inductive BuildFault where
  | type (f : TypeFault)
  | numeral (f : Text.Numeral.Fault)
  | restriction (f : RestrictionFault)
  | tree (f : TreeFault)

def BuildFault.message : BuildFault → String
  | type f => f.message
  | numeral f => f.message
  | restriction f => f.message
  | tree f => f.message

abbrev Build (α : Type) := EStateM BuildFault TypeBuilder α

/-- A prefix and a name of a reference to a type. The prefix ends at the last colon, and an empty
one is none. -/
structure TypeName where
  qualifier : Option String
  name : String
  deriving Repr, DecidableEq

def TypeName.of (argument : String) : TypeName :=
  let reversed := argument.toList.reverse
  let name := (reversed.takeWhile (· ≠ ':')).reverse
  let before := (reversed.dropWhile (· ≠ ':')).drop 1
  if before.isEmpty then ⟨none, String.ofList name⟩
  else ⟨some (String.ofList before.reverse), String.ofList name⟩

namespace Scope

def qualify (s : Scope) (name : String) : QualifiedName :=
  ⟨s.namespaceOf, name⟩

def isOwn (s : Scope) (qualifier : Option String) : Bool :=
  qualifier.isNone || qualifier = s.qualifier

def importOf? (s : Scope) (qualifier : Option String) : Option Namespace :=
  qualifier.bind fun q => s.imports.lookup q

def knowsPrefix (s : Scope) (qualifier : Option String) : Bool :=
  s.isOwn qualifier || (s.importOf? qualifier).isSome

end Scope

namespace Build

def addErrors (es : List SchemaError) : Build Unit :=
  modify fun b => { b with errors := b.errors ++ es }

def addError (e : SchemaError) : Build Unit :=
  addErrors [e]

def reject {α : Type} (e : SchemaError) : Build (Option α) := do
  addError e
  return none

def ofType {α : Type} : Except TypeFault α → Build α
  | .ok a => return a
  | .error f => throw (.type f)

def ofTree {α : Type} : Except TreeFault α → Build α
  | .ok a => return a
  | .error f => throw (.tree f)

def setStore (store : TypeStore) : Build Unit :=
  modify fun b => { b with store }

def addType (n : TypeNode) : Build TypeId := do
  let store := (← get).store
  setStore (store.add n)
  return store.size

def primitive? (name : String) : Build (Option TypeId) := do
  match (← get).store.primitive? name with
  | none => return none
  | some (id, store) =>
    setStore store
    return some id

/-- Finds the type that a name refers to. Without a prefix that is a typedef of the scope or else a
built-in type, with the scope's own prefix a typedef, and with another one a type of the module that
it stands for. -/
def lookup (t : TypeName) : Build (Option TypeId) := do
  let b ← get
  if b.scope.isOwn t.qualifier then
    match b.typedefs.lookup (b.scope.qualify t.name) with
    | some id => return some id
    | none => if t.qualifier.isNone then primitive? t.name else return none
  else
    match b.scope.importOf? t.qualifier with
    | some n => return b.scope.external.lookup ⟨n, t.name⟩
    | none => return none

def substatements (tree : StatementTree) (allowed : List Allowed) (s : Statement) :
    Build Substatements := do
  let found := Substatements.of allowed (tree.childStatements s)
  addErrors found.errors
  return found

def argument (s : Statement) : Build (Option String) := do
  match s.argument with
  | some a => return some a
  | none => reject (.argumentExpected s)

/-- The argument of the one sub-statement with a keyword, if there is one. -/
def argumentNamed (found : Substatements) (keyword : String) : Build (Option String) :=
  match found.named keyword with
  | [] => return none
  | s :: _ => argument s

/-- The value of an argument that was read; a fault in its form is reported at the statement. -/
def read {α : Type} (s : Statement) : Argument α → Build (Option α)
  | .ok a => return some a
  | .error (.fault f) => reject (.argumentParserError s (.fault f))
  | .error (.numeral f) => throw (.numeral f)

def notes (tree : StatementTree) (s : Statement) : Build Notes := do
  let found ← substatements tree Allowed.inRestriction s
  let errorMessage ← argumentNamed found "error-message"
  let errorAppTag ← argumentNamed found "error-app-tag"
  let description ← argumentNamed found "description"
  let reference ← argumentNamed found "reference"
  return { errorMessage, errorAppTag, description, reference, origin := some s.origin }

def restrictionOf (s : Statement) (notes : Notes) :
    Except RestrictionFault Condition → Build (Option Restriction)
  | .ok condition => return some ⟨condition, notes⟩
  | .error f =>
    if f.isLimit then throw (.restriction f)
    else reject (.argumentParserError s (.restriction f))

def range (tree : StatementTree) (s : Statement) (base : TypeId) (text : String) :
    Build (Option Restriction) := do
  let store := (← get).store
  match store.numericLimits? base with
  | none => reject (.unexpectedStatement s)
  | some (lower, upper) =>
    match ← read s (Argument.range text lower upper (store.isInteger base)) with
    | none => return none
    | some parts => restrictionOf s (← notes tree s) (Condition.ofRanges parts)

def length (tree : StatementTree) (s : Statement) (base : TypeId) (text : String) :
    Build (Option Restriction) := do
  let root := (← get).store.rootName base
  if root = "string" || root = "binary" then
    match ← read s (Argument.length text) with
    | none => return none
    | some parts => restrictionOf s (← notes tree s) (Condition.ofLengths parts)
  else reject (.unexpectedStatement s)

def pattern (tree : StatementTree) (s : Statement) (base : TypeId) (text : String) :
    Build (Option Restriction) := do
  let b ← get
  if b.store.rootName base = "string" then
    restrictionOf s (← notes tree s) (Condition.ofPattern b.scope.runtime text)
  else reject (.unexpectedStatement s)

def restriction (tree : StatementTree) (base : TypeId) (s : Statement) :
    Build (Option Restriction) := do
  match ← argument s with
  | none => return none
  | some text =>
    if s.name = "range" then range tree s base text
    else if s.name = "length" then length tree s base text
    else if s.name = "pattern" then pattern tree s base text
    else return none

/-- The restrictions of statements; those that cannot be built are left out. -/
def restrictions (tree : StatementTree) (base : TypeId) :
    List Statement → Build (List Restriction)
  | [] => return []
  | s :: r => do
    let first ← restriction tree base s
    let others ← restrictions tree base r
    return first.toList ++ others

/-- Gives a decimal64 the fraction digits that a type statement asks for, if it needs them. They
stand below no other type. `none` if the type cannot be used. -/
def fractionDigits (s : Statement) (found : Substatements) (base : TypeId) :
    Build (Option Unit) := do
  let node := (← get).store.get base
  match found.named "fraction-digits" with
  | [] =>
    if node.isDecimal64 && node.scale?.isNone then
      reject (.missingRequiredStatement s "fraction-digits")
    else return some ()
  | d :: _ =>
    if node.isDecimal64 && node.scale?.isNone then
      match ← argument d with
      | none => return none
      | some text =>
        match ← read d (Argument.fractionDigits text) with
        | none => return none
        | some n =>
          setStore (← ofType ((← get).store.configure base n))
          return some ()
    else
      addError (.unexpectedStatement d)
      return some ()

/-- The type that the argument of a type statement names. -/
def baseOf (s : Statement) (text : String) : Build (Option TypeId) := do
  let name := TypeName.of text
  if (← get).scope.knowsPrefix name.qualifier then
    match ← lookup name with
    | some id => return some id
    | none => reject (.unresolvedTypeRef s text)
  else reject (.unknownPrefix s (name.qualifier.getD ""))

/-- The base that a type statement names and the restrictions below it: ranges, then lengths, then
patterns. -/
def resolve (tree : StatementTree) (s : Statement) :
    Build (Option (TypeId × List Restriction)) := do
  match ← argument s with
  | none => return none
  | some text =>
    match ← baseOf s text with
    | none => return none
    | some base =>
      let found ← substatements tree Allowed.inType s
      match ← fractionDigits s found base with
      | none => return none
      | some () =>
        let rs ← restrictions tree base
          (found.named "range" ++ found.named "length" ++ found.named "pattern")
        return some (base, rs)

/-- The type of a type statement. Without restrictions and a name of its own it is the base. -/
def buildType (tree : StatementTree) (id : StatementId) (name : Option QualifiedName) :
    Build (Option TypeId) := do
  let s ← ofTree (tree.get id)
  match ← resolve tree s with
  | none => return none
  | some (base, rs) =>
    if rs.isEmpty && name.isNone then return some base
    else
      let baseName := ((← get).store.get base).name
      let node : TypeNode :=
        { name := name.getD baseName, base := some base, restrictions := rs
          origin := some s.origin }
      return some (← addType node)

/-- The type that a new typedef of a name would hide. -/
def shadowed? (name : String) : Build (Option Referent) := do
  let b ← get
  match b.typedefs.lookup (b.scope.qualify name) with
  | some id =>
    let node := b.store.get id
    return some ⟨node.name.text, node.origin⟩
  | none =>
    match Primitive.named? name with
    | some p => return some ⟨(QualifiedName.builtIn p.name).text, none⟩
    | none => return none

def setProperty (id : TypeId) (p : Property) (v : Value) : Build Unit :=
  modify fun b => { b with store := b.store.setProperty id p v }

def textProperty (id : TypeId) (found : Substatements) (p : Property) : Build Unit := do
  match ← argumentNamed found p.name with
  | some a => setProperty id p (.string a)
  | none => return

def statusProperty (id : TypeId) (found : Substatements) : Build Unit := do
  match found.named "status" with
  | [] => return
  | s :: _ =>
    match ← argument s with
    | none => return
    | some text =>
      match ← read s (Argument.status text) with
      | some v => setProperty id .status (.status v)
      | none => return

def properties (id : TypeId) (found : Substatements) : Build Unit := do
  textProperty id found .default
  textProperty id found .description
  textProperty id found .reference
  textProperty id found .units
  statusProperty id found

/-- Reports a default that is no literal, at the typedef's own default statement if it has one, and
a default that a restriction refuses. -/
def checkDefault (id : TypeId) (found : Substatements) : Build Unit := do
  let store := (← get).store
  match store.property id .default with
  | .none => return
  | v =>
    match ← ofType (store.parseValue id v) with
    | none =>
      match found.named "default" with
      | [] => return
      | s :: _ => addError (.argumentParserError s (.notALiteral v (store.rootName id)))
    | some _ =>
      match ← ofType (store.defaultViolation? id) with
      | none => return
      | some r => addError (.invalidDefault (store.get id).origin r)

def register (name : QualifiedName) (id : TypeId) (base : TypeId) : Build Unit :=
  modify fun b =>
    let told := s!"Built typedef {name.text} deriving from {(b.store.get base).name.text}"
    { b with typedefs := b.typedefs ++ [(name, id)], log := b.log ++ [⟨.typedefs, told⟩] }

/-- Builds the type of a typedef that hides no other. -/
def defineType (tree : StatementTree) (s : Statement) (name : QualifiedName) :
    Build (Option TypeId) := do
  let found ← substatements tree Allowed.inTypedef s
  match found.named "type" with
  | [] => reject (.missingRequiredStatement s "type")
  | t :: _ =>
    match ← resolve tree t with
    | none => return none
    | some (base, rs) =>
      let id ← addType { name, base := some base, restrictions := rs, origin := some s.origin }
      properties id found
      checkDefault id found
      register name id base
      return some id

/-- Builds a typedef and enters it in the scope. -/
def addTypedef (tree : StatementTree) (id : StatementId) : Build (Option TypeId) := do
  let s ← ofTree (tree.get id)
  match ← argument s with
  | none => return none
  | some name =>
    match ← shadowed? name with
    | some r => reject (.shadowedType s r)
    | none => defineType tree s ((← get).scope.qualify name)

def addEach (tree : StatementTree) : List Statement → Build (List TypeId)
  | [] => return []
  | s :: r => do
    let first ← addTypedef tree s.id
    let others ← addEach tree r
    return first.toList ++ others

/-- Builds every typedef below a statement, in the order of the document. -/
def addTypedefs (tree : StatementTree) (parent : StatementId) : Build (List TypeId) := do
  let s ← ofTree (tree.get parent)
  addEach tree (tree.childrenNamed s "typedef")

end Build
end YangSchema
