import YangSchema.Index
import YangSchema.Source.Position

/-!
# Statement trees

A tree owns its statements and knows each by its number, in the order in which they were made. A
statement names its parent and its children by number; the operations here keep both directions in
step, and a statement is never put below itself.
-/
namespace YangSchema

abbrev StatementId := Nat

structure Statement where
  id : StatementId
  name : String
  position : Position
  qualifier : Option String := none
  argument : Option String := none
  parent : Option StatementId := none
  children : List StatementId := []
  deriving Repr, DecidableEq, Inhabited

namespace Statement

def keyword (s : Statement) : String :=
  qualifiedKeyword s.qualifier s.name

def origin (s : Statement) : Origin :=
  ⟨s.name, s.position, s.qualifier⟩

def text (s : Statement) : String :=
  s!"Statement \"{s.keyword}\" ({s.position.text})"

end Statement

structure StatementTree where
  statements : Array Statement := #[]
  /-- The number of the root, which need not be that of a statement. -/
  root : Option Int := none
  deriving Repr, DecidableEq, Inhabited

/-- Why an operation on a tree is refused. -/
inductive TreeFault where
  /-- No statement has this number, which may also be below zero. -/
  | noStatement (id : Int)
  | noRoot
  | alreadyParented (statement : String)
  | belowItself (statement : String)
  | replacement (f : IndexFault)
  | noChildren
  | noChildToRemove
  /-- The index at which to insert or to remove is no word. -/
  | indexTooLarge
  deriving Repr, DecidableEq

def TreeFault.message : TreeFault → String
  | noStatement id => s!"No statement with id {id} in this tree"
  | noRoot => "Statement tree has no root"
  | alreadyParented s => s!"{s} already has a parent; remove it from its parent first"
  | belowItself s => s!"{s} cannot become a descendant of itself"
  | replacement f => f.message "list"
  | noChildren => "pop from empty list"
  | noChildToRemove => "pop index out of range"
  | indexTooLarge => "index too large"

namespace StatementTree

def size (t : StatementTree) : Nat :=
  t.statements.size

def contains (t : StatementTree) (id : StatementId) : Bool :=
  id < t.size

def get? (t : StatementTree) (id : StatementId) : Option Statement :=
  t.statements[id]?

def get (t : StatementTree) (id : StatementId) : Except TreeFault Statement :=
  match t.get? id with
  | some s => .ok s
  | none => .error (.noStatement id)

def rootStatement (t : StatementTree) : Except TreeFault Statement :=
  match t.root with
  | some (.ofNat id) => t.get id
  | some id => .error (.noStatement id)
  | none => .error .noRoot

/-- The statement of an id, or the root. -/
def start (t : StatementTree) (id? : Option StatementId) : Except TreeFault Statement :=
  match id? with
  | some id => t.get id
  | none => t.rootStatement

def setRoot (t : StatementTree) (root : Option Int) : StatementTree :=
  { t with root }

/-- Adds a statement without parent and children; its id is the size of the tree before. -/
def add (t : StatementTree) (name : String) (position : Position)
    (qualifier argument : Option String) : StatementTree :=
  { t with
    statements := t.statements.push { id := t.size, name, position, qualifier, argument } }

def modify (t : StatementTree) (id : StatementId) (f : Statement → Statement) : StatementTree :=
  { t with statements := t.statements.modify id f }

def parentOf (t : StatementTree) (id : StatementId) : Except TreeFault (Option Statement) := do
  match (← t.get id).parent with
  | some p => return some (← t.get p)
  | none => return none

def childStatements (t : StatementTree) (s : Statement) : List Statement :=
  s.children.filterMap t.get?

def childrenOf (t : StatementTree) (id : StatementId) : Except TreeFault (List Statement) :=
  (t.get id).map t.childStatements

/-- The children of a statement with a keyword; the qualifier has to be the same. -/
def childrenNamed (t : StatementTree) (s : Statement) (name : String)
    (qualifier : Option String := none) : List Statement :=
  (t.childStatements s).filter fun c => c.name = name && c.qualifier = qualifier

/-- The statements above one, the nearest first. No more are looked for than the tree has. -/
def above (t : StatementTree) : Nat → Statement → List Statement
  | 0, _ => []
  | n + 1, s =>
    match s.parent.bind t.get? with
    | some p => p :: t.above n p
    | none => []

def ancestorsOf (t : StatementTree) (s : Statement) : List Statement :=
  t.above t.size s

def ancestors (t : StatementTree) (id : StatementId) : Except TreeFault (List Statement) :=
  (t.get id).map t.ancestorsOf

/-- A statement that can be put below another: it has no parent, and is not above the other. -/
def insertable (t : StatementTree) (parent : Statement) (child : StatementId) :
    Except TreeFault Statement := do
  let c ← t.get child
  if c.parent.isSome then throw (.alreadyParented c.text)
  if child = parent.id || (t.ancestorsOf parent).any (·.id = child) then
    throw (.belowItself c.text)
  return c

def setParent (t : StatementTree) (id : StatementId) (parent : Option StatementId) :
    StatementTree :=
  t.modify id fun s => { s with parent }

def setChildren (t : StatementTree) (id : StatementId) (children : List StatementId) :
    StatementTree :=
  t.modify id fun s => { s with children }

def insertChild (t : StatementTree) (parent : StatementId) (index : Int) (child : StatementId) :
    Except TreeFault StatementTree := do
  let p ← t.get parent
  let _ ← t.insertable p child
  unless Index.isWord index do throw .indexTooLarge
  let children := p.children.insertIdx (Index.insertPlace p.children.length index) child
  return (t.setChildren parent children).setParent child (some parent)

def appendChild (t : StatementTree) (parent child : StatementId) :
    Except TreeFault StatementTree := do
  t.insertChild parent (← t.get parent).children.length child

/-- Puts a statement in the place of a child; the child becomes detached, and is the second result.
-/
def replaceChild (t : StatementTree) (parent : StatementId) (index : Int) (child : StatementId) :
    Except TreeFault (StatementTree × StatementId) := do
  let p ← t.get parent
  let _ ← t.insertable p child
  match Index.place p.children.length index with
  | .error f => throw (.replacement f)
  | .ok i =>
    let old := p.children.getD i 0
    let t := (t.setParent old none).setChildren parent (p.children.set i child)
    return (t.setParent child (some parent), old)

/-- Takes a child out; it stays in the tree, detached, and is the second result. -/
def removeChild (t : StatementTree) (parent : StatementId) (index : Int) :
    Except TreeFault (StatementTree × StatementId) := do
  let p ← t.get parent
  unless Index.isWord index do throw .indexTooLarge
  match Index.place? p.children.length index with
  | none => throw (if p.children.isEmpty then .noChildren else .noChildToRemove)
  | some i =>
    let old := p.children.getD i 0
    return ((t.setChildren parent (p.children.eraseIdx i)).setParent old none, old)

def detach (t : StatementTree) (id : StatementId) : Except TreeFault StatementTree := do
  let s ← t.get id
  match s.parent with
  | none => return t
  | some parent =>
    let p ← t.get parent
    return (← t.removeChild parent (p.children.idxOf id)).1

def clearChildren (t : StatementTree) (parent : StatementId) :
    Except TreeFault StatementTree := do
  let p ← t.get parent
  return (p.children.foldl (fun t c => t.setParent c none) t).setChildren parent []

/-- Adds a statement as the last child of another. -/
def addBelow (t : StatementTree) (parent : StatementId) (name : String) (position : Position)
    (qualifier argument : Option String) : StatementTree :=
  let child := t.size
  let t := t.add name position qualifier argument
  (t.modify parent fun s => { s with children := s.children ++ [child] }).setParent child
    (some parent)

end StatementTree
end YangSchema
