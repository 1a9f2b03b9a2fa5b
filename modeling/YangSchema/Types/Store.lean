import YangSchema.Name
import YangSchema.Restriction.Basic
import YangSchema.Types.Codec

/-!
# The store of types

A type derives from at most one base and adds restrictions and properties to it. The store knows
each type by its number. Every chain of bases ends, because a type cannot be put on a base that
derives from it.
-/
namespace YangSchema

abbrev TypeId := Nat

/-- The properties that a type takes from its base unless it sets them itself. -/
inductive Property where
  | default
  | description
  | reference
  | status
  | units
  deriving Repr, DecidableEq

namespace Property

def name : Property → String
  | default => "default"
  | description => "description"
  | reference => "reference"
  | status => "status"
  | units => "units"

def all : List Property :=
  [default, description, reference, status, units]

def named? (s : String) : Option Property :=
  all.find? (·.name = s)

/-- The value where no type of a chain sets the property. -/
def fallback : Property → Value
  | status => .status .current
  | _ => .none

end Property

/-- How a type reads and writes by itself. -/
inductive Nature where
  /-- As its base does. -/
  | derived
  | primitive (codec : Codec)
  /-- As a decimal64, once it has its fraction digits. -/
  | decimal64 (scale : Option DecimalScale)
  deriving Repr, DecidableEq, Inhabited

/-- The properties that a type sets itself. A property can be set to no value. -/
abbrev Overrides := List (Property × Value)

structure TypeNode where
  name : QualifiedName
  base : Option TypeId := none
  restrictions : List Restriction := []
  nature : Nature := .derived
  origin : Option Origin := none
  overrides : Overrides := []
  deriving Inhabited

namespace TypeNode

/-- The value a type sets for a property, if it does. -/
def override? (n : TypeNode) (p : Property) : Option Value :=
  n.overrides.lookup p

def set (n : TypeNode) (p : Property) (v : Value) : TypeNode :=
  { n with overrides := (p, v) :: n.overrides.filter (·.1 ≠ p) }

def clear (n : TypeNode) (p : Property) : TypeNode :=
  { n with overrides := n.overrides.filter (·.1 ≠ p) }

def isDecimal64 (n : TypeNode) : Bool :=
  match n.nature with
  | .decimal64 _ => true
  | _ => false

def scale? (n : TypeNode) : Option DecimalScale :=
  match n.nature with
  | .decimal64 s => s
  | _ => none

end TypeNode

/-- A use of a type before it is ready, or against the rules. -/
inductive TypeFault where
  | unconfigured
  | noCodec (name : QualifiedName)
  | ownBase (name : QualifiedName)
  | fractionDigits (digits : Int)
  | notAProperty (name : String)
  | numeral (f : Text.Numeral.Fault)
  | inverted (f : Pattern.InvertedGroup)

def TypeFault.message : TypeFault → String
  | unconfigured => "Cannot parse or serialize decimal64 before setting fraction digits"
  | noCodec n => s!"Missing parsing logic for type {n.text}"
  | ownBase n => s!"Type {n.text} cannot derive from itself"
  | fractionDigits d => s!"fraction-digits must be between 1 and 18, got {d}"
  | notAProperty s => s!"{Text.quoted s} is not an inheritable property"
  | numeral f => f.message
  | inverted f => f.message

structure TypeStore where
  nodes : Array TypeNode := #[]
  deriving Inhabited

namespace TypeStore

def size (s : TypeStore) : Nat :=
  s.nodes.size

def get? (s : TypeStore) (id : TypeId) : Option TypeNode :=
  s.nodes[id]?

def get (s : TypeStore) (id : TypeId) : TypeNode :=
  (s.get? id).getD default

def add (s : TypeStore) (n : TypeNode) : TypeStore :=
  ⟨s.nodes.push n⟩

def modify (s : TypeStore) (id : TypeId) (f : TypeNode → TypeNode) : TypeStore :=
  ⟨s.nodes.modify id f⟩

def primitiveNode (p : Primitive) : TypeNode :=
  { name := .builtIn p.name
    nature := match p.codec? with
      | some c => .primitive c
      | none => .decimal64 none }

/-- The store of the shared built-in types, in their order. -/
def initial : TypeStore :=
  ⟨(Primitive.shared.map primitiveNode).toArray⟩

/-- Finds a built-in type by name. A decimal64 is added anew. -/
def primitive? (s : TypeStore) (name : String) : Option (TypeId × TypeStore) :=
  match Primitive.shared.findIdx? (·.name = name) with
  | some i => some (i, s)
  | none =>
    if name = Primitive.decimal64.name then some (s.size, s.add (primitiveNode .decimal64))
    else none

/-- A type and its bases, no more than so many. -/
def chainTo (s : TypeStore) : Nat → TypeId → List TypeId
  | 0, _ => []
  | n + 1, id =>
    id :: match (s.get id).base with
      | some b => s.chainTo n b
      | none => []

/-- A type and its bases, the root last. -/
def chain (s : TypeStore) (id : TypeId) : List TypeId :=
  s.chainTo s.size id

def root (s : TypeStore) (id : TypeId) : TypeId :=
  (s.chain id).getLastD id

def rootNode (s : TypeStore) (id : TypeId) : TypeNode :=
  s.get (s.root id)

def rootName (s : TypeStore) (id : TypeId) : String :=
  (s.rootNode id).name.name

/-- Puts a type on another base, or on none. -/
def setBase (s : TypeStore) (id : TypeId) (base : Option TypeId) : Except TypeFault TypeStore :=
  if (base.map s.chain).any (·.contains id) then .error (.ownBase (s.get id).name)
  else .ok (s.modify id fun n => { n with base })

def addRestriction (s : TypeStore) (id : TypeId) (r : Restriction) : TypeStore :=
  s.modify id fun n => { n with restrictions := n.restrictions ++ [r] }

/-- Gives a decimal64 its fraction digits. -/
def configure (s : TypeStore) (id : TypeId) (digits : Int) : Except TypeFault TypeStore :=
  if 1 ≤ digits ∧ digits ≤ 18 then
    .ok (s.modify id fun n => { n with nature := .decimal64 (some ⟨digits.toNat⟩) })
  else .error (.fractionDigits digits)

/-- The value of a property: the first that the chain sets, or the fallback. -/
def property (s : TypeStore) (id : TypeId) (p : Property) : Value :=
  ((s.chain id).findSome? fun i => (s.get i).override? p).getD p.fallback

def setProperty (s : TypeStore) (id : TypeId) (p : Property) (v : Value) : TypeStore :=
  s.modify id (·.set p v)

def clearProperty (s : TypeStore) (id : TypeId) (p : Property) : TypeStore :=
  s.modify id (·.clear p)

def isInteger (s : TypeStore) (id : TypeId) : Bool :=
  (IntegerLimits.named? (s.rootName id)).isSome

/-- The least and the greatest number of a numeric type, as floating-point numbers. -/
def numericLimits? (s : TypeStore) (id : TypeId) : Option (Binary64 × Binary64) :=
  let root := s.rootNode id
  if root.isDecimal64 then root.scale?.map fun k => (k.low, k.high)
  else (IntegerLimits.named? root.name.name).map fun l =>
    (Binary64.ofInt l.low, Binary64.ofInt l.high)

/-- How messages show a type: its local name and that of its base. -/
def shown (s : TypeStore) (id : TypeId) : String :=
  let n := s.get id
  match n.base with
  | some b => s!"YangType({n.name.name} <- {(s.get b).name.name})"
  | none => s!"YangType({n.name.name})"

end TypeStore
end YangSchema
