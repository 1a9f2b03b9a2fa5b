import YangSchema.Types.Store

/-!
# Reading, writing and checking values

A type reads and writes as the nearest type of its chain that knows how. A value is checked level by
level from the type to its root, at each level against all restrictions of that level, and the first
that refuses it is told.
-/
namespace YangSchema

/-- The restriction that refuses a value, and the type that has it. -/
structure Violation where
  restriction : Restriction
  level : TypeId

namespace TypeStore

/-- What a type knows of reading and writing by itself. -/
def ownCodec (s : TypeStore) (id : TypeId) : Except TypeFault (Option Codec) :=
  match (s.get id).nature with
  | .derived => .ok none
  | .primitive c => .ok (some c)
  | .decimal64 (some k) => .ok (some (.decimal k))
  | .decimal64 none => .error .unconfigured

/-- The first codec of a row of types. -/
def firstCodec (s : TypeStore) (name : QualifiedName) : List TypeId → Except TypeFault Codec
  | [] => .error (.noCodec name)
  | i :: r =>
    match s.ownCodec i with
    | .error e => .error e
    | .ok (some c) => .ok c
    | .ok none => s.firstCodec name r

def codec (s : TypeStore) (id : TypeId) : Except TypeFault Codec :=
  s.firstCodec (s.get id).name (s.chain id)

/-- Reads a value, which is a literal only if it is a text. -/
def parseValue (s : TypeStore) (id : TypeId) (v : Value) : Except TypeFault (Option Value) := do
  ((← s.codec id).parseValue v).mapError .numeral

def parse (s : TypeStore) (id : TypeId) (text : String) : Except TypeFault (Option Value) :=
  s.parseValue id (.string text)

def serialize (s : TypeStore) (id : TypeId) (v : Value) : Except TypeFault (Option String) := do
  return (← s.codec id).serialize v

/-- The first of some restrictions that refuses a value. -/
def refusal? (v : Value) : List Restriction → Except TypeFault (Option Restriction)
  | [] => .ok none
  | r :: rs =>
    match r.allows v with
    | .error f => .error (.inverted f)
    | .ok true => refusal? v rs
    | .ok false => .ok (some r)

/-- The first restriction of a row of types that refuses a value. -/
def firstViolation? (s : TypeStore) (v : Value) :
    List TypeId → Except TypeFault (Option Violation)
  | [] => .ok none
  | level :: levels =>
    match refusal? v (s.get level).restrictions with
    | .error f => .error f
    | .ok (some r) => .ok (some ⟨r, level⟩)
    | .ok none => s.firstViolation? v levels

/-- The first restriction of a chain that refuses a value. -/
def violation? (s : TypeStore) (id : TypeId) (v : Value) : Except TypeFault (Option Violation) :=
  s.firstViolation? v (s.chain id)

/-- The value of the default of a type. A text is read, and anything else is taken as it is. -/
def defaultValue? (s : TypeStore) (id : TypeId) : Except TypeFault (Option Value) :=
  match s.property id .default with
  | .none => .ok none
  | v => if v.text?.isSome then s.parseValue id v else .ok (some v)

/-- The restriction that refuses the default of a type. A default that is no literal is not told
here. -/
def defaultViolation? (s : TypeStore) (id : TypeId) : Except TypeFault (Option Restriction) := do
  match ← s.defaultValue? id with
  | none => return none
  | some v => return (← s.violation? id v).map (·.restriction)

/-- A text that was checked against a type: whether it is valid, and why not. -/
structure CheckRow where
  value : String
  valid : Bool
  detail : String
  deriving Repr, DecidableEq

/-- The message of a restriction, its own if it has one. -/
def complaint (r : Restriction) : String :=
  match r.notes.errorMessage with
  | none | some "" => r.text
  | some m => m

def check (s : TypeStore) (id : TypeId) (text : String) : Except TypeFault CheckRow := do
  match ← s.parse id text with
  | none => return ⟨text, false, s!"not a valid {s.rootName id} value"⟩
  | some v =>
    match ← s.violation? id v with
    | none => return ⟨text, true, ""⟩
    | some x =>
      let owner := (s.get x.level).name.name
      return ⟨text, false, s!"{complaint x.restriction} (type {owner})"⟩

end TypeStore
end YangSchema
