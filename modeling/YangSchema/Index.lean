/-!
# Indices

How a whole number picks an item of a row. One from zero on counts from the start, and a negative
one from the end. Indices are signed words of 64 bits.
-/
namespace YangSchema

/-- Why an index picks nothing. -/
inductive IndexFault where
  | outOfRange
  | tooLarge
  deriving Repr, DecidableEq

/-- The message for an index into a row of some kind. -/
def IndexFault.message (kind : String) : IndexFault → String
  | outOfRange => s!"{kind} index out of range"
  | tooLarge => "cannot fit 'int' into an index-sized integer"

namespace Index

def isWord (index : Int) : Bool :=
  let bound : Int := Nat.pow 2 63
  index < bound && -bound ≤ index

def place? (length : Nat) (index : Int) : Option Nat :=
  let place := if index < 0 then length + index else index
  if 0 ≤ place && place < length then some place.toNat else none

/-- The place of the item that an index means, or why there is none. -/
def place (length : Nat) (index : Int) : Except IndexFault Nat :=
  if isWord index then
    match place? length index with
    | some i => .ok i
    | none => .error .outOfRange
  else .error .tooLarge

/-- The place that an index means where something is inserted: one beyond either end is the end. -/
def insertPlace (length : Nat) (index : Int) : Nat :=
  min length (if index < 0 then (length + index).toNat else index.toNat)

def item {α : Type} (row : List α) (index : Int) : Except IndexFault α := do
  match row[← place row.length index]? with
  | some x => return x
  | none => throw .outOfRange

end Index
end YangSchema
