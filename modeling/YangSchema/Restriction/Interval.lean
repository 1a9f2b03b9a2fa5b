import YangSchema.Value

/-!
# Intervals

Intervals with both ends, of whole numbers for lengths and of floating-point numbers for ranges. The
lower end is never above the upper one.
-/
namespace YangSchema

/-- The ends of intervals: how they compare and how they are written. -/
class Bound (α : Type) where
  le : α → α → Bool
  lt : α → α → Bool
  text : α → String
  /-- The text of an end in an interval, where whole numbers have no fraction. -/
  brief : α → String

instance : Bound Int where
  le a b := a ≤ b
  lt a b := a < b
  text := toString
  brief := toString

instance : Bound Binary64 where
  le := Binary64.le
  lt := Binary64.lt
  text := Binary64.text
  brief x :=
    match x.toInt? with
    | some n => toString n
    | none => x.text

structure Interval (α : Type) [Bound α] where
  low : α
  high : α
  ordered : Bound.lt high low = false

namespace Interval
variable {α : Type} [Bound α]

/-- The interval between two ends, unless the lower is above the upper. -/
def of? (low high : α) : Option (Interval α) :=
  if h : Bound.lt high low = false then some ⟨low, high, h⟩ else none

def contains (r : Interval α) (x : α) : Bool :=
  Bound.le r.low x && Bound.le x r.high

/-- Whether both ends are the same number. -/
def isPoint (r : Interval α) : Bool :=
  Bound.le r.low r.high && Bound.le r.high r.low

def text (r : Interval α) : String :=
  if r.isPoint then Bound.brief r.low else Bound.brief r.low ++ ".." ++ Bound.brief r.high

end Interval

def intervalsText {α : Type} [Bound α] (parts : List (Interval α)) : String :=
  " | ".intercalate (parts.map Interval.text)

end YangSchema
