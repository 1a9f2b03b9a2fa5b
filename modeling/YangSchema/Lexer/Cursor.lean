import YangSchema.Index
import YangSchema.Source.Position

/-!
# Cursors

A cursor stands before the rest of a text and knows how far it has come, in characters and as line
and column. A line ends with a line feed, or with a carriage return that no line feed follows.
-/
namespace YangSchema

structure Cursor where
  rest : List Char
  offset : Nat := 0
  position : Position := ⟨1, 1⟩
  deriving Repr, DecidableEq, Inhabited

namespace Cursor

def ofText (text : String) : Cursor :=
  { rest := text.toList }

def current? (c : Cursor) : Option Char :=
  c.rest.head?

def atEnd (c : Cursor) : Bool :=
  c.rest.isEmpty

/-- Whether a character ends its line, given what follows it. -/
def endsLine (ch : Char) (rest : List Char) : Bool :=
  ch = '\n' || (ch = '\r' && rest.head? ≠ some '\n')

/-- The position after a character. -/
def positionAfter (p : Position) (ch : Char) (rest : List Char) : Position :=
  if endsLine ch rest then ⟨p.line + 1, 1⟩ else ⟨p.line, p.column + 1⟩

/-- Goes past one character; at the end it stays. -/
def advance (c : Cursor) : Cursor :=
  match c.rest with
  | [] => c
  | ch :: rest => ⟨rest, c.offset + 1, positionAfter c.position ch rest⟩

def advanceBy (c : Cursor) : Nat → Cursor
  | 0 => c
  | n + 1 => c.advance.advanceBy n

@[simp]
theorem advance_rest (c : Cursor) : c.advance.rest = c.rest.tail := by
  unfold advance
  split <;> simp_all

@[simp]
theorem advanceBy_rest (c : Cursor) (n : Nat) : (c.advanceBy n).rest = c.rest.drop n := by
  induction n generalizing c with
  | zero => simp [advanceBy]
  | succ n ih => simp [advanceBy, ih]

/-- The character at a place relative to the cursor of a text, none after the end. Places before the
text count from its end. -/
def peek (c : Cursor) (text : List Char) (distance : Int) : Except IndexFault (Option Char) :=
  let place := c.offset + distance
  if text.length ≤ place then .ok none
  else some <$> Index.item text place

end Cursor
end YangSchema
