/-!
# Blocks of names

Characters in a row often have names that begin alike. A block tells what all names of such a row
begin with, and how each of them goes on.
-/
namespace YangSchema.Unicode

/-- The names of consecutive characters; semicolons stand between the endings of a row of the text.
-/
structure NameBlock where
  first : Nat
  start : String
  rows : List String
  deriving Repr, DecidableEq

namespace NameBlock

/-- How the names go on, from the first character on. -/
def endings (b : NameBlock) : List (List Char) :=
  b.rows.flatMap fun r => r.toList.splitOn ';'

/-- The character of a block with a name. -/
def find? (b : NameBlock) (name : List Char) : Option Nat :=
  if b.start.toList.isPrefixOf name then
    (b.endings.findIdx? (· == name.drop b.start.length)).map (b.first + ·)
  else none

end NameBlock
end YangSchema.Unicode
