import YangSchema.Unicode.Bounds

/-!
# White space

The white space of all scripts, with the control characters that separate records, and trimming
by it.
-/
namespace YangSchema.Unicode

/-- The code points at which being white space changes. -/
def blankBounds : List Nat :=
  [9, 14, 28, 33, 133, 134, 160, 161, 5760, 5761, 8192, 8203, 8232, 8234, 8239, 8240, 8287, 8288,
   12288, 12289]

def isBlank (c : Char) : Bool :=
  inBounds blankBounds c.toNat

def trimStart (s : List Char) : List Char :=
  s.dropWhile isBlank

def trimEnd (s : List Char) : List Char :=
  (s.reverse.dropWhile isBlank).reverse

def trim (s : List Char) : List Char :=
  trimEnd (trimStart s)

end YangSchema.Unicode
