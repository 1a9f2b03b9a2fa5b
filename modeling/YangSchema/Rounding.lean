/-!
# Rounding
-/
namespace YangSchema

/-- The nearest whole number to a quotient, of two equally near the even one. -/
def roundQuotient (num den : Nat) : Nat :=
  let q := num / den
  let r := num % den
  if 2 * r > den || (2 * r = den && q % 2 = 1) then q + 1 else q

end YangSchema
