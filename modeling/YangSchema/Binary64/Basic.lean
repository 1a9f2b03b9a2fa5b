import YangSchema.Rounding

/-!
# Binary floating-point numbers of 64 bits

A finite number is a sign and a whole number of units of `2^-1074`, the distance between the
smallest numbers; at most 53 bits of that whole number, from its leading one on, may differ from
zero. Numbers from outside are rounded to the nearest such multiple, ties to the even neighbour, and
become infinite from `2^1024` on. All arithmetic is exact arithmetic on natural numbers.
-/
namespace YangSchema

inductive Binary64 where
  | nan
  | infinity (negative : Bool)
  | finite (negative : Bool) (units : Nat)
  deriving Repr, DecidableEq, Inhabited

namespace Binary64

/-- Units in one. -/
def one : Nat := Nat.pow 2 1074

/-- The units of the first whole power of two that is too large. -/
def limit : Nat := Nat.pow 2 2098

/-- How many low bits of a whole number are beyond the first 53. -/
def excessBits (n : Nat) : Nat :=
  n.log2 + 1 - 53

/-- The nearest whole number with at most 53 significant bits. -/
def roundBits (num den : Nat) : Nat :=
  let step := Nat.pow 2 (excessBits (num / den))
  roundQuotient num (den * step) * step

def ofUnits (negative : Bool) (units : Nat) : Binary64 :=
  if units < limit then finite negative units else infinity negative

/-- The number nearest to a quotient. -/
def ofQuotient (negative : Bool) (num den : Nat) : Binary64 :=
  ofUnits negative (roundBits (num * one) den)

def ofInt (n : Int) : Binary64 :=
  ofQuotient (n < 0) n.natAbs 1

def zero : Binary64 :=
  finite false 0

/-- `digits * 10 ^ exponent`. Exponents far beyond the largest and the smallest numbers are not
expanded. -/
def ofDecimal (negative : Bool) (digits : Nat) (exponent : Int) : Binary64 :=
  if digits = 0 then finite negative 0
  else
    let top := exponent + (Nat.toDigits 10 digits).length
    if top > 400 then infinity negative
    else if top < -400 then finite negative 0
    else ofQuotient negative (digits * Nat.pow 10 exponent.toNat)
      (Nat.pow 10 (-exponent).toNat)

def isNaN : Binary64 → Bool
  | nan => true
  | _ => false

def isInfinite : Binary64 → Bool
  | infinity _ => true
  | _ => false

/-- Units with their sign; both zeros are equal. -/
def signedUnits (negative : Bool) (units : Nat) : Int :=
  if negative then -(units : Int) else units

/-- The order of the numbers they stand for; nothing compares with a NaN. -/
def le : Binary64 → Binary64 → Bool
  | nan, _ => false
  | _, nan => false
  | infinity true, _ => true
  | _, infinity false => true
  | infinity false, _ => false
  | _, infinity true => false
  | finite s m, finite t n => signedUnits s m ≤ signedUnits t n

def lt (a b : Binary64) : Bool :=
  le a b && !le b a

/-- Equality of the numbers they stand for. -/
def eq (a b : Binary64) : Bool :=
  le a b && le b a

/-- Exact comparison with a whole number. -/
def leInt : Binary64 → Int → Bool
  | nan, _ => false
  | infinity s, _ => s
  | finite s m, n => signedUnits s m ≤ n * one

def geInt : Binary64 → Int → Bool
  | nan, _ => false
  | infinity s, _ => !s
  | finite s m, n => n * one ≤ signedUnits s m

/-- The whole number that a number stands for. -/
def toInt? : Binary64 → Option Int
  | finite s m => if m % one = 0 then some (signedUnits s (m / one)) else none
  | _ => none

end Binary64
end YangSchema
