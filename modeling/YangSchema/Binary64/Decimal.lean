import YangSchema.Binary64.Basic

/-!
# Decimal text of a binary number

Three ways to write a number: with the fewest digits that read back (`shortest`), with six
significant digits (`general`) and with a fixed count of decimal places (`fixed`). The last two
round the exact value half to even.
-/
namespace YangSchema.Binary64

/-- `digits * 10 ^ exponent`. -/
structure Decimal where
  digits : Nat
  exponent : Int
  deriving Repr, DecidableEq

/-- The quotient `units / one * 10 ^ (-exponent)` as numerator and denominator. -/
def scaled (units : Nat) (exponent : Int) : Nat × Nat :=
  (units * Nat.pow 10 (-exponent).toNat, one * Nat.pow 10 exponent.toNat)

/-- The exponent of the leading decimal digit of a number above zero. -/
def leadingExponent (units : Nat) : Int :=
  ((Nat.toDigits 10 (units * Nat.pow 10 330 / one)).length : Int) - 331

def readsBack (units : Nat) (d : Decimal) : Bool :=
  ofDecimal false d.digits d.exponent == finite false units

/-- The decimal of a given exponent that reads back and is nearest to a number, of two the even
one. Only the neighbours of the number can be. -/
def nearestReadingBack? (units : Nat) (exponent : Int) : Option Decimal :=
  let (num, den) := scaled units exponent
  let low : Decimal := ⟨num / den, exponent⟩
  let high : Decimal := ⟨num / den + 1, exponent⟩
  let rest := 2 * (num % den)
  let lowFirst := rest < den || (rest = den && low.digits % 2 = 0)
  let order := if lowFirst then [low, high] else [high, low]
  order.find? (readsBack units)

/-- The first exponent, from `top` down, at which a decimal reads back. -/
def shortestFrom (units : Nat) : Nat → Int → Decimal
  | 0, top => ⟨roundQuotient (scaled units top).1 (scaled units top).2, top⟩
  | n + 1, top => (nearestReadingBack? units top).getD (shortestFrom units n (top - 1))

/-- The fewest digits that read back: seventeen always do. -/
def shortest (units : Nat) : Decimal :=
  shortestFrom units 17 (leadingExponent units)

/-- A number rounded to a count of significant digits. -/
def significant (count units : Nat) : Decimal :=
  let exponent := leadingExponent units + 1 - count
  ⟨roundQuotient (scaled units exponent).1 (scaled units exponent).2, exponent⟩

/-- How digits and exponent become text. -/
structure Format where
  /-- The first leading exponent written with a power of ten. -/
  positionalEnd : Int
  /-- Whether a whole number gets a point and a zero. -/
  wholePoint : Bool

/-- A power of ten stands from `1e+16` on. -/
def Format.exact : Format := ⟨16, true⟩

/-- A power of ten stands from `1e+06` on. -/
def Format.general : Format := ⟨6, false⟩

def stripZeros (digits : List Char) : List Char :=
  (digits.reverse.dropWhile (· = '0')).reverse

def exponentText (e : Int) : List Char :=
  'e' :: (if e < 0 then '-' else '+') :: (Nat.toDigits 10 e.natAbs).leftpad 2 '0'

/-- The text of a decimal above zero: positional from `1e-04` on up to the format's end. -/
def Format.text (f : Format) (d : Decimal) : List Char :=
  let all := Nat.toDigits 10 d.digits
  let lead := d.exponent + all.length - 1
  let ds := stripZeros all
  if lead < -4 || f.positionalEnd ≤ lead then
    let head := ds.take 1
    let tail := ds.drop 1
    head ++ (if tail.isEmpty then [] else '.' :: tail) ++ exponentText lead
  else if lead < 0 then
    '0' :: '.' :: List.replicate (-lead - 1).toNat '0' ++ ds
  else
    let n := (lead + 1).toNat
    let whole := ds.take n ++ List.replicate (n - ds.length) '0'
    let fraction := ds.drop n
    if fraction.isEmpty then whole ++ (if f.wholePoint then ['.', '0'] else [])
    else whole ++ '.' :: fraction

def Format.zeroText (f : Format) : List Char :=
  if f.wholePoint then ['0', '.', '0'] else ['0']

def withSign (negative : Bool) (s : List Char) : String :=
  String.ofList (if negative then '-' :: s else s)

/-- The text of a number, from the decimal that `choose` takes for it. -/
def Format.render (f : Format) (choose : Nat → Decimal) : Binary64 → String
  | nan => "nan"
  | infinity s => withSign s ['i', 'n', 'f']
  | finite s 0 => withSign s f.zeroText
  | finite s units => withSign s (f.text (choose units))

def text (x : Binary64) : String :=
  Format.exact.render shortest x

/-- Six significant digits. -/
def general (x : Binary64) : String :=
  Format.general.render (significant 6) x

/-- A fixed count of decimal places. -/
def fixed (places : Nat) : Binary64 → String
  | nan => "nan"
  | infinity s => withSign s ['i', 'n', 'f']
  | finite s units =>
    let n := roundQuotient (units * Nat.pow 10 places) one
    let ds := (Nat.toDigits 10 n).leftpad (places + 1) '0'
    let k := ds.length - places
    withSign s (ds.take k ++ (if places = 0 then [] else '.' :: ds.drop k))

end YangSchema.Binary64
