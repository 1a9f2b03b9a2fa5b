/-!
# Decimal numerals

Runs of the ten ASCII digits and their values. A numeral that is read as a whole number may have at
most `maxDigits` digits, leading zeros included; a longer one is refused with its length. No longer
one is written either.
-/
namespace YangSchema.Text.Numeral

def digitValue (c : Char) : Nat :=
  c.toNat - '0'.toNat

def value (digits : List Char) : Nat :=
  digits.foldl (fun n c => 10 * n + digitValue c) 0

/-- One or more ASCII digits. -/
def isNumeral (s : List Char) : Bool :=
  !s.isEmpty && s.all Char.isDigit

def maxDigits : Nat := 4300

/-- Why a row of digits is not read as a number, or a number not written. -/
inductive Fault where
  | empty
  | tooLong (digits : Nat)
  | tooLarge
  deriving Repr, DecidableEq

def Fault.message : Fault → String
  | empty => "invalid literal for int() with base 10: ''"
  | tooLong digits =>
    s!"Exceeds the limit ({maxDigits} digits) for integer string conversion: value has " ++
      s!"{digits} digits; use sys.set_int_max_str_digits() to increase the limit"
  | tooLarge =>
    s!"Exceeds the limit ({maxDigits} digits) for integer string conversion; " ++
      "use sys.set_int_max_str_digits() to increase the limit"

/-- The number of a row of digits. -/
def ofDigits (digits : List Char) : Except Fault Nat :=
  if digits.isEmpty then .error .empty
  else if maxDigits < digits.length then .error (.tooLong digits.length)
  else .ok (value digits)

/-- A sign, if any, and what follows it; `true` is for a minus. -/
def splitSign : List Char → Bool × List Char
  | '+' :: r => (false, r)
  | '-' :: r => (true, r)
  | r => (false, r)

def signed (negative : Bool) (n : Nat) : Int :=
  if negative then -(n : Int) else n

def written (n : Int) : Except Fault String :=
  if Nat.pow 10 maxDigits ≤ n.natAbs then .error .tooLarge else .ok (toString n)

/-- Zeros in front of a number up to a width. -/
def padded (width n : Nat) : String :=
  String.ofList ((Nat.toDigits 10 n).leftpad width '0')

end YangSchema.Text.Numeral
