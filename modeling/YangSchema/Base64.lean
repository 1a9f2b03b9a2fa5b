/-!
# Base64

Bytes in the 64-letter alphabet, four letters for three bytes, and strict reading: only letters,
then only padding that completes the last four.
-/
namespace YangSchema.Base64

def letter (n : Nat) : Char :=
  if n < 26 then Char.ofNat (65 + n)
  else if n < 52 then Char.ofNat (71 + n)
  else if n < 62 then Char.ofNat (n - 4)
  else if n = 62 then '+' else '/'

def letterValue? (c : Char) : Option Nat :=
  if 'A' ≤ c && c ≤ 'Z' then some (c.toNat - 65)
  else if 'a' ≤ c && c ≤ 'z' then some (c.toNat - 71)
  else if c.isDigit then some (c.toNat + 4)
  else if c = '+' then some 62
  else if c = '/' then some 63
  else none

def encode : List UInt8 → List Char
  | [] => []
  | [a] => [letter (a.toNat / 4), letter (a.toNat % 4 * 16), '=', '=']
  | [a, b] =>
    [letter (a.toNat / 4), letter (a.toNat % 4 * 16 + b.toNat / 16),
      letter (b.toNat % 16 * 4), '=']
  | a :: b :: c :: r =>
    letter (a.toNat / 4) :: letter (a.toNat % 4 * 16 + b.toNat / 16) ::
      letter (b.toNat % 16 * 4 + c.toNat / 64) :: letter (c.toNat % 64) :: encode r

/-- The bytes of a row of letter values; bits that fill no byte are dropped. -/
def bytes : List Nat → List UInt8
  | a :: b :: c :: d :: r =>
    UInt8.ofNat (a * 4 + b / 16) :: UInt8.ofNat (b % 16 * 16 + c / 4) ::
      UInt8.ofNat (c % 4 * 64 + d) :: bytes r
  | [a, b, c] => [UInt8.ofNat (a * 4 + b / 16), UInt8.ofNat (b % 16 * 16 + c / 4)]
  | [a, b] => [UInt8.ofNat (a * 4 + b / 16)]
  | _ => []

/-- Padding after a count of letters. After whole fours any amount is let pass, but not before any
letter. -/
def isPadding (letters padding : Nat) : Bool :=
  match letters % 4 with
  | 0 => letters ≠ 0 || padding = 0
  | 2 => padding = 2
  | 3 => padding = 1
  | _ => false

def decode? (s : List Char) : Option (List UInt8) :=
  let data := s.takeWhile (letterValue? · |>.isSome)
  let rest := s.drop data.length
  if rest.all (· = '=') && isPadding data.length rest.length then
    some (bytes (data.filterMap letterValue?))
  else none

end YangSchema.Base64
