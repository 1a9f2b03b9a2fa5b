import YangSchema.Binary64.Basic
import YangSchema.Text.Numeral
import YangSchema.Unicode.Blank
import YangSchema.Unicode.Decimal

/-!
# Reading a number

White space around, a sign, and digits with a point and a power of ten, or a word for infinity or
NaN. A single underscore may stand between two digits. In text, the digits and the white space of
all scripts count; in bytes, only the ASCII ones.
-/
namespace YangSchema.Binary64
open Text

/-- Tab, line feed, vertical tab, form feed, carriage return and space. -/
def isAsciiBlank (c : Char) : Bool :=
  c = ' ' || (9 ≤ c.toNat && c.toNat ≤ 13)

/-- Writes foreign digits and white space in ASCII. -/
def asciiForm (s : List Char) : List Char :=
  s.map fun c =>
    if c.toNat < 128 then c
    else if Unicode.isBlank c then ' '
    else match Unicode.decimalValue? c with
      | some d => Char.ofNat ('0'.toNat + d)
      | none => c

def trimAscii (s : List Char) : List Char :=
  ((s.dropWhile isAsciiBlank).reverse.dropWhile isAsciiBlank).reverse

/-- Takes out the underscores, if each stands between two digits. -/
def withoutUnderscores? (previous : Char) : List Char → Option (List Char)
  | [] => if previous = '_' then none else some []
  | c :: r =>
    if c = '_' then
      if previous.isDigit then withoutUnderscores? c r else none
    else if previous = '_' && !c.isDigit then none
    else (withoutUnderscores? c r).map (c :: ·)

/-- The power of ten that ends a number. -/
def readExponent? : List Char → Option Int
  | [] => some 0
  | c :: r =>
    if c = 'e' || c = 'E' then
      let (negative, ds) := Numeral.splitSign r
      if Numeral.isNumeral ds then some (Numeral.signed negative (Numeral.value ds)) else none
    else none

/-- The digits, point and power of ten of a number without sign. -/
def readUnsigned? (negative : Bool) (s : List Char) : Option Binary64 :=
  let whole := s.takeWhile Char.isDigit
  let rest := s.dropWhile Char.isDigit
  let (fraction, rest) := match rest with
    | '.' :: r => (r.takeWhile Char.isDigit, r.dropWhile Char.isDigit)
    | r => ([], r)
  if whole.isEmpty && fraction.isEmpty then none
  else (readExponent? rest).map fun e =>
    ofDecimal negative (Numeral.value (whole ++ fraction)) (e - fraction.length)

def readAscii? (s : List Char) : Option Binary64 :=
  (withoutUnderscores? ' ' (trimAscii s)).bind fun t =>
    let (negative, r) := Numeral.splitSign t
    let word := String.ofList (r.map Char.toLower)
    if word = "inf" || word = "infinity" then some (infinity negative)
    else if word = "nan" then some nan
    else readUnsigned? negative r

/-- The number that a text stands for. -/
def ofText? (s : String) : Option Binary64 :=
  readAscii? (asciiForm s.toList)

/-- The number that ASCII bytes stand for. -/
def ofBytes? (bytes : List UInt8) : Option Binary64 :=
  if bytes.all (· < 128) then readAscii? (bytes.map fun b => Char.ofNat b.toNat) else none

end YangSchema.Binary64
