import YangSchema.Unicode.Printable

/-!
# Quoted text

How messages show a text: in single quotes, or in double quotes if it holds a single and no double
one. The quote and the backslash are escaped by a backslash, line feed, carriage return and tab by a
letter, and all that is not printable by its code point in two, four or eight hexadecimal digits.
-/
namespace YangSchema.Text

def hexDigits (width n : Nat) : List Char :=
  (Nat.toDigits 16 n).leftpad width '0'

def escapeChar (quote c : Char) : List Char :=
  if c = '\\' || c = quote then ['\\', c]
  else if c = '\n' then ['\\', 'n']
  else if c = '\r' then ['\\', 'r']
  else if c = '\t' then ['\\', 't']
  else if Unicode.isPrintable c then [c]
  else if c.toNat < 256 then '\\' :: 'x' :: hexDigits 2 c.toNat
  else if c.toNat < 65536 then '\\' :: 'u' :: hexDigits 4 c.toNat
  else '\\' :: 'U' :: hexDigits 8 c.toNat

def quoteMark (s : List Char) : Char :=
  if s.contains '\'' && !s.contains '"' then '"' else '\''

def quotedChars (s : List Char) : List Char :=
  let q := quoteMark s
  q :: s.flatMap (escapeChar q) ++ [q]

def quoted (s : String) : String :=
  String.ofList (quotedChars s.toList)

end YangSchema.Text
