import YangSchema.Binary64.Decimal
import YangSchema.Binary64.Reading
import YangSchema.Text.Quoted

/-!
# Run-time values

The values that types parse, serialize and validate. Any of them may be given to any type.
-/
namespace YangSchema

/-- How far a definition can be relied upon. -/
inductive Status where
  | current
  | deprecated
  | obsolete
  deriving Repr, DecidableEq, Inhabited

namespace Status

def name : Status → String
  | current => "current"
  | deprecated => "deprecated"
  | obsolete => "obsolete"

def all : List Status :=
  [current, deprecated, obsolete]

def named? (s : String) : Option Status :=
  all.find? (·.name = s)

/-- The names of all, as messages list them. -/
def allNames : String :=
  ", ".intercalate (all.map name)

end Status

inductive Value where
  | none
  | bool (b : Bool)
  | int (n : Int)
  | float (x : Binary64)
  | string (s : String)
  | bytes (b : List UInt8)
  /-- Bytes that can be changed in place. -/
  | buffer (b : List UInt8)
  | list (items : List Value)
  | status (s : Status)
  deriving Repr, Inhabited

namespace Value

/-- The floating-point number that a value converts to. Numbers that are too large, and values that
are no numbers, do not convert. -/
def toBinary64? : Value → Option Binary64
  | bool b => some (Binary64.ofInt (if b then 1 else 0))
  | int n =>
    let x := Binary64.ofInt n
    if x.isInfinite then Option.none else some x
  | float x => some x
  | string s => Binary64.ofText? s
  | bytes b | buffer b => Binary64.ofBytes? b
  | none | list _ | status _ => Option.none

def text? : Value → Option String
  | string s => some s
  | status s => some s.name
  | _ => Option.none

/-- The characters of a text or the bytes of binary data. -/
def length? : Value → Option Nat
  | string s => some s.length
  | status s => some s.name.length
  | bytes b | buffer b => some b.length
  | _ => Option.none

/-- Bytes in quotes: printable ASCII as it is, the rest by two hexadecimal digits. -/
def byteText (quote : Char) (b : UInt8) : List Char :=
  let c := Char.ofNat b.toNat
  if c.toNat < 127 then Text.escapeChar quote c else '\\' :: 'x' :: Text.hexDigits 2 b.toNat

def bytesText (b : List UInt8) : String :=
  let q := Text.quoteMark (b.map fun x => Char.ofNat x.toNat)
  String.ofList ('b' :: q :: b.flatMap (byteText q) ++ [q])

mutual

/-- How messages show a value. -/
def shown : Value → String
  | none => "None"
  | bool true => "True"
  | bool false => "False"
  | int n => toString n
  | float x => x.text
  | string s => Text.quoted s
  | bytes b => bytesText b
  | buffer b => "bytearray(" ++ bytesText b ++ ")"
  | list items => "[" ++ ", ".intercalate (shownAll items) ++ "]"
  | status s => "<YangStatus." ++ s.name.toUpper ++ ": " ++ Text.quoted s.name ++ ">"

def shownAll : List Value → List String
  | [] => []
  | v :: vs => shown v :: shownAll vs

end

end Value
end YangSchema
