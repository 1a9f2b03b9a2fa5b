import YangSchema.Base64
import YangSchema.Value

/-!
# Built-in types

Each built-in type reads texts as values and writes values as texts. Reading gives nothing for a
text that is no literal of the type, and writing nothing for a value that the type does not have.
-/
namespace YangSchema
open Text

/-- The limits of an integer type. -/
structure IntegerLimits where
  low : Int
  high : Int
  deriving Repr, DecidableEq

/-- The limits of the integers of so many bits, one of which is the sign. -/
def IntegerLimits.signed (bits : Nat) : IntegerLimits :=
  ⟨-Nat.pow 2 (bits - 1), Nat.pow 2 (bits - 1) - 1⟩

def IntegerLimits.unsigned (bits : Nat) : IntegerLimits :=
  ⟨0, Nat.pow 2 bits - 1⟩

inductive Primitive where
  | empty
  | boolean
  | int8
  | int16
  | int32
  | int64
  | uint8
  | uint16
  | uint32
  | uint64
  | string
  | binary
  | decimal64
  deriving Repr, DecidableEq, Inhabited

namespace Primitive

def name : Primitive → String
  | empty => "empty"
  | boolean => "boolean"
  | int8 => "int8"
  | int16 => "int16"
  | int32 => "int32"
  | int64 => "int64"
  | uint8 => "uint8"
  | uint16 => "uint16"
  | uint32 => "uint32"
  | uint64 => "uint64"
  | string => "string"
  | binary => "binary"
  | decimal64 => "decimal64"

/-- Those that are shared by all types that derive from them. -/
def shared : List Primitive :=
  [empty, boolean, int8, int16, int32, int64, uint8, uint16, uint32, uint64, string, binary]

/-- All; decimal64 is made anew at each use, as it is configured there. -/
def all : List Primitive :=
  shared ++ [decimal64]

def named? (s : String) : Option Primitive :=
  all.find? (·.name = s)

def limits? : Primitive → Option IntegerLimits
  | int8 => some (.signed 8)
  | int16 => some (.signed 16)
  | int32 => some (.signed 32)
  | int64 => some (.signed 64)
  | uint8 => some (.unsigned 8)
  | uint16 => some (.unsigned 16)
  | uint32 => some (.unsigned 32)
  | uint64 => some (.unsigned 64)
  | _ => none

end Primitive

def IntegerLimits.named? (name : String) : Option IntegerLimits :=
  (Primitive.named? name).bind Primitive.limits?

/-- A decimal64 with its fraction digits. -/
structure DecimalScale where
  digits : Nat
  deriving Repr, DecidableEq, Inhabited

namespace DecimalScale

/-- The least value: the least 64-bit integer at this scale, as a floating-point number. -/
def low (s : DecimalScale) : Binary64 :=
  Binary64.ofQuotient true (Nat.pow 2 63) (Nat.pow 10 s.digits)

/-- The greatest value. The greatest 64-bit integer rounds to a power of two first. -/
def high (s : DecimalScale) : Binary64 :=
  Binary64.ofQuotient false (Nat.pow 2 63) (Nat.pow 10 s.digits)

end DecimalScale

inductive Codec where
  | empty
  | boolean
  | integer (limits : IntegerLimits)
  | string
  | binary
  | decimal (scale : DecimalScale)
  deriving Repr, DecidableEq

namespace Codec

/-- The integer of a literal: a sign and digits, with ASCII white space around. -/
def readInteger (s : List Char) : Option (Except Numeral.Fault Int) :=
  let (negative, digits) := Numeral.splitSign (Binary64.trimAscii s)
  if Numeral.isNumeral digits then
    some ((Numeral.ofDigits digits).map (Numeral.signed negative))
  else none

/-- The number of a literal with a point and digits on both its sides. -/
def readDecimal? (s : List Char) : Option Binary64 :=
  let (negative, r) := Numeral.splitSign (Binary64.trimAscii s)
  let whole := r.takeWhile Char.isDigit
  match r.dropWhile Char.isDigit with
  | '.' :: fraction =>
    if !whole.isEmpty && Numeral.isNumeral fraction then
      some (Binary64.ofDecimal negative (Numeral.value (whole ++ fraction)) (-fraction.length))
    else none
  | _ => none

/-- Reads a text. A numeral that is too long to be read is an error. -/
def parse (c : Codec) (text : String) : Except Numeral.Fault (Option Value) :=
  match c with
  | empty => .ok none
  | boolean =>
    .ok (if text = "true" then some (.bool true)
      else if text = "false" then some (.bool false) else none)
  | integer limits =>
    match readInteger text.toList with
    | none => .ok none
    | some (.error e) => .error e
    | some (.ok n) =>
      .ok (if limits.low ≤ n ∧ n ≤ limits.high then some (.int n) else none)
  | string => .ok (some (.string text))
  | binary => .ok ((Base64.decode? text.toList).map .bytes)
  | decimal scale =>
    .ok ((readDecimal? text.toList).bind fun x =>
      if scale.low.le x && x.le scale.high then some (.float x) else none)

/-- Reads a value that may be no text; then it is no literal. A status is a text, which is read as
it is where every text is a literal. -/
def parseValue (c : Codec) (v : Value) : Except Numeral.Fault (Option Value) :=
  match c, v with
  | c, .string s => c.parse s
  | string, .status s => .ok (some (.status s))
  | c, .status s => c.parse s.name
  | _, _ => .ok none

/-- Writes a value. A status is a text too. -/
def serialize (c : Codec) (v : Value) : Option String :=
  match c, v with
  | boolean, .bool b => some (if b then "true" else "false")
  | integer limits, .int n =>
    if limits.low ≤ n ∧ n ≤ limits.high then some (toString n) else none
  | string, .string s => some s
  | string, .status s => some s.name
  | binary, .bytes b | binary, .buffer b => some (String.ofList (Base64.encode b))
  | decimal scale, .int n =>
    if scale.low.leInt n && scale.high.geInt n then
      some ((Binary64.ofInt n).fixed scale.digits)
    else none
  | decimal scale, .float x =>
    if scale.low.le x && x.le scale.high then some (x.fixed scale.digits) else none
  | _, _ => none

end Codec

/-- The codec of a built-in type that needs no configuration. -/
def Primitive.codec? (p : Primitive) : Option Codec :=
  match p with
  | empty => some .empty
  | boolean => some .boolean
  | string => some .string
  | binary => some .binary
  | decimal64 => none
  | _ => p.limits?.map .integer

end YangSchema
