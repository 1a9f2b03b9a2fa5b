import YangSchema.Lexer.Basic
import YangSchema.Restriction.Interval

/-!
# Arguments with a meaning

Dates, ranges, lengths, fraction digits and status. Ranges and lengths are parts between bars; a
part is one bound or two with `..` between them, and white space around parts and bounds says
nothing. The parts ascend and do not touch.
-/
namespace YangSchema
open Text

/-- The two arguments that are made of parts. -/
inductive PartKind where
  | range
  | length
  deriving Repr, DecidableEq

namespace PartKind

def name : PartKind → String
  | range => "range"
  | length => "length"

def title : PartKind → String
  | range => "Range"
  | length => "Length"

end PartKind

inductive ArgumentFault where
  | notADate (text : String) (fault : SyntaxFault)
  | afterDate (text : String)
  | emptyPart (kind : PartKind) (text : String)
  | malformedPart (kind : PartKind) (part text : String)
  | notABound (kind : PartKind) (token text : String)
  | fractionalBound (token : String)
  | outsideBase (token : String) (lower upper : Binary64)
  | lengthTooLarge (token : String)
  | reversedPart (kind : PartKind) (low high : String)
  | notAscending (kind : PartKind) (text : String)
  | notFractionDigits (text : String)
  | fractionDigitsOutside (value : Nat)
  | notAStatus (text : String)
  deriving Repr, DecidableEq

def ArgumentFault.message : ArgumentFault → String
  | notADate text fault => s!"Invalid date {quoted text}: {fault.message}"
  | afterDate text => s!"Invalid date {quoted text}: unexpected text after the date"
  | emptyPart kind text => s!"Empty {kind.name} part in {quoted text}"
  | malformedPart kind part text =>
    s!"Malformed {kind.name} part {quoted part} in {quoted text}"
  | notABound kind token text => s!"Invalid {kind.name} bound {quoted token} in {quoted text}"
  | fractionalBound token => s!"Range bound {quoted token} must be an integer"
  | outsideBase token lower upper =>
    s!"Range bound {quoted token} is outside the base type range {lower.general}..{upper.general}"
  | lengthTooLarge token => s!"Length bound {quoted token} is too large"
  | reversedPart kind low high => s!"{kind.title} part {low}..{high} has its bounds reversed"
  | notAscending kind text =>
    s!"{kind.title} parts in {quoted text} must be disjoint and in ascending order"
  | notFractionDigits text => s!"Invalid fraction-digits {quoted text}"
  | fractionDigitsOutside n => s!"fraction-digits must be between 1 and 18, got {n}"
  | notAStatus text => s!"Invalid status {quoted text} (expected one of: {Status.allNames})"

/-- An argument is refused for its form, or because a numeral in it is too long to be read. -/
inductive ArgumentError where
  | fault (f : ArgumentFault)
  | numeral (f : Numeral.Fault)
  deriving Repr, DecidableEq

def ArgumentError.message : ArgumentError → String
  | fault f => f.message
  | numeral f => f.message

abbrev Argument (α : Type) := Except ArgumentError α

namespace Argument

def refuse {α : Type} (f : ArgumentFault) : Argument α :=
  .error (.fault f)

def readNumeral (digits : List Char) : Argument Nat :=
  (Numeral.ofDigits digits).mapError .numeral

/-- A date and nothing after it. -/
def date (text : String) : Argument Date :=
  match Scan.readDate (Cursor.ofText text) with
  | .error e _ => refuse (.notADate text e.fault)
  | .ok d c => if c.atEnd then .ok d else refuse (.afterDate text)

/-- The text before and after the first `..`, if there is one. -/
def cutAtDots : List Char → Option (List Char × List Char)
  | '.' :: '.' :: r => some ([], r)
  | c :: r => (cutAtDots r).map fun (a, b) => (c :: a, b)
  | [] => none

/-- The two bounds of a part, which are the same if it is one bound. -/
def splitPart (kind : PartKind) (text : String) (raw : List Char) :
    Argument (List Char × List Char) :=
  let part := Unicode.trim raw
  if part.isEmpty then refuse (.emptyPart kind text)
  else match cutAtDots part with
    | none => .ok (part, part)
    | some (a, b) =>
      let low := Unicode.trim a
      let high := Unicode.trim b
      if low.isEmpty || high.isEmpty || (cutAtDots high).isSome then
        refuse (.malformedPart kind (String.ofList part) text)
      else .ok (low, high)

def splitParts (kind : PartKind) (text : String) : Argument (List (List Char × List Char)) :=
  (text.toList.splitOn '|').mapM (splitPart kind text)

/-- Each part starts above the end of the one before it. -/
def isAscending {α : Type} [Bound α] : List (Interval α) → Bool
  | a :: b :: r => !Bound.le b.low a.high && isAscending (b :: r)
  | _ => true

/-- The interval of a part, given how a bound is read. -/
def readPart {α : Type} [Bound α] (kind : PartKind) (bound : List Char → Argument α)
    (part : List Char × List Char) : Argument (Interval α) := do
  let low ← bound part.1
  let high ← bound part.2
  match Interval.of? low high with
  | some r => return r
  | none => refuse (.reversedPart kind (String.ofList part.1) (String.ofList part.2))

def readParts {α : Type} [Bound α] (kind : PartKind) (bound : List Char → Argument α)
    (text : String) : Argument (List (Interval α)) := do
  let parts ← splitParts kind text
  let intervals ← parts.mapM (readPart kind bound)
  if isAscending intervals then return intervals else refuse (.notAscending kind text)

/-- A decimal number as it is written in a bound. -/
structure BoundText where
  negative : Bool
  whole : List Char
  /-- The digits after the point, if there is one. -/
  fraction : Option (List Char)
  deriving Repr, DecidableEq

/-- A sign, digits, and perhaps a point with digits after it. -/
def BoundText.of? (token : List Char) : Option BoundText :=
  let (negative, r) := Numeral.splitSign token
  let whole := r.takeWhile Char.isDigit
  match whole, r.dropWhile Char.isDigit with
  | [], _ => none
  | _, [] => some ⟨negative, whole, none⟩
  | _, '.' :: fraction =>
    if Numeral.isNumeral fraction then some ⟨negative, whole, some fraction⟩ else none
  | _, _ => none

def BoundText.value (b : BoundText) : Binary64 :=
  let fraction := b.fraction.getD []
  Binary64.ofDecimal b.negative (Numeral.value (b.whole ++ fraction)) (-fraction.length)

def minKeyword : List Char := ['m', 'i', 'n']

def maxKeyword : List Char := ['m', 'a', 'x']

def rangeBound (text : String) (lower upper : Binary64) (wholeOnly : Bool) (token : List Char) :
    Argument Binary64 :=
  if token = minKeyword then .ok lower
  else if token = maxKeyword then .ok upper
  else match BoundText.of? token with
    | none => refuse (.notABound .range (String.ofList token) text)
    | some b =>
      let shown := String.ofList token
      if wholeOnly && b.fraction.isSome then refuse (.fractionalBound shown)
      else if lower.le b.value && b.value.le upper then .ok b.value
      else refuse (.outsideBase shown lower upper)

/-- A range on a base type with given limits; `wholeOnly` refuses bounds with a fraction. -/
def range (text : String) (lower upper : Binary64) (wholeOnly : Bool) :
    Argument (List (Interval Binary64)) :=
  readParts .range (rangeBound text lower upper wholeOnly) text

def lengthMax : Int := Nat.pow 2 64 - 1

def lengthBound (text : String) (token : List Char) : Argument Int :=
  if token = minKeyword then .ok 0
  else if token = maxKeyword then .ok lengthMax
  else if Numeral.isNumeral token then do
    let n ← readNumeral token
    if lengthMax < n then refuse (.lengthTooLarge (String.ofList token)) else return n
  else refuse (.notABound .length (String.ofList token) text)

def length (text : String) : Argument (List (Interval Int)) :=
  readParts .length (lengthBound text) text

def fractionDigits (text : String) : Argument Nat :=
  if Numeral.isNumeral text.toList then do
    let n ← readNumeral text.toList
    if 1 ≤ n && n ≤ 18 then return n else refuse (.fractionDigitsOutside n)
  else refuse (.notFractionDigits text)

def status (text : String) : Argument Status :=
  match Status.named? text with
  | some s => .ok s
  | none => refuse (.notAStatus text)

end Argument
end YangSchema
