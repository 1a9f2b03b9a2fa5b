import YangSchema.Binary64.Decimal
import YangSchema.Calendar
import YangSchema.Text.Numeral
import YangSchema.Text.Quoted

/-!
# Values of a TOML document

The values and the text by which messages show them. A table keeps its keys in the order of the
document.
-/
namespace YangSchema.Toml

/-- A time of day, to the microsecond. -/
structure Clock where
  hour : Nat
  minute : Nat
  second : Nat
  microsecond : Nat := 0
  deriving Repr, DecidableEq

/-- Numbers in the order of a call. Seconds and what is below are left out where they are zero. -/
def Clock.arguments (c : Clock) : List Nat :=
  let seconds :=
    if c.microsecond ≠ 0 then [c.second, c.microsecond]
    else if c.second ≠ 0 then [c.second]
    else []
  c.hour :: c.minute :: seconds

/-- The minutes that a clock is ahead of universal time. -/
structure Offset where
  minutes : Int
  deriving Repr, DecidableEq

/-- A span is shown as days and the seconds that are left, the latter never negative. -/
def Offset.shown (o : Offset) : String :=
  if o.minutes = 0 then "datetime.timezone.utc"
  else
    let seconds := o.minutes * 60
    let days := if seconds < 0 then s!"days={seconds.fdiv 86400}, " else ""
    s!"datetime.timezone(datetime.timedelta({days}seconds={seconds.fmod 86400}))"

inductive Value where
  | string (s : String)
  | integer (n : Int)
  | float (x : Binary64)
  | boolean (b : Bool)
  | date (d : Date)
  | time (c : Clock)
  | moment (d : Date) (c : Clock) (offset : Option Offset)
  | array (items : List Value)
  | table (entries : List (String × Value))
  deriving Repr, Inhabited

namespace Value

def dateArguments (d : Date) : List Nat :=
  [d.year, d.month, d.day]

def call (name : String) (numbers : List Nat) (more : List String) : String :=
  s!"datetime.{name}(" ++ ", ".intercalate (numbers.map toString ++ more) ++ ")"

mutual

/-- How messages show a value. One with a number that is too large to be written is not shown. -/
def shown : Value → Except Text.Numeral.Fault String
  | string s => return Text.quoted s
  | integer n => Text.Numeral.written n
  | float x => return x.text
  | boolean true => return "True"
  | boolean false => return "False"
  | date d => return call "date" (dateArguments d) []
  | time c => return call "time" c.arguments []
  | moment d c offset =>
    return call "datetime" (dateArguments d ++ c.arguments)
      (offset.map fun o => "tzinfo=" ++ o.shown).toList
  | array items => return "[" ++ ", ".intercalate (← shownItems items) ++ "]"
  | table entries => return "\x7b" ++ ", ".intercalate (← shownEntries entries) ++ "\x7d"

def shownItems : List Value → Except Text.Numeral.Fault (List String)
  | [] => return []
  | v :: vs => return (← v.shown) :: (← shownItems vs)

def shownEntries : List (String × Value) → Except Text.Numeral.Fault (List String)
  | [] => return []
  | (k, v) :: r => return (Text.quoted k ++ ": " ++ (← v.shown)) :: (← shownEntries r)

end

end Value
end YangSchema.Toml
