import YangSchema.Text.Numeral

/-!
# Calendar dates

Dates of the Gregorian calendar in the years 1 to 9999.
-/
namespace YangSchema

namespace Calendar

def isLeap (year : Nat) : Bool :=
  year % 4 = 0 && (year % 100 ≠ 0 || year % 400 = 0)

def daysIn (year month : Nat) : Nat :=
  if month = 2 then (if isLeap year then 29 else 28)
  else if [4, 6, 9, 11].contains month then 30
  else 31

inductive DateFault where
  | year (year : Nat)
  | month
  | day
  deriving Repr, DecidableEq

def DateFault.message : DateFault → String
  | year y => s!"year {y} is out of range"
  | month => "month must be in 1..12"
  | day => "day is out of range for month"

/-- What is wrong with three numbers as a date, the year first. -/
def dateFault? (year month day : Nat) : Option DateFault :=
  if year < 1 || 9999 < year then some (.year year)
  else if month < 1 || 12 < month then some .month
  else if day < 1 || daysIn year month < day then some .day
  else none

end Calendar

structure Date where
  year : Nat
  month : Nat
  day : Nat
  valid : Calendar.dateFault? year month day = none
  deriving Repr, DecidableEq

namespace Date

def of (year month day : Nat) : Except Calendar.DateFault Date :=
  match h : Calendar.dateFault? year month day with
  | none => .ok ⟨year, month, day, h⟩
  | some e => .error e

open Text.Numeral in
/-- Four digits of the year, two of the month and two of the day. -/
def iso (d : Date) : String :=
  padded 4 d.year ++ "-" ++ padded 2 d.month ++ "-" ++ padded 2 d.day

/-- A date's place in the order of dates. -/
def ordinal (d : Date) : Nat :=
  (d.year * 100 + d.month) * 100 + d.day

end Date
end YangSchema
