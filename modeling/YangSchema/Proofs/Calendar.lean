import YangSchema.Calendar
import YangSchema.Proofs.Text.Numeral

/-!
# Days of the calendar

Dates are the days of the Gregorian calendar in the years 1 to 9999. Each is written in one way:
with four digits, two and two, and hyphens between them.
-/
namespace YangSchema

namespace Calendar

/-- The months with their last days, leap days apart. -/
def monthEnds : List (Nat × Nat) :=
  [(1, 31), (2, 28), (3, 31), (4, 30), (5, 31), (6, 30), (7, 31), (8, 31), (9, 30), (10, 31),
    (11, 30), (12, 31)]

/-- Every fourth year has a leap day, of the years that end a century only every fourth. -/
inductive IsLeapYear (year : Nat) : Prop where
  | fourth : 4 ∣ year → ¬ 100 ∣ year → IsLeapYear year
  | century : 400 ∣ year → IsLeapYear year

inductive IsDay (year : Nat) : Nat → Nat → Prop where
  | common {month last day : Nat} : (month, last) ∈ monthEnds → 1 ≤ day → day ≤ last →
    IsDay year month day
  | leap : IsLeapYear year → IsDay year 2 29

variable {year month day : Nat}

theorem isLeap_iff : isLeap year = true ↔ IsLeapYear year := by
  simp only [isLeap, Bool.and_eq_true, Bool.or_eq_true, decide_eq_true_eq]
  constructor
  · rintro ⟨h, h' | h'⟩
    · exact .fourth (by omega) (by omega)
    · exact .century (by omega)
  · rintro (⟨h, h'⟩ | h) <;> omega

/-- The leap day is the last one of its month. -/
theorem daysIn_eq {last : Nat} (h : (month, last) ∈ monthEnds) :
    daysIn year month = last + if month = 2 ∧ isLeap year = true then 1 else 0 := by
  simp only [monthEnds, List.mem_cons, Prod.mk.injEq, List.not_mem_nil, or_false] at h
  rcases h with ⟨rfl, rfl⟩ | ⟨rfl, rfl⟩ | ⟨rfl, rfl⟩ | ⟨rfl, rfl⟩ | ⟨rfl, rfl⟩ | ⟨rfl, rfl⟩ |
    ⟨rfl, rfl⟩ | ⟨rfl, rfl⟩ | ⟨rfl, rfl⟩ | ⟨rfl, rfl⟩ | ⟨rfl, rfl⟩ | ⟨rfl, rfl⟩ <;>
    cases hleap : isLeap year <;> simp [daysIn, hleap]

theorem month_of_mem : ∀ e ∈ monthEnds, (1 ≤ e.1 ∧ e.1 ≤ 12) ∧ (e.1 = 2 → e.2 = 28) := by
  decide

theorem exists_monthEnd : ∀ month < 13, 1 ≤ month → ∃ e ∈ monthEnds, e.1 = month := by
  decide

theorem isDay_iff :
    IsDay year month day ↔ (1 ≤ month ∧ month ≤ 12) ∧ 1 ≤ day ∧ day ≤ daysIn year month := by
  constructor
  · rintro (⟨hend, hlow, hhigh⟩ | hleap)
    · rw [daysIn_eq hend]
      exact ⟨(month_of_mem _ hend).1, hlow, by omega⟩
    · simp [daysIn, isLeap_iff.2 hleap]
  · rintro ⟨⟨hlow, hhigh⟩, hday, hlast⟩
    obtain ⟨⟨_, last⟩, hend, rfl⟩ := exists_monthEnd month (by omega) hlow
    rw [daysIn_eq hend] at hlast
    by_cases hle : day ≤ last
    · exact .common hend hday hle
    · -- behind the last day of the table there is only a leap day
      split at hlast
      · next h =>
        obtain ⟨rfl, hleap⟩ := h
        obtain rfl : last = 28 := (month_of_mem _ hend).2 rfl
        obtain rfl : day = 29 := by omega
        exact .leap (isLeap_iff.1 hleap)
      · omega

theorem daysIn_le (year month : Nat) : daysIn year month ≤ 31 := by
  unfold daysIn
  split_ifs <;> omega

/-- Three numbers without a fault are a day of the calendar. -/
theorem dateFault?_eq_none_iff :
    dateFault? year month day = none ↔ (1 ≤ year ∧ year ≤ 9999) ∧ IsDay year month day := by
  rw [isDay_iff]
  simp only [dateFault?, Bool.or_eq_true, decide_eq_true_eq]
  split_ifs <;> simp only [true_iff, false_iff] <;> omega

end Calendar

open Text Numeral

namespace Date

variable {year month day : Nat} {date : Date}

theorem of_eq_ok_iff :
    of year month day = .ok date ↔ date.year = year ∧ date.month = month ∧ date.day = day := by
  unfold of
  constructor
  · intro h
    split at h
    · cases h
      exact ⟨rfl, rfl, rfl⟩
    · cases h
  · rintro ⟨rfl, rfl, rfl⟩
    split
    · rfl
    · next h =>
      rw [date.valid] at h
      cases h

end Date

/-- A text writes three numbers with hyphens between them, the first with four digits and the others
with two. -/
inductive WritesDate : List Char → Nat → Nat → Nat → Prop where
  | intro {ys ms ds : List Char} {year month day : Nat} : IsFixed 4 year ys → IsFixed 2 month ms →
    IsFixed 2 day ds → WritesDate (ys ++ '-' :: (ms ++ '-' :: ds)) year month day

/-- A date is written in one way. -/
theorem writesDate_iff_iso {s : List Char} (d : Date) :
    WritesDate s d.year d.month d.day ↔ s = d.iso.toList := by
  obtain ⟨⟨-, hyear⟩, hday⟩ := Calendar.dateFault?_eq_none_iff.1 d.valid
  obtain ⟨⟨-, hmonth⟩, -, hlast⟩ := Calendar.isDay_iff.1 hday
  have hle := Calendar.daysIn_le d.year d.month
  have hiso : d.iso.toList = (padded 4 d.year).toList ++ '-' ::
      ((padded 2 d.month).toList ++ '-' :: (padded 2 d.day).toList) := by
    simp [Date.iso]
  have hyears {ys : List Char} : IsFixed 4 d.year ys ↔ ys = (padded 4 d.year).toList :=
    isFixed_iff_padded (by decide) (by omega)
  have hmonths {ms : List Char} : IsFixed 2 d.month ms ↔ ms = (padded 2 d.month).toList :=
    isFixed_iff_padded (by decide) (by omega)
  have hdays {ds : List Char} : IsFixed 2 d.day ds ↔ ds = (padded 2 d.day).toList :=
    isFixed_iff_padded (by decide) (by omega)
  rw [hiso]
  constructor
  · rintro ⟨hy, hm, hd⟩
    rw [hyears.1 hy, hmonths.1 hm, hdays.1 hd]
  · rintro rfl
    exact .intro (hyears.2 rfl) (hmonths.2 rfl) (hdays.2 rfl)

end YangSchema
