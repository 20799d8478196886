import SomethingsWrong.Basic

/-! `Calendar`, with as much of `DateTime` as it uses: an instant is the number of ticks
since the beginning of year 1, a Monday. -/
namespace SomethingsWrong.Calendar

def ticksPerDay : Int := 864000000000

/-- `DateTime.TimeOfDay` -/
def timeOfDay (time : Int) : Int := time % ticksPerDay

/-- `DateTime.Date` -/
def date (time : Int) : Int := time - timeOfDay time

inductive DayOfWeek where
  | sunday | monday | tuesday | wednesday | thursday | friday | saturday
  deriving DecidableEq

/-- `DateTime.DayOfWeek` -/
def dayOfWeek (time : Int) : DayOfWeek :=
  match (time / ticksPerDay + 1) % 7 with
  | 0 => .sunday
  | 1 => .monday
  | 2 => .tuesday
  | 3 => .wednesday
  | 4 => .thursday
  | 5 => .friday
  | _ => .saturday

def isLeapYear (year : Int) : Bool := year % 4 == 0 && (year % 100 != 0 || year % 400 == 0)

/-- The days of the year before the first of each month. -/
def daysToMonth (year : Int) (month : Nat) : Int :=
  [0, 31, 59, 90, 120, 151, 181, 212, 243, 273, 304, 334].getD (month - 1) 0 +
    if isLeapYear year && decide (2 < month) then 1 else 0

/-- `new DateTime(year, month, day)` -/
def dateTime (year : Int) (month : Nat) (day : Int) : Int :=
  let y := year - 1
  (y * 365 + y / 4 - y / 100 + y / 400 + daysToMonth year month + day - 1) * ticksPerDay

/-- The lines of `BuildFreeNonHolidayDays` that parse as `d.M.yyyy`. -/
def freeNonHolidayDays : List Int :=
  [(1, 1, 2014), (6, 1, 2014), (21, 4, 2014), (1, 5, 2014), (2, 5, 2014), (8, 6, 2014),
    (19, 6, 2014), (15, 8, 2014), (11, 11, 2014), (24, 12, 2014), (25, 12, 2014),
    (26, 12, 2014)].map fun (day, month, year) => dateTime year month day

def officeHoursStart : Int := timeSpan 8 20 0

def officeHoursEnd : Int := timeSpan 17 0 0

def timeIsInsideWorkingHours (time : Int) : Bool :=
  decide (officeHoursStart ≤ timeOfDay time) && decide (timeOfDay time ≤ officeHoursEnd)

def isHoliday (time : Int) : Bool :=
  dayOfWeek time == .saturday || dayOfWeek time == .sunday ||
    freeNonHolidayDays.contains (date time)

theorem date_eq (time : Int) : date time = time / ticksPerDay * ticksPerDay := by
  unfold date timeOfDay
  have := Int.mul_ediv_add_emod time ticksPerDay
  rw [Int.mul_comm] at this
  omega

theorem timeOfDay_of_day {day t : Int} (hday : timeOfDay day = 0) (h1 : day ≤ t)
    (h2 : t < day + ticksPerDay) : timeOfDay t = t - day ∧ date t = day := by
  simp only [date, timeOfDay, ticksPerDay] at *
  omega

/-- Within one day `IsHoliday` does not change. -/
theorem isHoliday_congr {t t' : Int} (h : date t = date t') : isHoliday t = isHoliday t' := by
  have hday : t / ticksPerDay = t' / ticksPerDay := by
    rw [date_eq, date_eq] at h
    exact Int.eq_of_mul_eq_mul_right (by decide) h
  simp only [isHoliday, dayOfWeek, hday, h]

example : isHoliday (dateTime 2014 6 8 + timeSpan 11 12 13) = true := by decide
example : isHoliday (dateTime 2014 6 9 + timeSpan 12 13 14) = false := by decide
example : isHoliday (dateTime 2014 1 11 + timeSpan 1 2 3) = true := by decide

end SomethingsWrong.Calendar
