import FieldFilter.Calendar.History

/-! Clock changes that come back every year. Such a change falls on a Sunday of a month, at a time
that is counted in universal time from the start of that Sunday.
-/

namespace FieldFilter.Calendar

/-- Which Sunday of a month. -/
inductive Sunday
  | nth (n : Nat)
  | last
  deriving DecidableEq

/-- A change that comes back every year. -/
structure Yearly where
  month : Nat
  sunday : Sunday
  second : Int
  offset : Int

namespace Yearly

/-- The day of the week of a day number, counted from Sunday. The first day of 1970 was a
Thursday. -/
def weekday (day : Int) : Int :=
  (day + 4) % 7

def sundayOf (year : Int) (month : Nat) : Sunday → Int
  | .nth n =>
    let first := Date.dayNumber year month 1
    first + (7 - weekday first) % 7 + 7 * (n - 1 : Nat)
  | .last =>
    let last := Date.dayNumber year month (Date.daysInMonth year month)
    last - weekday last

def change (y : Yearly) (year : Int) : Change :=
  { instant := sundayOf year y.month y.sunday * secondsPerDay + y.second, offset := y.offset }

/-- The changes of the years from `first` through `last`, those of one year in the given
order. -/
def changes (first last : Nat) (yearly : List Yearly) : List Change :=
  (List.range (last + 1 - first)).flatMap fun (n : Nat) =>
    yearly.map fun y => y.change ((first + n : Nat) : Int)

end Yearly

end FieldFilter.Calendar
