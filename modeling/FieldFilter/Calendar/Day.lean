import FieldFilter.Calendar.History

/-! Days on a clock. A reading stands for the earliest instant that shows it; when the clock skips
it, the reading one hour later is taken instead. A day runs from the instant for its midnight to
that for the next midnight. Near the ends of the calendar a calculation may come to a time that the
calendar does not have. It does not come to nothing then; it stops.
-/

namespace FieldFilter.Calendar

/-- How a calculation leaves the calendar: at an instant of it the clock shows a time outside of
it, or the reading one hour after one that the clock skips is outside. -/
inductive Overrun
  | localTime
  | laterHour
  deriving DecidableEq, Repr

/-- What a calculation comes to: something or nothing, unless it leaves the calendar and stops. -/
abbrev Reckoning (α : Type) : Type :=
  Except Overrun (Option α)

/-- What is found by a calculation that does not stop. -/
def Reckoning.found? {α : Type} : Reckoning α → Option α
  | .ok found => found
  | .error _ => none

@[simp] theorem Reckoning.found?_eq_some_iff {α : Type} {x : Reckoning α} {a : α}
    : x.found? = some a ↔ x = .ok (some a) := by
  cases x <;> simp [found?]

/-- The instants at which universal time is within the calendar. -/
def inCalendar (t : Int) : Bool :=
  Date.firstDay * secondsPerDay ≤ t ∧ t < (Date.lastDay + 1) * secondsPerDay

namespace History

/-- The earliest instant that shows a reading; outside of the calendar's years there is none. -/
def shownAt? (h : History) (reading : Int) : Option Int :=
  (h.earliest? reading).filter inCalendar

/-- The instant for a reading, moved one hour on when the clock skips it. In the last hour of the
calendar there is no later reading, and the calculation stops. -/
def resolve (h : History) (reading : Int) : Reckoning Int :=
  match h.shownAt? reading with
  | some t => .ok (some t)
  | none =>
    if reading + 3600 < (Date.lastDay + 1) * secondsPerDay then .ok (h.shownAt? (reading + 3600))
    else .error .laterHour

/-- The instant that is found for a reading. That the calculation stops is not told apart from
that there is no instant. -/
def resolve? (h : History) (reading : Int) : Option Int :=
  (h.resolve reading).found?

/-- The date that the clock shows at an instant of the calendar. Near the ends of the calendar the
clock may show a time outside of it, and the calculation stops. -/
def dateAt (h : History) (t : Int) : Reckoning Date :=
  if inCalendar t then
    match Date.ofReading? (h.readingAt t) with
    | some d => .ok (some d)
    | none => .error .localTime
  else .ok none

/-- The date that is found for an instant. That the calculation stops is not told apart from that
the instant is outside of the calendar. -/
def dateAt? (h : History) (t : Int) : Option Date :=
  (h.dateAt t).found?

/-- The instants at which a date and the following one start. No midnight is in the last hour of
the calendar, so that nothing stops here. -/
def dayBounds? (h : History) (d : Date) : Option (Int × Int) := do
  let start ← h.resolve? d.midnight
  let next ← d.next?
  return (start, ← h.resolve? next.midnight)

/-- The instant at which the day shown at `now` starts, if the clock resolves its midnight. The
present is taken to be an instant that has a date on the clock; at another one, where the
calculation of the date would stop, no start is found. -/
def startOfDay? (h : History) (now : Int) : Option Int :=
  (h.dateAt? now).bind fun today => h.resolve? today.midnight

/-- The instant at which the day shown at `now` starts, or `now` itself. -/
def startOfDay (h : History) (now : Int) : Int :=
  (h.startOfDay? now).getD now

/-- Before the last hour of the calendar nothing stops the search for a reading. -/
theorem resolve_of_lt (h : History) {reading : Int}
    (early : reading + 3600 < (Date.lastDay + 1) * secondsPerDay)
    : h.resolve reading = .ok ((h.shownAt? reading).or (h.shownAt? (reading + 3600))) := by
  unfold resolve
  cases h.shownAt? reading with
  | some t => rfl
  | none => rw [if_pos early, Option.none_or]

theorem resolve?_of_lt (h : History) {reading : Int}
    (early : reading + 3600 < (Date.lastDay + 1) * secondsPerDay)
    : h.resolve? reading = (h.shownAt? reading).or (h.shownAt? (reading + 3600)) := by
  rw [resolve?, h.resolve_of_lt early, Reckoning.found?]

end History

/-- The midnight of a date is not in the last hour of the calendar. -/
theorem Date.midnight_lt {d : Date} (within : d.day ≤ Date.lastDay)
    : d.midnight + 3600 < (Date.lastDay + 1) * secondsPerDay := by
  simp only [Date.midnight, Date.lastDay, secondsPerDay] at within ⊢
  omega

end FieldFilter.Calendar
