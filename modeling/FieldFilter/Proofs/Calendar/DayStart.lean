import FieldFilter.Proofs.Calendar.EarliestInstant

/-! Where a day starts. A date starts when the clock first shows its midnight, or one o'clock when it
never shows that midnight, and the bounds of a day are the instants at which it and the next one
start. An instant of the day is not before these bounds when the clock comes to the date there, and
it is not after them unless the clock was set back.
-/

namespace FieldFilter.Calendar

theorem Date.next?_day {d next : Date} (follows : d.next? = some next) : next.day = d.day + 1 := by
  obtain ⟨_, rfl⟩ := ofDay?_eq_some_iff.mp follows
  rfl

/-- A date that another one follows is not after the last day, nor is the following one. -/
theorem Date.le_lastDay_of_next? {d next : Date} (follows : d.next? = some next)
    : d.day ≤ lastDay ∧ next.day ≤ lastDay := by
  obtain ⟨⟨_, last⟩, rfl⟩ := ofDay?_eq_some_iff.mp follows
  exact ⟨by omega, last⟩

namespace History

variable {h : History} {d : Date} {t : Int}

/-- The day that the clock shows at an instant, counted from 1970-01-01. -/
def dayAt (h : History) (t : Int) : Int :=
  h.readingAt t / secondsPerDay

/-- The clock shows an earlier day as long as its reading is before midnight. -/
theorem dayAt_lt_iff : h.dayAt t < d.day ↔ h.readingAt t < d.midnight :=
  Int.ediv_lt_iff_lt_mul (by decide)

/-- The clock shows the date or a later day as soon as its reading is not before midnight. -/
theorem le_dayAt_iff : d.day ≤ h.dayAt t ↔ d.midnight ≤ h.readingAt t :=
  Int.le_ediv_iff_mul_le (by decide)

theorem dateAt_eq_ok_some_iff
    : h.dateAt t = .ok (some d)
      ↔ inCalendar t = true ∧ Date.ofReading? (h.readingAt t) = some d := by
  unfold dateAt
  by_cases seen : inCalendar t = true
  · cases Date.ofReading? (h.readingAt t) <;> simp [seen]
  · simp [seen]

/-- The search for a date stops at an instant of the calendar at which the clock shows a time
outside of it.
-/
theorem dateAt_eq_error_iff {overrun : Overrun}
    : h.dateAt t = .error overrun
      ↔ inCalendar t = true
        ∧ Date.ofReading? (h.readingAt t) = none
        ∧ overrun = .localTime := by
  unfold dateAt
  by_cases seen : inCalendar t = true
  · cases Date.ofReading? (h.readingAt t) <;> simp [seen, eq_comm]
  · simp [seen]

theorem dateAt?_eq_some_iff
    : h.dateAt? t = some d
      ↔ inCalendar t = true
        ∧ (Date.firstDay ≤ d.day ∧ d.day ≤ Date.lastDay)
        ∧ h.dayAt t = d.day := by
  rw [dateAt?, Reckoning.found?_eq_some_iff, dateAt_eq_ok_some_iff, Date.ofReading?, ← dayAt,
    Date.ofDay?_eq_some_iff]
  refine and_congr_right fun _ => ?_
  constructor
  · rintro ⟨within, rfl⟩
    exact ⟨within, rfl⟩
  · rintro ⟨within, same⟩
    exact ⟨same ▸ within, by rw [same]⟩

-----------------------------------------------------------------------------------------
-- The instant at which a date starts
-----------------------------------------------------------------------------------------

/-- The clock shows the start of a date: its midnight, or one o'clock when it never shows that
midnight.
-/
def ShowsStart (h : History) (d : Date) (t : Int) : Prop :=
  h.readingAt t = d.midnight
  ∨ h.readingAt t = d.midnight + 3600 ∧ ∀ u, h.readingAt u ≠ d.midnight

/-- A date starts at the first instant that shows its start, if the calendar has this instant. -/
structure Starts (h : History) (d : Date) (t : Int) : Prop where
  inCalendar : inCalendar t = true
  shows : h.ShowsStart d t
  first : ∀ u < t, ¬ h.ShowsStart d u

/-- The clock comes to a date when the date starts: until then it shows earlier dates. -/
structure Reaches (h : History) (d : Date) (t : Int) : Prop where
  inCalendar : inCalendar t = true
  shows : h.ShowsStart d t
  before : ∀ u < t, h.dayAt u < d.day

/-- The clock comes to a date once and for all: it is not set back to an earlier one. -/
structure EntersCleanly (h : History) (d : Date) (t : Int) : Prop extends h.Reaches d t where
  since : ∀ u, t ≤ u → d.day ≤ h.dayAt u

/-- The start of a date has that date. -/
theorem ShowsStart.dayAt_eq (shows : h.ShowsStart d t) : h.dayAt t = d.day := by
  have whole : (d.day * secondsPerDay) / secondsPerDay = d.day := Int.mul_ediv_cancel _ (by decide)
  rcases shows with midnight | ⟨one, _⟩
  · rw [dayAt, midnight, Date.midnight, whole]
  · rw [dayAt, one, Date.midnight]
    unfold secondsPerDay
    omega

namespace Starts

/-- The midnight of a date stands for the instant at which the date starts. -/
theorem resolve? (starts : h.Starts d t) (ordered : h.Ordered) (within : d.day ≤ Date.lastDay)
    : h.resolve? d.midnight = some t := by
  rw [h.resolve?_of_lt (Date.midnight_lt within)]
  rcases starts.shows with midnight | ⟨one, skipped⟩
  · have first : h.FirstShows d.midnight t :=
      { shown := midnight, first := fun u early shown => starts.first u early (.inl shown) }
    rw [(shownAt?_eq_some_iff ordered).mpr ⟨first, starts.inCalendar⟩, Option.some_or]
  · have never : h.shownAt? d.midnight = none :=
      (shownAt?_eq_none_iff ordered).mpr fun u _ first => skipped u first.shown
    have first : h.FirstShows (d.midnight + 3600) t :=
      { shown := one
        first := fun u early shown => starts.first u early (.inr ⟨shown, skipped⟩) }
    rw [never, Option.none_or]
    exact (shownAt?_eq_some_iff ordered).mpr ⟨first, starts.inCalendar⟩

/-- The bounds of a day are the instants at which it and the next one start. -/
theorem dayBounds? {next : Date} {stop : Int} (starts : h.Starts d t) (later : h.Starts next stop)
    (follows : d.next? = some next) (ordered : h.Ordered)
    : h.dayBounds? d = some (t, stop) := by
  obtain ⟨own, next⟩ := Date.le_lastDay_of_next? follows
  simp [History.dayBounds?, starts.resolve? ordered own, follows, later.resolve? ordered next]

/-- An instant is before a date starts when no instant up to it shows the start. -/
theorem lt_iff (starts : h.Starts d t) {u : Int} : u < t ↔ ∀ v ≤ u, ¬ h.ShowsStart d v := by
  constructor
  · intro early v bound
    exact starts.first v (by omega)
  · intro none
    refine Int.not_le.mp fun reached => ?_
    exact none t reached starts.shows

end Starts

/-- A date starts when the clock comes to it. -/
theorem Reaches.starts (r : h.Reaches d t) : h.Starts d t := by
  refine { inCalendar := r.inCalendar, shows := r.shows, first := fun u early shows => ?_ }
  have earlier := r.before u early
  have same := shows.dayAt_eq
  omega

/-- An instant with the date is not before the one at which the clock comes to it. -/
theorem Reaches.le (r : h.Reaches d t) {u : Int} (shown : d.day ≤ h.dayAt u) : t ≤ u := by
  refine Int.not_lt.mp fun early => ?_
  have earlier := r.before u early
  omega

/-- Once a clock has come to a date for good, it shows that date or a later one. -/
theorem EntersCleanly.le_iff (clean : h.EntersCleanly d t) {u : Int} : t ≤ u ↔ d.day ≤ h.dayAt u :=
  ⟨clean.since u, clean.toReaches.le⟩

/-- The readings of a clock tell that it comes to a date for good. -/
theorem EntersCleanly.of_readings (seen : Calendar.inCalendar t = true)
    (shows : h.ShowsStart d t) (before : ∀ u < t, h.readingAt u < d.midnight)
    (since : ∀ u, t ≤ u → d.midnight ≤ h.readingAt u)
    : h.EntersCleanly d t :=
  { inCalendar := seen
    shows
    before := fun u early => dayAt_lt_iff.mpr (before u early)
    since := fun u late => le_dayAt_iff.mpr (since u late) }

-----------------------------------------------------------------------------------------
-- Days without bounds
-----------------------------------------------------------------------------------------

/-- Neither the midnight of the date nor the reading one hour later is first shown at an instant of
the calendar.
-/
def MissesStart (h : History) (d : Date) : Prop :=
  ∀ t,
    Calendar.inCalendar t = true
    → ¬ h.FirstShows d.midnight t ∧ ¬ h.FirstShows (d.midnight + 3600) t

/-- A day has no bounds exactly when the clock misses the start of it or of the next one. -/
theorem dayBounds?_eq_none_iff {next : Date} (ordered : h.Ordered) (follows : d.next? = some next)
    : h.dayBounds? d = none ↔ h.MissesStart d ∨ h.MissesStart next := by
  obtain ⟨own, later⟩ := Date.le_lastDay_of_next? follows
  rw [MissesStart, MissesStart, ← resolve?_eq_none_iff ordered (Date.midnight_lt own),
    ← resolve?_eq_none_iff ordered (Date.midnight_lt later)]
  cases own : h.resolve? d.midnight with
  | none => simp [History.dayBounds?, own]
  | some start =>
      cases later : h.resolve? next.midnight <;> simp [History.dayBounds?, own, follows, later]

end History

end FieldFilter.Calendar
