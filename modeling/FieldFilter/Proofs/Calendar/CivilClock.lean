import FieldFilter.Proofs.Calendar.DayStart
import FieldFilter.Proofs.Calendar.LiteralRange
import FieldFilter.Proofs.Calendar.ZoneOrder

/-! Clocks of civil time. Such a clock is less than a day away from universal time and changes only in
the thousands of years around 1970, as those of the zones of the database do. What a reading stands
for then has the date of the reading whenever the clock shows the reading at all, also where the
calendar ends.
-/

namespace FieldFilter.Calendar

namespace History

/-- A clock of civil time. Its changes are in order and far from the ends of the calendar, and it is
never more than twenty-three hours away from universal time.
-/
structure Civil (h : History) : Prop where
  ordered : h.Ordered
  initial : h.initial.natAbs ≤ 82800
  changes : ∀ c ∈ h.changes, c.offset.natAbs ≤ 82800 ∧ c.instant.natAbs ≤ 1000000000000

-----------------------------------------------------------------------------------------
-- Offsets
-----------------------------------------------------------------------------------------

/-- The offset at an instant is bounded by those of the changes, by induction on the changes. -/
theorem natAbs_offsetFrom_le {t current : Int} {changes : List Change} {bound : Nat}
    (first : current.natAbs ≤ bound) (later : ∀ c ∈ changes, c.offset.natAbs ≤ bound)
    : (offsetFrom t current changes).natAbs ≤ bound := by
  induction changes generalizing current with
  | nil => exact first
  | cons c changes ih =>
      simp only [offsetFrom]
      split
      · exact first
      · exact ih (later c List.mem_cons_self) fun d member =>
          later d (List.mem_cons_of_mem _ member)

/-- The offset is the same at two instants with no change between them, by induction on the changes.
-/
theorem offsetFrom_congr {t u current : Int} {changes : List Change}
    (same : ∀ c ∈ changes, t < c.instant ↔ u < c.instant)
    : offsetFrom t current changes = offsetFrom u current changes := by
  induction changes generalizing current with
  | nil => rfl
  | cons c changes ih =>
      have later : offsetFrom t c.offset changes = offsetFrom u c.offset changes :=
        ih fun d member => same d (List.mem_cons_of_mem _ member)
      simp only [offsetFrom, same c List.mem_cons_self, later]

variable {h : History}

theorem Civil.natAbs_offsetAt_le (civil : h.Civil) (t : Int) : (h.offsetAt t).natAbs ≤ 82800 :=
  natAbs_offsetFrom_le civil.initial fun c member => (civil.changes c member).1

/-- A clock of civil time keeps its offset long before 1970 and long after. -/
theorem Civil.offsetAt_congr (civil : h.Civil) {t u : Int}
    (apart : t < -1000000000000 ∧ u < -1000000000000 ∨ 1000000000000 < t ∧ 1000000000000 < u)
    : h.offsetAt t = h.offsetAt u := by
  refine offsetFrom_congr fun c member => ?_
  have settled := (civil.changes c member).2
  omega

-----------------------------------------------------------------------------------------
-- Dates of instants
-----------------------------------------------------------------------------------------

/-- The first and the last second of the calendar, in numbers. -/
theorem inCalendar_iff {t : Int}
    : inCalendar t = true ↔ -8334601228800 ≤ t ∧ t < 8210266876800 := by
  rw [inCalendar, decide_eq_true_iff]
  simp only [Date.firstDay, Date.lastDay, secondsPerDay]
  omega

/-- An instant far from the ends of the calendar has a date. -/
theorem Civil.exists_dateAt?_eq_some (civil : h.Civil) {t : Int}
    (near : -100000000000 < t ∧ t < 300000000000)
    : ∃ d, h.dateAt? t = some d := by
  have offset := civil.natAbs_offsetAt_le t
  refine ⟨⟨h.dayAt t⟩, dateAt?_eq_some_iff.mpr ⟨inCalendar_iff.mpr (by omega), ?_, rfl⟩⟩
  simp only [dayAt, readingAt, Date.firstDay, Date.lastDay, secondsPerDay]
  omega

/-- A reading that is shown is shown first at some instant. -/
theorem exists_firstShows {reading u : Int} (ordered : h.Ordered) (shown : h.readingAt u = reading)
    : ∃ t, h.FirstShows reading t := by
  cases found : h.earliest? reading with
  | none => exact absurd shown (instantFrom?_eq_none found u (by simp))
  | some t => exact ⟨t, (earliest?_eq_some_iff ordered).mp found⟩

/-- What a reading of a date stands for has that date, if the clock shows the reading at all. By cases
on whether it is shown first within the calendar: if not, what stands for it is one hour later, and
this is on the same day as the clock is not a whole day ahead of the calendar.
-/
theorem Civil.dateAt?_of_resolve? (civil : h.Civil) {d : Date} {second : Nat} {t u : Int}
    (inside : d.InRange) (before : second < 86400)
    (resolved : h.resolve? (d.midnight + second) = some t)
    (shown : h.readingAt u = d.midnight + second)
    : h.dateAt? t = some d := by
  have days : Date.firstDay ≤ d.day ∧ d.day ≤ Date.lastDay := inside
  rcases resolve?_eq_some_iff.mp resolved with own | ⟨missed, _, later⟩
  · obtain ⟨first, seen⟩ := (shownAt?_eq_some_iff civil.ordered).mp own
    refine dateAt?_eq_some_iff.mpr ⟨seen, days, ?_⟩
    rw [dayAt, first.shown, Date.midnight, secondsPerDay]
    omega
  · obtain ⟨first, seen⟩ := (shownAt?_eq_some_iff civil.ordered).mp later
    obtain ⟨v, earliest⟩ := exists_firstShows civil.ordered shown
    have outside : ¬ inCalendar v = true := fun seen =>
      (shownAt?_eq_none_iff civil.ordered).mp missed v seen earliest
    refine dateAt?_eq_some_iff.mpr ⟨seen, days, ?_⟩
    have shownLater : t + h.offsetAt t = d.day * 86400 + second + 3600 := first.shown
    have shownFirst : v + h.offsetAt v = d.day * 86400 + second := earliest.shown
    have offset := civil.natAbs_offsetAt_le t
    have offsetFirst := civil.natAbs_offsetAt_le v
    rw [inCalendar_iff] at seen outside
    simp only [Date.firstDay, Date.lastDay] at days
    -- Both instants are near one end of the calendar, where the clock does not change.
    have same : h.offsetAt v = h.offsetAt t := civil.offsetAt_congr (by omega)
    simp only [dayAt, readingAt, secondsPerDay]
    omega

end History

-----------------------------------------------------------------------------------------
-- The zones of the carried database
-----------------------------------------------------------------------------------------

namespace ZoneDatabase

theorem clocks_near
    : ∀ entry ∈ clocks,
        entry.2.initial.natAbs ≤ 82800
        ∧ ∀ c ∈ entry.2.changes, c.offset.natAbs ≤ 82800 ∧ c.instant.natAbs ≤ 1000000000000 := by
  decide +kernel

/-- Every zone of the carried database has a clock of civil time. -/
theorem civil_of_find? {name : String} {zone : Zone} (found : carried.find? name = some zone)
    : zone.history.Civil := by
  obtain ⟨names, listed⟩ := exists_mem_clocks found
  obtain ⟨initial, changes⟩ := clocks_near _ listed
  exact { ordered := ordered_of_find? found, initial, changes }

end ZoneDatabase

end FieldFilter.Calendar
