import FieldFilter.Proofs.Calendar.DayStart
import FieldFilter.Proofs.Calendar.LiteralRange
import FieldFilter.Proofs.Compile.ConditionRun

/-! Operands that leave the calendar. Only two kinds of conditions calculate with dates. A date
operator stops at an instant of the calendar at which the clock shows a time outside of it, and a
range on a date field stops at a reading in the last hour of the calendar that no instant shows.
-/

namespace FieldFilter

open Calendar (Date History Literal Overrun inCalendar secondsPerDay)

-----------------------------------------------------------------------------------------
-- Operands at the ends of the calendar
-----------------------------------------------------------------------------------------

namespace Operand

variable {h : History} {clock : Clock} {type : FieldType} {operand : Json.Value}
  {overrun : Overrun}

/-- The operand names an instant, by the number of its seconds or as a date literal with its own
offset.
-/
inductive NamesInstant : Json.Value → Int → Prop
  | seconds {n t} (whole : n.word? = some t) : NamesInstant (.number n) t
  | literal {s t} (spelt : Literal.read? s = some (.instant t)) : NamesInstant (.string s) t

/-- The operand names an instant of the calendar at which the clock shows a time outside of it. -/
def IsOffCalendar (h : History) (operand : Json.Value) : Prop :=
  ∃ t, NamesInstant operand t ∧ inCalendar t = true ∧ Date.ofReading? (h.readingAt t) = none

/-- The operand is a date literal for a reading in the last hour of the calendar, and no instant of
the calendar shows it.
-/
inductive IsLateReading (h : History) : Json.Value → Prop
  | intro {s d second} (spelt : Literal.read? s = some (.reading d second))
    (unshown : h.shownAt? (d.midnight + second) = none)
    (late : (Date.lastDay + 1) * secondsPerDay ≤ d.midnight + second + 3600)
    : IsLateReading h (.string s)

theorem NamesInstant.date_eq {t : Int} (named : NamesInstant operand t)
    : date h operand = h.dateAt t := by
  cases named with
  | seconds whole => simp only [date, whole]
  | literal spelt => simp only [date, spelt, Literal.dateOn]

/-- An operand that names no instant has a date or none on every clock, by cases on the operand. -/
theorem exists_namesInstant_or_date_eq_ok (h : History) (operand : Json.Value)
    : (∃ t, NamesInstant operand t) ∨ ∃ found, date h operand = .ok found := by
  cases operand with
  | string s =>
      simp only [date]
      cases spelt : Literal.read? s with
      | none => exact .inr ⟨_, rfl⟩
      | some l =>
          cases l with
          | instant t => exact .inl ⟨t, .literal spelt⟩
          | reading d second | date d => exact .inr ⟨_, rfl⟩
  | number n =>
      simp only [date]
      cases whole : n.word? with
      | none => exact .inr ⟨_, rfl⟩
      | some t => exact .inl ⟨t, .seconds whole⟩
  | _ => exact .inr ⟨_, rfl⟩

theorem date_eq_error_iff
    : date h operand = .error overrun ↔ IsOffCalendar h operand ∧ overrun = .localTime := by
  constructor
  · intro stopped
    rcases exists_namesInstant_or_date_eq_ok h operand with ⟨t, named⟩ | ⟨found, done⟩
    · rw [named.date_eq, History.dateAt_eq_error_iff] at stopped
      obtain ⟨inside, outside, rfl⟩ := stopped
      exact ⟨⟨t, named, inside, outside⟩, rfl⟩
    · cases done.symm.trans stopped
  · rintro ⟨⟨t, named, inside, outside⟩, rfl⟩
    exact named.date_eq.trans (History.dateAt_eq_error_iff.mpr ⟨inside, outside, rfl⟩)

theorem dayBounds_eq_stopped_iff
    : dayBounds clock operand = .error (.stopped overrun)
      ↔ IsOffCalendar clock.zone.history operand ∧ overrun = .localTime := by
  rw [dayBounds, bind_eq_error_iff, Ending.requiring_eq_stopped_iff, date_eq_error_iff]
  refine or_iff_left ?_
  rintro ⟨d, _, refused⟩
  split at refused <;>
    cases refused

/-- A text stops a range for a late reading alone, by cases on the literal that it spells. The
midnight of a date is too early in its day for that.
-/
theorem instant_eq_error_iff {s : String}
    : instant h s = .error overrun ↔ IsLateReading h (.string s) ∧ overrun = .laterHour := by
  constructor
  · intro stopped
    unfold instant at stopped
    split at stopped
    · next l spelt =>
        cases l with
        | instant t => cases stopped
        | reading d second =>
            obtain ⟨unshown, late, rfl⟩ := History.resolve_eq_error_iff.mp stopped
            exact ⟨.intro spelt unshown late, rfl⟩
        | date d =>
            have inside : d.InRange := Literal.inRange_of_read? spelt
            have early := Date.midnight_lt inside.2
            obtain ⟨_, late, _⟩ := History.resolve_eq_error_iff.mp stopped
            omega
    · cases stopped
  · rintro ⟨⟨spelt, unshown, late⟩, rfl⟩
    simp only [instant, spelt]
    exact History.resolve_eq_error_iff.mpr ⟨unshown, late, rfl⟩

-- The calendar ends at seven in the evening in New York.
example : instant .newYork "+262142-12-31 23:30:00" = .error .laterHour := by
  decide +kernel

/-- A bound stops for a late reading on a date field, by cases on the field and on the operand. -/
theorem bound_eq_stopped_iff
    : bound type clock operand = .error (.stopped overrun)
      ↔ type = .date ∧ IsLateReading clock.zone.history operand ∧ overrun = .laterHour := by
  unfold bound
  split
  · rw [map_eq_error_iff, Ending.requiring_eq_stopped_iff, instant_eq_error_iff]
    simp
  · next other =>
      refine iff_of_false (by simp) ?_
      rintro ⟨rfl, ⟨_⟩, _⟩
      exact other _ rfl rfl

/-- A range stops for its first bound, or for the second one after the first. -/
theorem bounds_eq_stopped_iff
    : bounds type clock operand = .error (.stopped overrun)
      ↔ ∃ least greatest,
          operand = .array [least, greatest]
          ∧ (bound type clock least = .error (.stopped overrun)
            ∨ ∃ p,
                bound type clock least = .ok p
                ∧ bound type clock greatest = .error (.stopped overrun)) := by
  unfold bounds
  split
  · next least greatest =>
      simp [bind_eq_error_iff, pure, Except.pure]
  · next items other =>
      refine iff_of_false nofun ?_
      rintro ⟨least, greatest, same, _⟩
      cases same
      exact other _ _ rfl
  · next other =>
      refine iff_of_false nofun ?_
      rintro ⟨least, greatest, rfl, _⟩
      exact other _ rfl

end Operand

-----------------------------------------------------------------------------------------
-- Operators that stop
-----------------------------------------------------------------------------------------

namespace LiteralOperator

/-- The operator stops over its operand on a type of fields: it compares with a date and the operand
is off the calendar, or a bound of its range is a late reading.
-/
inductive Stops (clock : Clock)
    : LiteralOperator → FieldType → Json.Value → Overrun → Prop
  | date {relation type operand}
    (offCalendar : Operand.IsOffCalendar clock.zone.history operand)
    : Stops clock (date relation) type operand .localTime
  | least {least greatest} (late : Operand.IsLateReading clock.zone.history least)
    : Stops clock between .date (.array [least, greatest]) .laterHour
  | greatest {least greatest p} (taken : Operand.bound .date clock least = .ok p)
    (late : Operand.IsLateReading clock.zone.history greatest)
    : Stops clock between .date (.array [least, greatest]) .laterHour

variable {type : FieldType} {c : Column} {clock : Clock} {operand : Json.Value}
  {overrun : Overrun}

theorem between_eq_stopped_iff
    : between.test type c clock operand = .error (.stopped overrun)
      ↔ between.Stops clock type operand overrun := by
  refine map_eq_error_iff.trans (Operand.bounds_eq_stopped_iff.trans ?_)
  simp only [Operand.bound_eq_stopped_iff]
  constructor
  · rintro ⟨least, greatest, rfl, ⟨rfl, late, rfl⟩ | ⟨p, taken, rfl, late, rfl⟩⟩
    · exact .least late
    · exact .greatest taken late
  · rintro (_ | late | ⟨taken, late⟩)
    · exact ⟨_, _, rfl, .inl ⟨rfl, late, rfl⟩⟩
    · exact ⟨_, _, rfl, .inr ⟨_, taken, rfl, late, rfl⟩⟩

theorem date_eq_stopped_iff {relation : Comparison}
    : (date relation).test type c clock operand = .error (.stopped overrun)
      ↔ (date relation).Stops clock type operand overrun := by
  refine map_eq_error_iff.trans (Operand.dayBounds_eq_stopped_iff.trans ?_)
  constructor
  · rintro ⟨offCalendar, rfl⟩
    exact .date offCalendar
  · rintro ⟨offCalendar⟩
    exact ⟨offCalendar, rfl⟩

/-- An operator stops over these operands and no others, by cases on the operator. Most of them only
report what is wrong with an operand.
-/
theorem test_eq_stopped_iff {op : LiteralOperator}
    : op.test type c clock operand = .error (.stopped overrun)
      ↔ op.Stops clock type operand overrun := by
  cases op with
  | between => exact between_eq_stopped_iff
  | date relation => exact date_eq_stopped_iff
  | equal | notEqual =>
      refine iff_of_false (fun stopped => ?_) nofun
      rcases bind_eq_error_iff.mp stopped with failed | ⟨term, _, done⟩
      · simp at failed
      · split at done <;>
          cases done
  | isBlank | isNotBlank | nowGreaterThan | nowLessThan => exact iff_of_false nofun nofun
  | _ =>
      refine iff_of_false (fun stopped => ?_) nofun
      have failed := map_eq_error_iff.mp stopped
      simp at failed

end LiteralOperator

end FieldFilter
