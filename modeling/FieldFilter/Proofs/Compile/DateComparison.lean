import FieldFilter.Proofs.Calendar.DayStart
import FieldFilter.Proofs.Calendar.ZoneOrder
import FieldFilter.Proofs.Compile.ConditionRun
import FieldFilter.Proofs.Sql.Rendering
import FieldFilter.Proofs.Sql.Truth

/-! Comparisons of dates. On a clock that comes to a date and to the next one for good, the six
date operators compare the days of stored instants with the date. An instant as the operand stands
for the day in which it lies, and is in the range of that day unless the clock was set back over the
midnight at its end.
-/

namespace FieldFilter

open Calendar (Date History ZoneDatabase)

-----------------------------------------------------------------------------------------
-- The day of an operand
-----------------------------------------------------------------------------------------

/-- The date operators accept an operand with the bounds of the date that it names. -/
theorem Operand.dayBounds_eq_ok {clock : Clock} {operand : Json.Value} {d : Date}
    {bounds : Int × Int} (named : Operand.date? clock.zone.history operand = some d)
    (bounded : clock.zone.history.dayBounds? d = some bounds)
    : Operand.dayBounds clock operand = .ok bounds := by
  rw [Operand.dayBounds, Ending.requiring_eq_ok_iff.mpr named]
  simp [bounded, bind, Except.bind, pure, Except.pure]

theorem Operand.dayBounds_eq_error {clock : Clock} {operand : Json.Value} {d : Date}
    (named : Operand.date? clock.zone.history operand = some d)
    (unbounded : clock.zone.history.dayBounds? d = none)
    : Operand.dayBounds clock operand = .error (.reported (.dateOutOfRange d)) := by
  rw [Operand.dayBounds, Ending.requiring_eq_ok_iff.mpr named]
  simp [unbounded, bind, Except.bind, throw, throwThe, MonadExceptOf.throw]

-----------------------------------------------------------------------------------------
-- Comparisons of stored instants with a date
-----------------------------------------------------------------------------------------

/-- When the clock comes for good to the date that an operand names, and to the next date, each date
operator accepts the operand, and its test selects the stored instants whose day is in its relation
to that date. So the six tests agree with each other like the comparisons of an order.
-/
theorem LiteralOperator.date_selects_by_day {clock : Clock} {operand : Json.Value} {d next : Date}
    {start stop : Int} (ordered : clock.zone.history.Ordered)
    (named : Operand.date? clock.zone.history operand = some d) (follows : d.next? = some next)
    (enters : clock.zone.history.EntersCleanly d start)
    (leaves : clock.zone.history.EntersCleanly next stop) (type : FieldType) (c : Column)
    : (∀ relation,
        (date relation).test type c clock operand = .ok (.dateIs relation c start stop))
      ∧ ∀ judge t shown,
          StoresInteger judge c t
          → clock.zone.history.dateAt? t = some shown
          → (∀ relation : Comparison,
              (Test.dateIs relation c start stop).Selects judge ↔ relation.Holds shown.day d.day)
            ∧ Comparison.Trichotomous
                fun relation => (Test.dateIs relation c start stop).Selects judge := by
  have bounded := enters.starts.dayBounds? leaves.starts follows ordered
  refine ⟨fun relation => ?_, fun judge t shown stores seen => ?_⟩
  · simp [test, Operand.dayBounds_eq_ok named bounded, Except.map]
  · obtain ⟨_, _, day⟩ := History.dateAt?_eq_some_iff.mp seen
    have starts : start ≤ t ↔ d.day ≤ shown.day := by rw [← day, enters.le_iff]
    have ends : stop ≤ t ↔ d.day + 1 ≤ shown.day := by
      rw [← day, ← Date.next?_day follows, leaves.le_iff]
    have selects := stores.selects_dateIs_iff starts ends
    refine ⟨selects, ?_⟩
    simp only [selects]
    exact Comparison.trichotomous_holds shown.day d.day

/-- A clock in Tokyo, which went from midnight to one o'clock on 1948-05-02. -/
def tokyoClock : Clock :=
  { zone := { name := "Asia/Tokyo", history := .tokyo }, now := 0 }

theorem tokyo_carried : ZoneDatabase.carried.find? "Asia/Tokyo" = some tokyoClock.zone := by
  decide +kernel

theorem tokyoClock_ordered : tokyoClock.zone.history.Ordered :=
  ZoneDatabase.ordered_of_find? tokyo_carried

/-- The clock came to 1948-05-02 at one o'clock, and never showed the midnight before. -/
theorem tokyo_entersCleanly_at_one : History.tokyo.EntersCleanly ⟨-7914⟩ (-683802000) := by
  refine .of_readings (by decide) (.inr ⟨by decide, fun u => ?_⟩) (fun u early => ?_)
    (fun u late => ?_)
  all_goals
    simp only [History.readingAt, History.offsetAt, History.offsetFrom, History.tokyo,
      Date.midnight, Calendar.secondsPerDay]
    omega

theorem tokyo_entersCleanly_next_day : History.tokyo.EntersCleanly ⟨-7913⟩ (-683719200) := by
  refine .of_readings (by decide) (.inl (by decide)) (fun u early => ?_) (fun u late => ?_)
  all_goals
    simp only [History.readingAt, History.offsetAt, History.offsetFrom, History.tokyo,
      Date.midnight, Calendar.secondsPerDay]
    omega

/-- The day without a midnight has 23 hours, and its last second is selected as a part of it. -/
theorem LiteralOperator.date_selects_by_day_tokyo
    : tokyoClock.zone.history.Ordered
      ∧ Operand.date? tokyoClock.zone.history (.string "1948-05-02") = some ⟨-7914⟩
      ∧ tokyoClock.zone.history.EntersCleanly ⟨-7914⟩ (-683802000)
      ∧ tokyoClock.zone.history.EntersCleanly ⟨-7913⟩ (-683719200)
      ∧ (LiteralOperator.date .eq).test .date (.fixed "r.call") tokyoClock (.string "1948-05-02")
        = .ok (.dateIs .eq (.fixed "r.call") (-683802000) (-683719200))
      ∧ (Test.dateIs .eq (.fixed "r.call") (-683802000) (-683719200)).Selects
          (answersFor (-683719201)) := by
  have named : Operand.date? tokyoClock.zone.history (.string "1948-05-02") = some ⟨-7914⟩ := by
    decide +kernel
  have follows : Date.next? ⟨-7914⟩ = some ⟨-7913⟩ := by decide
  obtain ⟨accepts, selects⟩ :=
    LiteralOperator.date_selects_by_day tokyoClock_ordered named follows tokyo_entersCleanly_at_one
      tokyo_entersCleanly_next_day .date (.fixed "r.call")
  obtain ⟨byDay, _⟩ :=
    selects (answersFor (-683719201)) (-683719201) ⟨-7914⟩
      (storesInteger_answersFor (.fixed "r.call") _) (by decide)
  exact ⟨tokyoClock_ordered, named, tokyo_entersCleanly_at_one, tokyo_entersCleanly_next_day,
    accepts .eq, (byDay .eq).mpr rfl⟩

-----------------------------------------------------------------------------------------
-- An instant as the operand
-----------------------------------------------------------------------------------------

/-- A number names the date that the clock shows at that second. The seconds of the calendar have 64
bits.
-/
theorem Operand.date?_integer {history : History} {t : Int} {d : Date}
    (seen : history.dateAt? t = some d)
    : Operand.date? history (.number (.integer t)) = some d := by
  obtain ⟨within, _⟩ := History.dateAt?_eq_some_iff.mp seen
  have fits : Word.Fits t := by
    obtain ⟨least, greatest⟩ := of_decide_eq_true within
    simp only [Date.firstDay, Date.lastDay, Calendar.secondsPerDay] at least greatest
    simp only [Word.Fits, Word.least, Word.greatest]
    omega
  have whole : (Json.Number.integer t).word? = some t := Word.check?_eq_some_iff.mpr ⟨fits, rfl⟩
  simp only [Operand.date?, Operand.date, whole]
  exact seen

/-- The text of the range of one day in a column of its own. -/
theorem Test.text_dateIs_eq (table : ValueTable) (name : String) (start stop : Int)
    : (dateIs .eq (.fixed name) start stop).text table
      = name ++ " >= ? AND " ++ name ++ " < ?" := by
  simp [dateIs, compared, Column.text, Comparison.text, String.append_assoc]

namespace FilterExpr

/-- A condition with a literal compiles to the test of its operator, or fails with what is wrong
with the operand.
-/
theorem compile_literal {table : ValueTable} {clock : Clock} {fields : List Field} {code : String}
    {f : Field} (resolved : Field.resolve? fields code = some f) (op : LiteralOperator)
    (operand : Json.Value)
    : compile table clock fields (some (.condition (.literal code op operand)))
      = match op.test f.type (f.columnAfter 0).1 clock operand with
        | .ok test =>
            .ok
              { predicate := Predicate.parenthesized (test.text table)
                joins := (f.columnAfter 0).2.map (Join.text table)
                params := test.params }
        | .error ending => .error (ending.map (.malformedOperand f.code (.literal op))) := by
  have found := Field.find_eq_ok_iff.mpr resolved
  simp only [compile, plan, Condition.plan, found, bind, Except.bind]
  cases op.test f.type (f.columnAfter 0).1 clock operand with
  | ok test => simp [pure, Except.pure, Except.map, Plan.query, Predicate.text, Predicate.params]
  | error fault => rfl

/-- The condition that a field has the date of an instant. -/
def onDateOf (code : String) (t : Int) : FilterExpr :=
  .condition (.literal code (.date .eq) (.number (.integer t)))

section OnDateOf

variable {clock : Clock} {fields : List Field} {code name : String} {f : Field} {t : Int} {d : Date}
variable (table : ValueTable)

/-- The date of an instant compiles to the range of its day. -/
theorem compile_onDateOf_eq_ok {start stop : Int} (resolved : Field.resolve? fields code = some f)
    (fixed : f.placement = .fixed name) (seen : clock.zone.history.dateAt? t = some d)
    (bounded : clock.zone.history.dayBounds? d = some (start, stop))
    : compile table clock fields (some (onDateOf code t))
      = .ok
          { predicate := "(" ++ (name ++ " >= ? AND " ++ name ++ " < ?") ++ ")"
            joins := []
            params := [.int start, .int stop] } := by
  have bounds := Operand.dayBounds_eq_ok (Operand.date?_integer seen) bounded
  have own : f.columnAfter 0 = (.fixed name, []) := by rw [Field.columnAfter, fixed]
  simp only [onDateOf, compile_literal resolved, LiteralOperator.test, bounds, own, Except.map,
    Test.text_dateIs_eq]
  rfl

theorem compile_onDateOf_eq_error (resolved : Field.resolve? fields code = some f)
    (seen : clock.zone.history.dateAt? t = some d)
    (unbounded : clock.zone.history.dayBounds? d = none)
    : compile table clock fields (some (onDateOf code t))
      = .error
          (.reported (.malformedOperand f.code (.literal (.date .eq)) (.dateOutOfRange d))) := by
  have fault := Operand.dayBounds_eq_error (Operand.date?_integer seen) unbounded
  simp only [onDateOf, compile_literal resolved, LiteralOperator.test, fault, Except.map,
    Ending.map_reported]

/-- The date of an instant is refused as out of range exactly when the clock misses the start of it
or of the next one.
-/
theorem compile_onDateOf_eq_error_iff {next : Date} (ordered : clock.zone.history.Ordered)
    (resolved : Field.resolve? fields code = some f) (fixed : f.placement = .fixed name)
    (seen : clock.zone.history.dateAt? t = some d) (follows : d.next? = some next)
    : compile table clock fields (some (onDateOf code t))
        = .error
            (.reported (.malformedOperand f.code (.literal (.date .eq)) (.dateOutOfRange d)))
      ↔ clock.zone.history.MissesStart d ∨ clock.zone.history.MissesStart next := by
  rw [← History.dayBounds?_eq_none_iff ordered follows]
  cases bounds : clock.zone.history.dayBounds? d with
  | none => simp [compile_onDateOf_eq_error table resolved seen bounds]
  | some range => simp [compile_onDateOf_eq_ok table resolved fixed seen bounds]

-- In Apia the day after 2011-12-29 was skipped, and both dates are without bounds.
example : History.apia.dayBounds? ⟨15337⟩ = none ∧ History.apia.dayBounds? ⟨15338⟩ = none := by
  decide +kernel

/-- On a fixed column, the condition that a field has the date of an instant compiles when the clock
comes to that date and the next one starts. The instant is not before the range of the day, and it is
before the end of the range unless the clock has shown the start of the next date already, that is,
unless it was set back over it.
-/
theorem compile_onDateOf {next : Date} {start stop : Int} (ordered : clock.zone.history.Ordered)
    (resolved : Field.resolve? fields code = some f) (fixed : f.placement = .fixed name)
    (seen : clock.zone.history.dateAt? t = some d) (follows : d.next? = some next)
    (enters : clock.zone.history.Reaches d start) (leaves : clock.zone.history.Starts next stop)
    : compile table clock fields (some (onDateOf code t))
        = .ok
            { predicate := "(" ++ (name ++ " >= ? AND " ++ name ++ " < ?") ++ ")"
              joins := []
              params := [.int start, .int stop] }
      ∧ clock.zone.history.dayBounds? d = some (start, stop)
      ∧ start ≤ t
      ∧ (t < stop ↔ ∀ u ≤ t, ¬ clock.zone.history.ShowsStart next u) := by
  obtain ⟨_, _, day⟩ := History.dateAt?_eq_some_iff.mp seen
  have bounded := enters.starts.dayBounds? leaves follows ordered
  have compiled := compile_onDateOf_eq_ok table resolved fixed seen bounded
  have since : start ≤ t := enters.le (by omega)
  exact ⟨compiled, bounded, since, leaves.lt_iff⟩

end OnDateOf

/-- An arrival with a column of its own. -/
def arrivalField : Field :=
  { code := "arrival", id := 2, type := .date, placement := .fixed "r.arrival", scope := 0,
    style := none }

/-- The last second of the day without a midnight is in the range of that day. -/
theorem compile_onDateOf_tokyo
    : tokyoClock.zone.history.Ordered
      ∧ tokyoClock.zone.history.dateAt? (-683719201) = some ⟨-7914⟩
      ∧ tokyoClock.zone.history.Reaches ⟨-7914⟩ (-683802000)
      ∧ tokyoClock.zone.history.Starts ⟨-7913⟩ (-683719200)
      ∧ compile .standard tokyoClock [arrivalField] (some (onDateOf "arrival" (-683719201)))
        = .ok
            { predicate := "(r.arrival >= ? AND r.arrival < ?)"
              joins := []
              params := [.int (-683802000), .int (-683719200)] }
      ∧ (-683802000 : Int) ≤ -683719201
      ∧ ∀ u ≤ -683719201, ¬ tokyoClock.zone.history.ShowsStart ⟨-7913⟩ u := by
  have resolved : Field.resolve? [arrivalField] "arrival" = some arrivalField := rfl
  have seen : tokyoClock.zone.history.dateAt? (-683719201) = some ⟨-7914⟩ := by decide
  have follows : Date.next? ⟨-7914⟩ = some ⟨-7913⟩ := by decide
  have enters := tokyo_entersCleanly_at_one.toReaches
  have leaves := tokyo_entersCleanly_next_day.starts
  obtain ⟨compiled, _, since, before⟩ :=
    compile_onDateOf .standard tokyoClock_ordered resolved rfl seen follows enters leaves
  exact ⟨tokyoClock_ordered, seen, enters, leaves, compiled, since, before.mp (by decide)⟩

def stJohnsClock : Clock :=
  { zone := { name := "America/St_Johns", history := .stJohns }, now := 0 }

/-- In 2006 the clock of St. John's was set back from 00:01 on October 29 to 23:01 on October 28.
Half an hour later it shows October 28, but the range of that day is over.
-/
theorem compile_onDateOf_set_back
    : ZoneDatabase.carried.find? "America/St_Johns" = some stJohnsClock.zone
      ∧ stJohnsClock.zone.history.dateAt? 1162090860 = some ⟨13449⟩
      ∧ Date.next? ⟨13449⟩ = some ⟨13450⟩
      ∧ compile .standard stJohnsClock [arrivalField] (some (onDateOf "arrival" 1162090860))
        = .ok
            { predicate := "(r.arrival >= ? AND r.arrival < ?)"
              joins := []
              params := [.int 1162002600, .int 1162089000] }
      ∧ ¬ ∃ start stop,
          stJohnsClock.zone.history.dayBounds? ⟨13449⟩ = some (start, stop)
          ∧ start ≤ 1162090860
          ∧ 1162090860 < stop := by
  have resolved : Field.resolve? [arrivalField] "arrival" = some arrivalField := rfl
  have found : ZoneDatabase.carried.find? "America/St_Johns" = some stJohnsClock.zone := by
    decide +kernel
  have seen : stJohnsClock.zone.history.dateAt? 1162090860 = some ⟨13449⟩ := by decide +kernel
  have bounded
      : stJohnsClock.zone.history.dayBounds? ⟨13449⟩ = some (1162002600, 1162089000) := by
    decide +kernel
  have compiled := compile_onDateOf_eq_ok .standard resolved rfl seen bounded
  refine ⟨found, seen, by decide, compiled, ?_⟩
  rintro ⟨start, stop, range, _, before⟩
  rw [bounded] at range
  obtain ⟨-, rfl⟩ := Prod.mk.inj (Option.some.inj range)
  omega

end FilterExpr

end FieldFilter
