import FieldFilter.Proofs.Calendar.CivilClock
import FieldFilter.Proofs.Compile.DateComparison

/-! Date literals as bounds and as dates. A range binds the instant that a literal names and the date
operators compare with its date; on a clock of civil time these two agree. The instant has the date
unless the clock skips the reading that the literal names, and a date alone binds the very start of
its day.
-/

namespace FieldFilter

open Calendar (Date History Literal ZoneDatabase)
open FilterExpr (stJohnsClock)

namespace Calendar.Literal

/-- The reading of the clock that a literal names, which is midnight for a date alone. An instant with
its own offset names none.
-/
def reading? : Literal → Option Int
  | instant _ => none
  | reading d second => some (d.midnight + second)
  | date d => some d.midnight

/-- A literal that names an instant names a date, which is that of the instant if the literal is the
instant itself or the clock shows the reading. By cases on the literal.
-/
theorem exists_date? {h : History} {l : Literal} {t : Int} (civil : h.Civil) (inside : l.InRange)
    (named : l.instant? h = some t)
    : ∃ d,
        l.date? h = some d
        ∧ (l = instant t ∨ (∃ reading u, l.reading? = some reading ∧ h.readingAt u = reading)
            → h.dateAt? t = some d) := by
  cases l with
  | instant u =>
      obtain rfl := Option.some.inj named
      obtain ⟨d, seen⟩ := civil.exists_dateAt?_eq_some inside
      exact ⟨d, seen, fun _ => seen⟩
  | reading d second =>
      refine ⟨d, rfl, ?_⟩
      rintro (same | ⟨_, u, own, shown⟩)
      · cases same
      · obtain rfl := Option.some.inj own
        exact civil.dateAt?_of_resolve? inside.1 inside.2 named shown
  | date d =>
      refine ⟨d, rfl, ?_⟩
      rintro (same | ⟨_, u, own, shown⟩)
      · cases same
      · obtain rfl := Option.some.inj own
        have start : d.midnight + (0 : Nat) = d.midnight := Int.add_zero d.midnight
        rw [← start] at shown
        refine civil.dateAt?_of_resolve? inside (by decide) ?_ shown
        rwa [start]

end Calendar.Literal

/-- A date literal as a bound stands for the instant that it names. -/
theorem Operand.bound_literal {clock : Clock} {s : String} {l : Literal} {t : Int}
    (spelt : Literal.read? s = some l) (named : l.instant? clock.zone.history = some t)
    : Operand.bound .date clock (.string s) = .ok (.int t) := by
  have read : (instant clock.zone.history s).found? = some t := by
    simp only [instant, spelt]
    exact named
  exact map_eq_ok_iff.mpr ⟨t, Ending.requiring_eq_ok_iff.mpr read, rfl⟩

/-- A comparison that starts with a day binds the start of the day. -/
theorem LiteralOperator.test_since {clock : Clock} {operand : Json.Value} {start stop : Int}
    (day : Operand.dayBounds clock operand = .ok (start, stop)) (type : FieldType) (c : Column)
    : (date .ge).test type c clock operand = .ok (.any [Test.compared .ge c (.int start)]) :=
  map_eq_ok_iff.mpr ⟨_, day, rfl⟩

/-- A range binds both of its bounds. -/
theorem LiteralOperator.test_between {type : FieldType} {clock : Clock}
    {least greatest : Json.Value} {p q : Parameter} (low : Operand.bound type clock least = .ok p)
    (high : Operand.bound type clock greatest = .ok q) (c : Column)
    : between.test type c clock (.array [least, greatest]) = .ok (.any [.between c p q]) := by
  have range : Operand.bounds type clock (.array [least, greatest]) = .ok (p, q) := by
    simp [Operand.bounds, low, high, bind, Except.bind, pure, Except.pure]
  exact map_eq_ok_iff.mpr ⟨_, range, rfl⟩

/-- A date literal means the same to a range and to the date operators, on every clock of civil time.
If a range takes it for an instant, then the date operators take it for a date; the instant has this
date if the literal has its own offset or the clock shows the reading that it names; and a date alone
as the least of a range binds what the comparison with that date binds, the start of its day.
-/
theorem LiteralOperator.date_literal_agrees {clock : Clock} {s : String} {l : Literal} {t : Int}
    (civil : clock.zone.history.Civil) (spelt : Literal.read? s = some l)
    (named : l.instant? clock.zone.history = some t) (c : Column)
    : ∃ d,
        Operand.bound .date clock (.string s) = .ok (.int t)
        ∧ Operand.date? clock.zone.history (.string s) = some d
        ∧ (l = .instant t
              ∨ (∃ reading u,
                  l.reading? = some reading ∧ clock.zone.history.readingAt u = reading)
            → clock.zone.history.dateAt? t = some d)
        ∧ ∀ start stop,
            l = .date d
            → clock.zone.history.dayBounds? d = some (start, stop)
            → t = start
              ∧ (date .ge).test .date c clock (.string s)
                = .ok (.any [Test.compared .ge c (.int t)])
              ∧ ∀ upper greatest,
                  Operand.bound .date clock upper = .ok greatest
                  → between.test .date c clock (.array [.string s, upper])
                    = .ok (.any [.between c (.int t) greatest]) := by
  have least := Operand.bound_literal spelt named
  obtain ⟨d, dated, agrees⟩ := Literal.exists_date? civil (Literal.inRange_of_read? spelt) named
  have date : Operand.date? clock.zone.history (.string s) = some d := by
    simp only [Operand.date?, Operand.date, spelt]
    exact dated
  refine ⟨d, least, date, agrees, fun start stop alone bounded => ?_⟩
  subst alone
  have starts : clock.zone.history.resolve? d.midnight = some start := by
    obtain ⟨_, first, later⟩ := Option.bind_eq_some_iff.mp bounded
    obtain ⟨_, _, later⟩ := Option.bind_eq_some_iff.mp later
    obtain ⟨_, _, same⟩ := Option.bind_eq_some_iff.mp later
    exact (Prod.mk.inj (Option.some.inj same)).1 ▸ first
  obtain rfl : t = start := Option.some.inj (named.symm.trans starts)
  exact ⟨rfl, test_since (Operand.dayBounds_eq_ok date bounded) .date c,
    fun upper greatest most => test_between least most c⟩

/-- In St. John's the midnight with which 2006-10-29 begins was shown twice, and the date as a bound
stands for the first time.
-/
theorem LiteralOperator.date_literal_agrees_twice_shown
    : stJohnsClock.zone.history.Civil
      ∧ Literal.read? "2006-10-29" = some (.date ⟨13450⟩)
      ∧ (Literal.date ⟨13450⟩).instant? stJohnsClock.zone.history = some 1162089000
      ∧ stJohnsClock.zone.history.readingAt 1162089000 = 1162080000
      ∧ stJohnsClock.zone.history.readingAt 1162092600 = 1162080000
      ∧ stJohnsClock.zone.history.dateAt? 1162089000 = some ⟨13450⟩
      ∧ (date .ge).test .date (.fixed "r.arrival") stJohnsClock (.string "2006-10-29")
        = .ok (.any [Test.compared .ge (.fixed "r.arrival") (.int 1162089000)])
      ∧ between.test .date (.fixed "r.arrival") stJohnsClock
          (.array [.string "2006-10-29", .string "2006-10-30 12:00"])
        = .ok (.any [.between (.fixed "r.arrival") (.int 1162089000) (.int 1162222200)]) := by
  have found : ZoneDatabase.carried.find? "America/St_Johns" = some stJohnsClock.zone := by
    decide +kernel
  have civil := ZoneDatabase.civil_of_find? found
  have spelt : Literal.read? "2006-10-29" = some (.date ⟨13450⟩) := by decide +kernel
  have named : (Literal.date ⟨13450⟩).instant? stJohnsClock.zone.history = some 1162089000 := by
    decide +kernel
  have shown : stJohnsClock.zone.history.readingAt 1162089000 = 1162080000 := by decide +kernel
  have again : stJohnsClock.zone.history.readingAt 1162092600 = 1162080000 := by decide +kernel
  have bounded
      : stJohnsClock.zone.history.dayBounds? ⟨13450⟩ = some (1162089000, 1162179000) := by
    decide +kernel
  have upper
      : Operand.bound .date stJohnsClock (.string "2006-10-30 12:00") = .ok (.int 1162222200) :=
    Operand.bound_literal (l := .reading ⟨13451⟩ 43200) (by decide +kernel) (by decide +kernel)
  obtain ⟨d, _, dated, agrees, alone⟩ := date_literal_agrees civil spelt named (.fixed "r.arrival")
  obtain rfl : (⟨13450⟩ : Date) = d := by
    have own : Operand.date? stJohnsClock.zone.history (.string "2006-10-29") = some ⟨13450⟩ := by
      simp only [Operand.date?, Operand.date, spelt]
      rfl
    exact Option.some.inj (own.symm.trans dated)
  obtain ⟨_, since, within⟩ := alone _ _ rfl bounded
  exact ⟨civil, spelt, named, shown, again, agrees (.inr ⟨_, _, rfl, shown⟩), since,
    within _ _ upper⟩

end FieldFilter
