import FieldFilter.Calendar.Day

/-! A reading of a clock stands for the earliest instant that shows it. Over changes in order, the
walk along the changes of a clock finds this instant, and finds none only when the clock never shows
the reading.
-/

namespace FieldFilter.Calendar.History

-----------------------------------------------------------------------------------------
-- The walk along the changes
-----------------------------------------------------------------------------------------

/-- The changes of the clock are in the order of their instants. -/
def Ordered (h : History) : Prop :=
  h.changes.Pairwise fun c d => c.instant ≤ d.instant

section Walk

variable {reading current : Int} {start : Option Int} {changes : List Change}

theorem started_iff {t : Int} : start.all (· ≤ t) = true ↔ ∀ s ∈ start, s ≤ t := by
  cases start <;> simp

/-- An instant that the walk finds shows the reading, and none from the start of the walk up to it
does. By induction on the changes; the walk never starts after the change that it comes to.
-/
theorem instantFrom?_eq_some {t : Int}
    (ordered : changes.Pairwise fun c d => c.instant ≤ d.instant)
    (ahead : ∀ s ∈ start, ∀ c ∈ changes, s ≤ c.instant)
    (found : instantFrom? reading current start changes = some t)
    : (∀ s ∈ start, s ≤ t)
      ∧ t + offsetFrom t current changes = reading
      ∧ ∀ u, (∀ s ∈ start, s ≤ u) → u < t → u + offsetFrom u current changes ≠ reading := by
  induction changes generalizing current start with
  | nil =>
      simp only [instantFrom?] at found
      split at found
      · next reached =>
          obtain rfl := Option.some.inj found
          refine ⟨started_iff.mp reached, by simp [offsetFrom], fun u _ before => ?_⟩
          simp only [offsetFrom]
          omega
      · cases found
  | cons c changes ih =>
      obtain ⟨least, ordered⟩ := List.pairwise_cons.mp ordered
      simp only [instantFrom?] at found
      split at found
      · next reached =>
          obtain ⟨reached, before⟩ := reached
          obtain rfl := Option.some.inj found
          refine ⟨started_iff.mp reached, by simp [offsetFrom, before], fun u _ earlier => ?_⟩
          have still : u < c.instant := by omega
          simp only [offsetFrom, still, if_true]
          omega
      · next missed =>
          obtain ⟨reached, shown, first⟩ := ih ordered (by simpa using least) found
          have after : c.instant ≤ t := reached c.instant rfl
          have later : ¬ t < c.instant := by omega
          refine ⟨fun s hs => ?_, ?_, fun u started earlier => ?_⟩
          · have bound := ahead s hs c List.mem_cons_self
            omega
          · simpa only [offsetFrom, later, if_false] using shown
          · by_cases still : u < c.instant
            · -- The clock is not changed yet, and the walk found nothing before the change.
              intro shows
              simp only [offsetFrom, still, if_true] at shows
              obtain rfl : u = reading - current := by omega
              exact missed ⟨started_iff.mpr started, still⟩
            · simp only [offsetFrom, still, if_false]
              refine first u (fun s hs => ?_) earlier
              obtain rfl := Option.some.inj hs
              omega

/-- When the walk finds nothing, no instant from its start on shows the reading. By induction on the
changes, as above.
-/
theorem instantFrom?_eq_none
    (found : instantFrom? reading current start changes = none)
    : ∀ u, (∀ s ∈ start, s ≤ u) → u + offsetFrom u current changes ≠ reading := by
  induction changes generalizing current start with
  | nil =>
      intro u started shows
      simp only [offsetFrom] at shows
      obtain rfl : u = reading - current := by omega
      have reached := started_iff.mpr started
      simp [instantFrom?, reached] at found
  | cons c changes ih =>
      intro u started shows
      simp only [instantFrom?] at found
      split at found
      · cases found
      · next missed =>
          by_cases still : u < c.instant
          · simp only [offsetFrom, still, if_true] at shows
            obtain rfl : u = reading - current := by omega
            exact missed ⟨started_iff.mpr started, still⟩
          · simp only [offsetFrom, still, if_false] at shows
            refine ih found u (fun s hs => ?_) shows
            obtain rfl := Option.some.inj hs
            omega

end Walk

-----------------------------------------------------------------------------------------
-- Readings and instants
-----------------------------------------------------------------------------------------

/-- The instant is the earliest one at which the clock shows a reading. -/
structure FirstShows (h : History) (reading t : Int) : Prop where
  shown : h.readingAt t = reading
  first : ∀ u < t, h.readingAt u ≠ reading

/-- A clock shows a reading first at one instant only. -/
theorem FirstShows.unique {h : History} {reading t u : Int} (ht : h.FirstShows reading t)
    (hu : h.FirstShows reading u)
    : t = u := by
  rcases Int.lt_trichotomy t u with before | same | after
  · exact absurd ht.shown (hu.first t before)
  · exact same
  · exact absurd hu.shown (ht.first u after)

variable {h : History} {reading t : Int}

/-- What a reading stands for is the earliest instant that shows it. -/
theorem earliest?_eq_some_iff (ordered : h.Ordered)
    : h.earliest? reading = some t ↔ h.FirstShows reading t := by
  constructor
  · intro found
    obtain ⟨_, shown, first⟩ := instantFrom?_eq_some ordered (by simp) found
    exact { shown, first := fun u before => first u (by simp) before }
  · intro shows
    cases found : h.earliest? reading with
    | none => exact absurd shows.shown (instantFrom?_eq_none found t (by simp))
    | some u =>
        obtain ⟨_, shown, first⟩ := instantFrom?_eq_some ordered (by simp) found
        have other : h.FirstShows reading u :=
          { shown, first := fun v before => first v (by simp) before }
        rw [other.unique shows]

/-- The earliest instant for a reading is of use when the calendar has it. -/
theorem shownAt?_eq_some_iff (ordered : h.Ordered)
    : h.shownAt? reading = some t ↔ h.FirstShows reading t ∧ inCalendar t = true := by
  rw [shownAt?, Option.filter_eq_some_iff, earliest?_eq_some_iff ordered]

theorem shownAt?_eq_none_iff (ordered : h.Ordered)
    : h.shownAt? reading = none
      ↔ ∀ t, inCalendar t = true → ¬ h.FirstShows reading t := by
  rw [Option.eq_none_iff_forall_ne_some]
  refine forall_congr' fun t => ?_
  rw [Ne, shownAt?_eq_some_iff ordered, not_and']

/-- A reading stands for the earliest instant that shows it. When there is none, the earliest instant
that shows the reading one hour later takes its place, if that is a reading of the calendar.
-/
theorem resolve?_eq_some_iff
    : h.resolve? reading = some t
      ↔ h.shownAt? reading = some t
        ∨ h.shownAt? reading = none
          ∧ reading + 3600 < (Date.lastDay + 1) * secondsPerDay
          ∧ h.shownAt? (reading + 3600) = some t := by
  rw [resolve?, Reckoning.found?_eq_some_iff, resolve]
  cases h.shownAt? reading with
  | some u => simp
  | none =>
      by_cases early : reading + 3600 < (Date.lastDay + 1) * secondsPerDay <;>
        simp [early]

/-- Before the last hour of the calendar, a reading stands for the earliest instant that shows it, or
else for the earliest one that shows the reading one hour later.
-/
theorem resolve?_eq_none_iff (ordered : h.Ordered)
    (early : reading + 3600 < (Date.lastDay + 1) * secondsPerDay)
    : h.resolve? reading = none
      ↔ ∀ t,
          inCalendar t = true
          → ¬ h.FirstShows reading t ∧ ¬ h.FirstShows (reading + 3600) t := by
  rw [h.resolve?_of_lt early, Option.or_eq_none_iff, shownAt?_eq_none_iff ordered,
    shownAt?_eq_none_iff ordered]
  exact ⟨fun ⟨own, later⟩ t seen => ⟨own t seen, later t seen⟩,
    fun neither => ⟨fun t seen => (neither t seen).1, fun t seen => (neither t seen).2⟩⟩

/-- The search for a reading stops when no instant of the calendar shows it and the calendar ends
within an hour of it.
-/
theorem resolve_eq_error_iff {overrun : Overrun}
    : h.resolve reading = .error overrun
      ↔ h.shownAt? reading = none
        ∧ (Date.lastDay + 1) * secondsPerDay ≤ reading + 3600
        ∧ overrun = .laterHour := by
  rw [resolve]
  cases h.shownAt? reading with
  | some u => simp
  | none =>
      by_cases early : reading + 3600 < (Date.lastDay + 1) * secondsPerDay
      · simp [early, Int.not_le.mpr early]
      · simp [early, Int.not_lt.mp early, eq_comm]

end FieldFilter.Calendar.History
