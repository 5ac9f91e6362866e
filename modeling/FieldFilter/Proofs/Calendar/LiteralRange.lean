import FieldFilter.Calendar.Literal
import FieldFilter.Proofs.Text.DecimalText

/-! What a date literal that is read can say. Its date is one of the calendar, its time of day is
before midnight, and an instant with its own offset is of a year of four digits, far from the ends
of the calendar.
-/

namespace FieldFilter.Calendar

-----------------------------------------------------------------------------------------
-- Dates
-----------------------------------------------------------------------------------------

namespace Date

/-- The date is one of the calendar. -/
def InRange (d : Date) : Prop :=
  firstDay ≤ d.day ∧ d.day ≤ lastDay

theorem daysInMonth_le (year : Int) (month : Nat) : daysInMonth year month ≤ 31 := by
  unfold daysInMonth
  split
  · split <;>
      decide
  · split <;>
      decide

/-- The date of a year, month and day is one of the calendar, with the number of that day. -/
theorem ofCivil?_eq_some {year : Int} {month day : Nat} {d : Date}
    (found : ofCivil? year month day = some d)
    : d.InRange ∧ d.day = dayNumber year month day ∧ day ≤ 31 := by
  simp only [ofCivil?] at found
  split at found
  · next valid =>
      obtain ⟨_, _, _, within⟩ := valid
      obtain ⟨inside, rfl⟩ := ofDay?_eq_some_iff.mp found
      exact ⟨inside, rfl, Nat.le_trans within (daysInMonth_le year month)⟩
  · cases found

/-- The days of the years of four digits are within some thousands of years around 1970. -/
theorem dayNumber_bounds {year : Int} {month day : Nat} (least : 0 ≤ year) (most : year < 10000)
    (short : day ≤ 31)
    : -1000000 < dayNumber year month day ∧ dayNumber year month day < 3000000 := by
  have fromMarch : (month + 9) % 12 < 12 := Nat.mod_lt _ (by decide)
  simp only [dayNumber]
  split <;>
    omega

end Date

-----------------------------------------------------------------------------------------
-- Numbers
-----------------------------------------------------------------------------------------

/-- A number has at most as many places as may be read. -/
theorem readNumber?_lt {least most n : Nat} {cs rest : List Char}
    (read : readNumber? least most cs = some (n, rest))
    : n < 10 ^ most := by
  simp only [readNumber?] at read
  split at read
  · obtain ⟨rfl, _⟩ := Prod.mk.inj (Option.some.inj read)
    generalize taken : (cs.takeWhile Text.isDigit).take most = digits
    have places : (digits.filterMap Text.digit?).length ≤ most := by
      have kept := List.length_filterMap_le Text.digit? digits
      have bound := List.length_take_le most (cs.takeWhile Text.isDigit)
      rw [taken] at bound
      omega
    have small : ∀ d ∈ digits.filterMap Text.digit?, d < 10 := by
      intro d member
      obtain ⟨c, _, read⟩ := List.mem_filterMap.mp member
      exact Text.digit?_lt read
    calc
      Text.ofDigits 0 (digits.filterMap Text.digit?)
          < 10 ^ (digits.filterMap Text.digit?).length := Text.ofDigits_lt small
      _ ≤ 10 ^ most := Nat.pow_le_pow_right (by decide) places
  · cases read

-----------------------------------------------------------------------------------------
-- Readings
-----------------------------------------------------------------------------------------

/-- The hour and the minute are those of a day. -/
structure DateParts.OfDay (p : DateParts) : Prop where
  hour : p.hour ≤ 23
  minute : p.minute ≤ 59

theorem DateParts.OfDay.secondOfDay_lt {p : DateParts} (h : p.OfDay) : p.secondOfDay < 86400 := by
  obtain ⟨hour, minute⟩ := h
  simp only [secondOfDay]
  omega

namespace FormatItem

theorem readPart?_le {greatest n : Nat} {cs rest : List Char}
    (read : readPart? greatest cs = some (n, rest))
    : n ≤ greatest := by
  simpa using (Option.filter_eq_some_iff.mp read).2

/-- No item reads an hour or a minute that no day has, by cases on the item. -/
theorem read?_ofDay {p q : DateParts} {cs rest : List Char} {item : FormatItem} (h : p.OfDay)
    (read : item.read? p cs = some (q, rest))
    : q.OfDay := by
  cases item with
  | hour =>
      obtain ⟨⟨n, _⟩, part, same⟩ := Option.map_eq_some_iff.mp read
      obtain ⟨rfl, _⟩ := Prod.mk.inj same
      exact { hour := readPart?_le part, minute := h.minute }
  | minute =>
      obtain ⟨⟨n, _⟩, part, same⟩ := Option.map_eq_some_iff.mp read
      obtain ⟨rfl, _⟩ := Prod.mk.inj same
      exact { hour := h.hour, minute := readPart?_le part }
  | year | month | day | second =>
      obtain ⟨⟨n, _⟩, _, same⟩ := Option.map_eq_some_iff.mp read
      obtain ⟨rfl, _⟩ := Prod.mk.inj same
      exact { hour := h.hour, minute := h.minute }
  | blank =>
      obtain ⟨rfl, _⟩ := Prod.mk.inj (Option.some.inj read)
      exact h
  | char c =>
      simp only [read?] at read
      split at read
      · cases read
      · split at read
        · obtain ⟨rfl, _⟩ := Prod.mk.inj (Option.some.inj read)
          exact h
        · cases read

/-- No format reads an hour or a minute that no day has, by induction on its items. -/
theorem readAll?_ofDay {p q : DateParts} {cs : List Char} {items : List FormatItem} (h : p.OfDay)
    (read : readAll? p cs items = some q)
    : q.OfDay := by
  induction items generalizing p cs with
  | nil =>
      simp only [readAll?] at read
      split at read
      · exact Option.some.inj read ▸ h
      · cases read
  | cons item items ih =>
      obtain ⟨⟨next, rest⟩, first, later⟩ := Option.bind_eq_some_iff.mp read
      exact ih (read?_ofDay h first) later

end FormatItem

theorem readReading?_eq_some {cs : List Char} {d : Date} {second : Nat}
    (read : readReading? cs = some (d, second))
    : d.InRange ∧ second < 86400 := by
  obtain ⟨format, _, read⟩ := List.exists_of_findSome?_eq_some read
  obtain ⟨parts, all, read⟩ := Option.bind_eq_some_iff.mp read
  obtain ⟨date, found, same⟩ := Option.bind_eq_some_iff.mp read
  obtain ⟨rfl, rfl⟩ := Prod.mk.inj (Option.some.inj same)
  have midnight : ({} : DateParts).OfDay := { hour := by decide, minute := by decide }
  exact ⟨(Date.ofCivil?_eq_some found).1, (FormatItem.readAll?_ofDay midnight all).secondOfDay_lt⟩

theorem readDate?_eq_some {cs : List Char} {d : Date} (read : readDate? cs = some d)
    : d.InRange := by
  obtain ⟨format, _, read⟩ := List.exists_of_findSome?_eq_some read
  obtain ⟨parts, _, found⟩ := Option.bind_eq_some_iff.mp read
  exact (Date.ofCivil?_eq_some found).1

-----------------------------------------------------------------------------------------
-- Instants
-----------------------------------------------------------------------------------------

theorem readOffsetAmount?_le {cs rest : List Char} {n : Int}
    (read : readOffsetAmount? cs = some (n, rest))
    : 0 ≤ n ∧ n < 86400 := by
  simp only [readOffsetAmount?, Option.bind_eq_bind, Option.bind_eq_some_iff] at read
  obtain ⟨⟨hours, _⟩, _, _, _, ⟨minutes, _⟩, _, read⟩ := read
  split at read
  · obtain ⟨rfl, _⟩ := Prod.mk.inj (Option.some.inj read)
    omega
  · cases read

/-- An offset from universal time is less than a day, by cases on how it starts. -/
theorem readOffset?_bounds {cs rest : List Char} {n : Int} (read : readOffset? cs = some (n, rest))
    : -86400 < n ∧ n < 86400 := by
  cases cs with
  | nil => cases read
  | cons c cs =>
      simp only [readOffset?] at read
      split at read
      · obtain ⟨rfl, _⟩ := Prod.mk.inj (Option.some.inj read)
        decide
      · split at read
        · have bounds := readOffsetAmount?_le read
          omega
        · split at read
          · obtain ⟨⟨m, _⟩, amount, same⟩ := Option.map_eq_some_iff.mp read
            obtain ⟨rfl, _⟩ := Prod.mk.inj same
            have bounds := readOffsetAmount?_le amount
            omega
          · cases read

/-- An instant with its own offset is within ten thousand years around 1970. -/
theorem readInstant?_bounds {cs : List Char} {t : Int} (read : readInstant? cs = some t)
    : -100000000000 < t ∧ t < 300000000000 := by
  -- The parts stand behind each other; only the sizes of the year and of the offset are needed.
  obtain ⟨⟨year, _⟩, hy, read⟩ := Option.bind_eq_some_iff.mp read
  obtain ⟨_, _, read⟩ := Option.bind_eq_some_iff.mp read
  obtain ⟨⟨month, _⟩, _, read⟩ := Option.bind_eq_some_iff.mp read
  obtain ⟨_, _, read⟩ := Option.bind_eq_some_iff.mp read
  obtain ⟨⟨day, _⟩, _, read⟩ := Option.bind_eq_some_iff.mp read
  obtain ⟨_, _, read⟩ := Option.bind_eq_some_iff.mp read
  obtain ⟨⟨hour, _⟩, _, read⟩ := Option.bind_eq_some_iff.mp read
  obtain ⟨_, _, read⟩ := Option.bind_eq_some_iff.mp read
  obtain ⟨⟨minute, _⟩, _, read⟩ := Option.bind_eq_some_iff.mp read
  obtain ⟨_, _, read⟩ := Option.bind_eq_some_iff.mp read
  obtain ⟨⟨second, _⟩, _, read⟩ := Option.bind_eq_some_iff.mp read
  obtain ⟨_, _, read⟩ := Option.bind_eq_some_iff.mp read
  obtain ⟨⟨offset, _⟩, ho, read⟩ := Option.bind_eq_some_iff.mp read
  dsimp only at read
  split at read
  · next within =>
      obtain ⟨d, found, same⟩ := Option.bind_eq_some_iff.mp read
      obtain rfl := Option.some.inj same
      obtain ⟨_, numbered, short⟩ := Date.ofCivil?_eq_some found
      have days : -1000000 < d.day ∧ d.day < 3000000 :=
        numbered ▸ Date.dayNumber_bounds (Int.natCast_nonneg year)
          (Int.ofNat_lt.mpr (readNumber?_lt hy)) short
      have offsets := readOffset?_bounds ho
      obtain ⟨_, hours, minutes, _⟩ := within
      have seconds := DateParts.OfDay.secondOfDay_lt
        (p := { year, month, day, hour, minute, second }) { hour := hours, minute := minutes }
      simp only [Date.midnight, secondsPerDay]
      omega
  · cases read

-----------------------------------------------------------------------------------------
-- Literals
-----------------------------------------------------------------------------------------

namespace Literal

/-- The literal names a date of the calendar and a second of the day, or an instant far from the ends
of the calendar.
-/
def InRange : Literal → Prop
  | instant t => -100000000000 < t ∧ t < 300000000000
  | reading d second => d.InRange ∧ second < 86400
  | date d => d.InRange

/-- Every literal that a text spells is in range, by cases on what it is read as. -/
theorem inRange_of_read? {s : String} {l : Literal} (spelt : read? s = some l) : l.InRange := by
  simp only [read?, Option.or_eq_some_iff, Option.map_eq_some_iff] at spelt
  rcases spelt with ⟨t, found, rfl⟩ | ⟨_, ⟨⟨d, second⟩, found, rfl⟩ | ⟨_, d, found, rfl⟩⟩
  · exact readInstant?_bounds found
  · exact readReading?_eq_some found
  · exact readDate?_eq_some found

end Literal

end FieldFilter.Calendar
