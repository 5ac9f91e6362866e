import FieldFilter.Calendar.Date

/-! Clocks that change. A history is the offset of a clock from universal time over all instants:
one offset at first, and another from each of its changes on. A reading of the clock may be shown
at no instant, at one or at several; the earliest of them is what a reading stands for.
-/

namespace FieldFilter.Calendar

/-- A change of a clock: from `instant` on it is `offset` seconds ahead of universal time. -/
structure Change where
  instant : Int
  offset : Int
  deriving DecidableEq, Repr

/-- The offsets of a clock, with its changes in order. -/
structure History where
  initial : Int
  changes : List Change
  deriving DecidableEq, Repr

namespace History

/-- A clock that never changes. -/
def constant (offset : Int) : History :=
  { initial := offset, changes := [] }

/-- The offset at `t`, which is `current` before the first of the changes. -/
def offsetFrom (t current : Int) : List Change → Int
  | [] => current
  | c :: changes => if t < c.instant then current else offsetFrom t c.offset changes

/-- The offset from universal time at an instant, in seconds. -/
def offsetAt (h : History) (t : Int) : Int :=
  offsetFrom t h.initial h.changes

/-- What the clock shows at an instant, in seconds from 1970-01-01 00:00. -/
def readingAt (h : History) (t : Int) : Int :=
  t + h.offsetAt t

/-- The instant from `start` on at which a clock shows `reading` while its offset is `current`
before the first of the changes, and follows them afterwards: the earliest one. -/
def instantFrom? (reading current : Int) (start : Option Int) : List Change → Option Int
  | [] =>
    let t := reading - current
    if start.all (· ≤ t) then some t else none
  | c :: changes =>
    let t := reading - current
    if start.all (· ≤ t) ∧ t < c.instant then some t
    else instantFrom? reading c.offset (some c.instant) changes

/-- The earliest instant at which the clock shows a reading, if there is one. -/
def earliest? (h : History) (reading : Int) : Option Int :=
  instantFrom? reading h.initial none h.changes

end History

end FieldFilter.Calendar
