import FieldFilter.Calendar.Day
import FieldFilter.Calendar.Zone

/-! The clock of one compilation: its zone and the instant that counts as the present.
-/

namespace FieldFilter

/-- A zone and the present instant. -/
structure Clock where
  zone : Calendar.Zone
  now : Int

namespace Clock

/-- What the clock is ahead of universal time at present, in seconds. -/
def offset (clock : Clock) : Int :=
  clock.zone.history.offsetAt clock.now

def today (clock : Clock) : Int :=
  clock.zone.history.startOfDay clock.now

/-- The start of the present day cannot be resolved, and the present instant stands for it. -/
def todayIsUnresolved (clock : Clock) : Bool :=
  (clock.zone.history.startOfDay? clock.now).isNone

end Clock

end FieldFilter
