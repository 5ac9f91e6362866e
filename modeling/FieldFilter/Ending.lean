import FieldFilter.Calendar.Day

/-! Computations that report errors and may stop. A stop is no error: nothing is reported, and the
program ends where a calculation with dates leaves the calendar.
-/

namespace FieldFilter

/-- How a computation ends without a value. -/
inductive Ending (ε : Type)
  | reported (error : ε)
  | stopped (overrun : Calendar.Overrun)

namespace Ending

variable {α ε δ : Type}

/-- The ending in which another error is reported. -/
def map (f : ε → δ) : Ending ε → Ending δ
  | reported error => reported (f error)
  | stopped overrun => stopped overrun

/-- A computation that reports its errors and never stops. -/
def reporting : Except ε α → Except (Ending ε) α
  | .ok a => .ok a
  | .error error => .error (reported error)

/-- What a calculation finds; that it finds nothing is an error. -/
def requiring (error : ε) : Calendar.Reckoning α → Except (Ending ε) α
  | .ok (some a) => .ok a
  | .ok none => .error (reported error)
  | .error overrun => .error (stopped overrun)

@[simp] theorem map_reported (f : ε → δ) (error : ε)
    : (reported error).map f = reported (f error) :=
  rfl

@[simp] theorem reporting_eq_ok_iff {x : Except ε α} {a : α}
    : reporting x = .ok a ↔ x = .ok a := by
  cases x <;> simp [reporting]

@[simp] theorem reporting_eq_error_iff {x : Except ε α} {ending : Ending ε}
    : reporting x = .error ending ↔ ∃ error, x = .error error ∧ ending = reported error := by
  cases x <;> simp [reporting, eq_comm]

@[simp] theorem requiring_eq_ok_iff {error : ε} {x : Calendar.Reckoning α} {a : α}
    : requiring error x = .ok a ↔ x.found? = some a := by
  rcases x with overrun | (_ | found) <;> simp [requiring]

@[simp] theorem requiring_eq_stopped_iff {error : ε} {x : Calendar.Reckoning α}
    {overrun : Calendar.Overrun}
    : requiring error x = .error (stopped overrun) ↔ x = .error overrun := by
  rcases x with found | (_ | a) <;> simp [requiring]

end Ending

end FieldFilter
