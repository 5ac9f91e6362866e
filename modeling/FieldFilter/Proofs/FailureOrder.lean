import FieldFilter.Proofs.Calls
import FieldFilter.Proofs.Compile.CalendarEnds
import FieldFilter.Proofs.Compile.DateComparison
import FieldFilter.Proofs.Compile.GroupGluing
import FieldFilter.Proofs.Filter.MentionedCodes

/-! In which order a compilation can fail. What is wrong with the filter itself is found before
anything is looked up; then a backend that does not answer ends the compilation; and over an answer
the first condition that fails decides the ending. A code of it may stand for no field or its operand
may not fit, which is reported; but the calculation with the operand may also leave the calendar, and
that stops the program.
-/

namespace FieldFilter

-----------------------------------------------------------------------------------------
-- Conditions that fail
-----------------------------------------------------------------------------------------

/-- What is wrong with an operand does not depend on the column. -/
theorem LiteralOperator.test_eq_error {op : LiteralOperator} {type : FieldType} {clock : Clock}
    {operand : Json.Value} {c : Column} {cause : Ending OperandFault}
    (failed : op.test type c clock operand = .error cause) (other : Column)
    : op.test type other clock operand = .error cause := by
  have same := op.test_mapColumns type clock operand (fun _ => other) c
  rw [failed] at same
  exact same

namespace Condition

/-- How a condition fails over some fields. The first of its codes that stands for none of them is
unknown; or its operand does not fit its operator on the field that its code stands for; or the
calculation with the operand leaves the calendar.
-/
inductive Fails (fields : List Field) (clock : Clock) : Condition → Ending FilterError → Prop
  | unknown {condition code}
    (first
      : condition.codes.find? (fun code => (Field.resolve? fields code).isNone) = some code)
    : Fails fields clock condition (.reported (.unknownField code))
  | malformed {code op operand f fault} (found : Field.resolve? fields code = some f)
    (refused : ∀ c, LiteralOperator.test op f.type c clock operand = .error (.reported fault))
    : Fails fields clock (.literal code op operand)
        (.reported (.malformedOperand code (.literal op) fault))
  | stopped {code op operand f overrun} (found : Field.resolve? fields code = some f)
    (stops : LiteralOperator.Stops clock op f.type operand overrun)
    : Fails fields clock (.literal code op operand) (.stopped overrun)

variable {fields : List Field} {clock : Clock} {condition : Condition}
  {ending : Ending FilterError}

/-- What is reported has one of two kinds. -/
theorem Fails.code {error : FilterError} (fails : condition.Fails fields clock (.reported error))
    : error.code = "UNKNOWN_FIELD_CODE" ∨ error.code = "MALFORMED_OPERAND" := by
  cases fails with
  | unknown => exact Or.inl rfl
  | malformed => exact Or.inr rfl

/-- A condition that cannot be planned fails in one of these ways, by cases on the condition and on
what is wrong with its operand.
-/
theorem fails_of_plan {used : Nat} (failed : condition.plan fields clock used = .error ending)
    : condition.Fails fields clock ending := by
  cases condition with
  | literal code op operand =>
      rcases plan_literal_eq_error_iff.mp failed with missing | ⟨f, cause, found, refused, rfl⟩
      · obtain ⟨unresolved, rfl⟩ := Field.find_eq_error_iff.mp missing
        exact .unknown (by simp [codes, unresolved])
      · cases cause with
        | reported fault => exact .malformed found (LiteralOperator.test_eq_error refused)
        | stopped overrun => exact .stopped found (LiteralOperator.test_eq_stopped_iff.mp refused)
  | fields code op other =>
      rcases plan_fields_eq_error_iff.mp failed with missing | ⟨f, found, missing⟩
      · obtain ⟨unresolved, rfl⟩ := Field.find_eq_error_iff.mp missing
        exact .unknown (by simp [codes, unresolved])
      · obtain ⟨unresolved, rfl⟩ := Field.find_eq_error_iff.mp missing
        exact .unknown (by simp [codes, found, unresolved])

/-- A condition that fails cannot be planned, by cases on how it fails. -/
theorem Fails.plan_eq (fails : condition.Fails fields clock ending) (used : Nat)
    : condition.plan fields clock used = .error ending := by
  cases fails with
  | @unknown _ code first =>
      cases condition with
      | literal own op operand =>
          cases resolved : Field.resolve? fields own with
          | some f => simp [codes, resolved] at first
          | none =>
              obtain rfl : own = code := by simpa [codes, resolved] using first
              exact plan_literal_eq_error_iff.mpr
                (.inl (Field.find_eq_error_iff.mpr ⟨resolved, rfl⟩))
      | fields own op other =>
          cases resolved : Field.resolve? fields own with
          | some f =>
              obtain ⟨missing, rfl⟩ : Field.resolve? fields other = none ∧ other = code := by
                simpa [codes, resolved] using first
              exact plan_fields_eq_error_iff.mpr
                (.inr ⟨f, resolved, Field.find_eq_error_iff.mpr ⟨missing, rfl⟩⟩)
          | none =>
              obtain rfl : own = code := by simpa [codes, resolved] using first
              exact plan_fields_eq_error_iff.mpr
                (.inl (Field.find_eq_error_iff.mpr ⟨resolved, rfl⟩))
  | malformed found refused =>
      exact plan_literal_eq_error_iff.mpr (.inr ⟨_, _, found, refused _, rfl⟩)
  | stopped found stops =>
      exact plan_literal_eq_error_iff.mpr
        (.inr ⟨_, _, found, LiteralOperator.test_eq_stopped_iff.mpr stops, rfl⟩)

theorem plan_eq_error_iff {used : Nat}
    : condition.plan fields clock used = .error ending ↔ condition.Fails fields clock ending :=
  ⟨fails_of_plan, fun fails => fails.plan_eq used⟩

/-- The first of some conditions that fails decides how they end, by what comes before it. -/
inductive FirstFails (fields : List Field) (clock : Clock)
    : List Condition → Ending FilterError → Prop
  | head {condition rest ending} (fails : condition.Fails fields clock ending)
    : FirstFails fields clock (condition :: rest) ending
  | later {condition rest ending} (passes : ∀ other, ¬ condition.Fails fields clock other)
    (fails : FirstFails fields clock rest ending)
    : FirstFails fields clock (condition :: rest) ending

@[simp] theorem not_firstFails_nil : ¬ FirstFails fields clock [] ending :=
  nofun

theorem firstFails_cons_iff {rest : List Condition}
    : FirstFails fields clock (condition :: rest) ending
      ↔ condition.Fails fields clock ending
        ∨ (∀ other, ¬ condition.Fails fields clock other)
          ∧ FirstFails fields clock rest ending := by
  constructor
  · rintro (fails | ⟨passes, fails⟩)
    · exact .inl fails
    · exact .inr ⟨passes, fails⟩
  · rintro (fails | ⟨passes, fails⟩)
    · exact .head fails
    · exact .later passes fails

/-- Behind conditions that all pass, the later ones decide. By induction on those before them. -/
theorem firstFails_append_iff {left right : List Condition}
    : FirstFails fields clock (left ++ right) ending
      ↔ FirstFails fields clock left ending
        ∨ (∀ other, ¬ FirstFails fields clock left other)
          ∧ FirstFails fields clock right ending := by
  induction left with
  | nil => simp
  | cons c left ih =>
      simp only [List.cons_append, firstFails_cons_iff, ih]
      by_cases passes : ∀ other, ¬ c.Fails fields clock other
      · simp [passes]
      · simp [passes]

theorem FirstFails.code {conditions : List Condition} {error : FilterError}
    (fails : FirstFails fields clock conditions (.reported error))
    : error.code = "UNKNOWN_FIELD_CODE" ∨ error.code = "MALFORMED_OPERAND" := by
  generalize same : Ending.reported error = ending at fails
  induction fails with
  | head fails =>
      subst same
      exact Fails.code fails
  | later _ _ ih => exact ih same

end Condition

-----------------------------------------------------------------------------------------
-- Expressions that fail
-----------------------------------------------------------------------------------------

namespace FilterExpr

open Condition (FirstFails)

variable {fields : List Field} {clock : Clock}

mutual

/-- An expression ends as the first of its conditions that fails, and has a plan when none does. By
induction on the expression.
-/
theorem plan_eq_error_iff {used : Nat} {ending : Ending FilterError} (e : FilterExpr)
    : e.plan fields clock used = .error ending ↔ FirstFails fields clock e.conditions ending := by
  cases e with
  | condition c =>
      simp [plan, conditions, bind_eq_error_iff, Condition.plan_eq_error_iff,
        Condition.firstFails_cons_iff, pure, Except.pure]
  | group first rest =>
      have passes
          : (∃ head, first.plan fields clock used = .ok head)
            ↔ ∀ other, ¬ FirstFails fields clock first.conditions other := by
        simp only [exists_eq_ok_iff, Ne, plan_eq_error_iff first]
      rw [plan, bind_eq_error_iff, plan_eq_error_iff first, conditions,
        Condition.firstFails_append_iff, ← passes]
      refine or_congr_right ?_
      simp [bind_eq_error_iff, restPlan_eq_error_iff rest, pure, Except.pure]

theorem restPlan_eq_error_iff {used : Nat} {ending : Ending FilterError}
    (rest : List (Conjunction × FilterExpr))
    : restPlan fields clock used rest = .error ending
      ↔ FirstFails fields clock (restConditions rest) ending := by
  cases rest with
  | nil => simp [restPlan, restConditions]
  | cons child rest =>
      obtain ⟨conjunction, e⟩ := child
      have passes
          : (∃ head, e.plan fields clock used = .ok head)
            ↔ ∀ other, ¬ FirstFails fields clock e.conditions other := by
        simp only [exists_eq_ok_iff, Ne, plan_eq_error_iff e]
      rw [restPlan, bind_eq_error_iff, plan_eq_error_iff e, restConditions,
        Condition.firstFails_append_iff, ← passes]
      refine or_congr_right ?_
      simp [bind_eq_error_iff, restPlan_eq_error_iff rest, pure, Except.pure]

end

theorem compile_some_eq_error_iff {table : ValueTable} {e : FilterExpr}
    {ending : Ending FilterError}
    : compile table clock fields (some e) = .error ending
      ↔ FirstFails fields clock e.conditions ending :=
  map_eq_error_iff.trans (plan_eq_error_iff e)

end FilterExpr

-----------------------------------------------------------------------------------------
-- What is concluded from an answer
-----------------------------------------------------------------------------------------

/-- Compiling conditions warns of nothing but that the start of the present day is unknown, by
induction on the conditions.
-/
theorem Condition.eq_startOfDayUnresolved_of_mem_warnings {fields : List Field} {clock : Clock}
    {conditions : List Condition} {warning : Warning}
    (member : warning ∈ warnings fields clock conditions)
    : warning = .startOfDayUnresolved clock.zone.name ∧ clock.todayIsUnresolved = true := by
  induction conditions with
  | nil => simp [warnings] at member
  | cons c conditions ih =>
      have own {w : Warning}
          (raised
            : w ∈ if c.asksForToday fields && clock.todayIsUnresolved then
                    [Warning.startOfDayUnresolved clock.zone.name]
                  else [])
          : w = .startOfDayUnresolved clock.zone.name ∧ clock.todayIsUnresolved = true := by
        split at raised
        · next asked => exact ⟨List.mem_singleton.mp raised, (Bool.and_eq_true_iff.mp asked).2⟩
        · cases raised
      rw [warnings] at member
      split at member
      · rcases List.mem_append.mp member with raised | later
        · exact own raised
        · exact ih later
      · exact own member

/-- A present day with a date has no known start only if its midnight is resolved to none. -/
theorem Clock.resolve?_of_todayIsUnresolved {clock : Clock} {today : Calendar.Date}
    (present : clock.zone.history.dateAt? clock.now = some today)
    (unresolved : clock.todayIsUnresolved = true)
    : clock.zone.history.resolve? today.midnight = none := by
  simpa [todayIsUnresolved, Calendar.History.startOfDay?, present] using unresolved

namespace Service

/-- What a compilation may make of an answer to the only lookup. An error of the backend is the
outcome, and one warning tells of it and whether it may pass. Over some fields, at a present with a
date on the clock, it makes a query unless a condition fails. The first that does decides: what it
reports is an unknown code or a malformed operand, and it may also stop. No warning tells of the
lookup then, and one of the present day only if the clock does not resolve its midnight.
-/
structure Concludes (service : Service) (backend : String) (scope now : Int) (e : FilterExpr)
    (answer : Answer) (outcome : Outcome)
    : Prop where
  failed
    : ∀ error,
        answer.value = .error error
        → outcome.value = .error (.reported (.catalogUnavailable error))
          ∧ ∃ warning : Warning,
              outcome.warnings = answer.warnings ++ [warning]
              ∧ warning.message = "Field catalog lookup failed"
              ∧ warning.details
                = [ ("backend", backend), ("scope_id", toString scope),
                    ("transient", if error.isTransient then "true" else "false") ]
  answered
    : ∀ fields today,
        answer.value = .ok fields
        → service.zone.history.dateAt? now = some today
        → (∀ ending,
            outcome.value = .error ending
            ↔ Condition.FirstFails (fields.filter (·.isVisibleIn scope)) (service.clock now)
                e.conditions ending)
          ∧ (∀ error,
              outcome.value = .error (.reported error)
              → error.code = "UNKNOWN_FIELD_CODE" ∨ error.code = "MALFORMED_OPERAND")
          ∧ ∃ own : List Warning,
              outcome.warnings = answer.warnings ++ own
              ∧ ∀ warning ∈ own,
                  warning = .startOfDayUnresolved service.zone.name
                  ∧ service.zone.history.resolve? today.midnight = none

/-- A compilation makes this of every answer, by cases on it. -/
theorem concludes_conclude (service : Service) (backend : String) (scope now : Int) (e : FilterExpr)
    (answer : Answer)
    : service.Concludes backend scope now e answer
        (service.conclude backend scope now e answer) := by
  unfold conclude
  cases given : answer.value with
  | error error =>
      refine { failed := fun found same => ?_, answered := fun fields today same => ?_ }
      · obtain rfl := Except.error.inj (given.symm.trans same)
        exact ⟨rfl, _, rfl, rfl, rfl⟩
      · cases given.symm.trans same
  | ok fields =>
      refine { failed := fun found same => ?_, answered := fun others today same present => ?_ }
      · cases given.symm.trans same
      · obtain rfl := Except.ok.inj (given.symm.trans same)
        refine ⟨fun ending => FilterExpr.compile_some_eq_error_iff, fun error failed => ?_, _, rfl,
          fun warning member => ?_⟩
        · exact (FilterExpr.compile_some_eq_error_iff.mp failed).code
        · obtain ⟨rfl, unresolved⟩ := Condition.eq_startOfDayUnresolved_of_mem_warnings member
          exact ⟨rfl, Clock.resolve?_of_todayIsUnresolved present unresolved⟩

/-- Failures come in order. Noting the lookups of a compilation changes nothing of it. A filter that
is nothing or the empty array matches everything, and one that cannot be read fails with what is
wrong with it: both without a lookup or a warning, and so alike for every backend. Any other filter
makes one lookup, for exactly the codes that it mentions. When the backend fails, its error is the
outcome and one warning tells of it; over an answer the outcome is a query unless a condition fails,
and the first of them decides it. A code without a field and an operand that does not fit are
reported; a calculation that leaves the calendar is not, and stops the program.
-/
theorem compileAt_fails_in_order {m : Type → Type} [Monad m] [LawfulMonad m] (service : Service)
    (backend : Backend m) (scope now : Int) (filter : Json.Value)
    : let run := (service.compileAt backend.noted scope now filter).run []
      Prod.fst <$> run = service.compileAt backend scope now filter
      ∧ (filter = .null ∨ filter = .array [] → run = pure (.quiet (.ok .alwaysTrue), []))
      ∧ (∀ error,
          FilterExpr.ofFilter filter = .error error
          → run = pure (.quiet (.error (.reported error)), []))
      ∧ ∀ e,
          FilterExpr.ofFilter filter = .ok (some e)
          → ∃ outcome : Answer → Outcome,
              run
                = (fun answer => (outcome answer, [(scope, fieldCodes filter)]))
                  <$> backend.lookup scope (fieldCodes filter)
              ∧ ∀ answer, service.Concludes backend.name scope now e answer (outcome answer) := by
  refine ⟨service.fst_run_compileAt_noted backend scope now filter [], ?_, ?_, ?_⟩
  · intro empty
    have read := FilterExpr.ofFilter_eq_ok_none_iff.mpr empty
    exact service.run_compileAt_noted_none backend scope now read []
  · intro error read
    exact service.run_compileAt_noted_error backend scope now read []
  · intro e read
    refine ⟨service.conclude backend.name scope now e, ?_, ?_⟩
    · exact service.run_compileAt_noted_some backend scope now read []
    · exact service.concludes_conclude backend.name scope now e

/-- A server that refuses every connection. -/
def refusing : Backend Id :=
  { name := "mysql"
    lookup := fun _ _ => .quiet (.error (.unavailable "mysql" "connection refused")) }

/-- The stay is as long as the booking, and the guest is called Ann. -/
def stayFilter : Json.Value :=
  .array
    [ .array [.string "stay", .string "same", .string "bookings.stay"], .string "and",
      .array [.string "guests.name", .string "=", .string "Ann"] ]

def stayExpression : FilterExpr :=
  .group (.condition (.fields "stay" .same "stay"))
    [(.and, .condition (.literal "name" .equal (.string "Ann")))]

def stayField : Field :=
  { code := "stay", id := 8, type := .number, placement := .custom, scope := 7, style := none }

/-- The codes of a filter are asked for together and each once. When nobody answers, the warning
says that the server may answer later; when the answer has no guests, the second condition decides.
-/
theorem compileAt_fails_in_order_refusing
    : FilterExpr.ofFilter stayFilter = .ok (some stayExpression)
      ∧ Calendar.Zone.utc.history.dateAt? 0 = some ⟨0⟩
      ∧ ∃ outcome : Answer → Outcome,
          ((⟨.standard, .utc⟩ : Service).compileAt refusing.noted 7 0 stayFilter).run []
            = (outcome (refusing.lookup 7 ["stay", "name"]), [(7, ["stay", "name"])])
          ∧ (outcome (refusing.lookup 7 ["stay", "name"])).value
            = .error (.reported (.catalogUnavailable (.unavailable "mysql" "connection refused")))
          ∧ (∃ warning : Warning,
              (outcome (refusing.lookup 7 ["stay", "name"])).warnings = [warning]
              ∧ warning.message = "Field catalog lookup failed"
              ∧ warning.details
                = [("backend", "mysql"), ("scope_id", "7"), ("transient", "true")])
          ∧ (outcome (.quiet (.ok [stayField]))).value
            = .error (.reported (.unknownField "name")) := by
  have read : FilterExpr.ofFilter stayFilter = .ok (some stayExpression) := by rfl
  have present : Calendar.Zone.utc.history.dateAt? 0 = some ⟨0⟩ := by decide
  obtain ⟨_, _, _, looked⟩ := compileAt_fails_in_order ⟨.standard, .utc⟩ refusing 7 0 stayFilter
  obtain ⟨outcome, run, concludes⟩ := looked stayExpression read
  obtain ⟨refused, warned⟩ := (concludes (refusing.lookup 7 ["stay", "name"])).failed _ rfl
  obtain ⟨decides, _, _⟩ := (concludes (.quiet (.ok [stayField]))).answered _ _ rfl present
  refine ⟨read, present, outcome, run, refused, warned, (decides _).mpr ?_⟩
  exact .later (fun other fails => by cases fails.plan_eq 0) (.head (.unknown rfl))

/-- Entities with a date in a column of their own. -/
def dayField : Field :=
  { code := "d", id := 1, type := .date, placement := .fixed "r.d", scope := 0, style := none }

def dayCatalog : Backend Id :=
  { name := "static", lookup := fun _ _ => .quiet (.ok [dayField]) }

/-- The date is that of the last instant of the calendar. -/
def lastInstantFilter : Json.Value :=
  .array [.string "d", .string "=date", .number (.integer 8210266876799)]

def lastInstantExpression : FilterExpr :=
  .condition (.literal "d" (.date .eq) (.number (.integer 8210266876799)))

/-- In Tokyo the last instant of the calendar is already of the next day, which the calendar does
not have. The filter is well formed and the catalog answers, but the outcome is no query, and no
error is reported.
-/
theorem compileAt_stops_at_last_instant
    : let outcome : Outcome :=
        (⟨.standard, tokyoClock.zone⟩ : Service).compileAt dayCatalog 7 0 lastInstantFilter
      Calendar.ZoneDatabase.carried.find? "Asia/Tokyo" = some tokyoClock.zone
        ∧ FilterExpr.ofFilter lastInstantFilter = .ok (some lastInstantExpression)
        ∧ outcome.value = .error (.stopped .localTime)
        ∧ (∀ query, outcome.value ≠ .ok query)
        ∧ ∀ error, outcome.value ≠ .error (.reported error) := by
  intro outcome
  have stopped : outcome.value = .error (.stopped .localTime) := by rfl
  refine ⟨tokyo_carried, by rfl, stopped, fun query same => ?_, fun error same => ?_⟩
  · cases stopped.symm.trans same
  · cases stopped.symm.trans same

end Service

end FieldFilter
