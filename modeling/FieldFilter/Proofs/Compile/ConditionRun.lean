import FieldFilter.Compile.Plan

/-! Planning an expression is planning its conditions from left to right. A run keeps what each
condition contributes, so that a fact about single conditions becomes one about whole plans.
-/

namespace FieldFilter

/-- A computation that continues another succeeds exactly when both do, by cases on the first. -/
theorem bind_eq_ok_iff {ε α β : Type} {x : Except ε α} {f : α → Except ε β} {b : β}
    : (x >>= f) = .ok b ↔ ∃ a, x = .ok a ∧ f a = .ok b := by
  cases x with
  | error e => simp [bind, Except.bind]
  | ok a => simp [bind, Except.bind]

/-- It fails when the first computation does, or when the second does after the first. -/
theorem bind_eq_error_iff {ε α β : Type} {x : Except ε α} {f : α → Except ε β} {e : ε}
    : (x >>= f) = .error e ↔ x = .error e ∨ ∃ a, x = .ok a ∧ f a = .error e := by
  cases x with
  | error found => simp [bind, Except.bind]
  | ok a => simp [bind, Except.bind]

/-- A computation succeeds unless it fails. -/
theorem exists_eq_ok_iff {ε α : Type} {x : Except ε α} : (∃ a, x = .ok a) ↔ ∀ e, x ≠ .error e := by
  cases x with
  | error found => simp
  | ok a => simp

theorem map_eq_ok_iff {ε α β : Type} {x : Except ε α} {f : α → β} {b : β}
    : x.map f = .ok b ↔ ∃ a, x = .ok a ∧ f a = b := by
  cases x with
  | error e => simp [Except.map]
  | ok a => simp [Except.map]

theorem map_eq_error_iff {ε α β : Type} {x : Except ε α} {f : α → β} {e : ε}
    : x.map f = .error e ↔ x = .error e := by
  cases x with
  | error found => simp [Except.map]
  | ok a => simp [Except.map]

namespace Field

theorem find_eq_ok_iff {fields : List Field} {code : String} {f : Field}
    : find fields code = .ok f ↔ resolve? fields code = some f := by
  unfold find
  cases resolve? fields code with
  | none => simp
  | some g => simp

theorem find_eq_error_iff {fields : List Field} {code : String} {ending : Ending FilterError}
    : find fields code = .error ending
      ↔ resolve? fields code = none ∧ ending = .reported (.unknownField code) := by
  unfold find
  cases resolve? fields code with
  | none => simp [eq_comm]
  | some g => simp

/-- What a code stands for has that code. -/
theorem code_of_resolve? {fields : List Field} {code : String} {f : Field}
    (found : resolve? fields code = some f)
    : f.code = code := by
  have member := List.mem_of_getLast? found
  simpa using (List.mem_filter.mp member).2

end Field

-----------------------------------------------------------------------------------------
-- What a plan says about its parts
-----------------------------------------------------------------------------------------

namespace Condition

/-- A condition with a literal is planned when its field resolves and the operator accepts the
operand on the field's column.
-/
theorem plan_literal_eq_ok_iff {fields : List Field} {clock : Clock} {used : Nat}
    {code : String} {op : LiteralOperator} {operand : Json.Value} {test : Test}
    {joins : List Join}
    : (literal code op operand).plan fields clock used = .ok (test, joins)
      ↔ ∃ f,
          Field.resolve? fields code = some f
          ∧ op.test f.type (f.columnAfter used).1 clock operand = .ok test
          ∧ joins = (f.columnAfter used).2 := by
  simp only [plan, bind_eq_ok_iff, Field.find_eq_ok_iff]
  refine exists_congr fun f => and_congr_right fun _ => ?_
  cases op.test f.type (f.columnAfter used).1 clock operand with
  | error fault => simp [throw, throwThe, MonadExceptOf.throw]
  | ok found => simp [pure, Except.pure, eq_comm]

/-- It fails when its field does not resolve, or else for what is wrong with the operand. -/
theorem plan_literal_eq_error_iff {fields : List Field} {clock : Clock} {used : Nat}
    {code : String} {op : LiteralOperator} {operand : Json.Value} {ending : Ending FilterError}
    : (literal code op operand).plan fields clock used = .error ending
      ↔ Field.find fields code = .error ending
        ∨ ∃ f cause,
            Field.resolve? fields code = some f
            ∧ op.test f.type (f.columnAfter used).1 clock operand = .error cause
            ∧ cause.map (.malformedOperand code (.literal op)) = ending := by
  simp only [plan, bind_eq_error_iff, Field.find_eq_ok_iff, exists_and_left]
  refine or_congr_right (exists_congr fun f => and_congr_right fun resolved => ?_)
  rw [Field.code_of_resolve? resolved]
  cases op.test f.type (f.columnAfter used).1 clock operand with
  | error cause => simp [throw, throwThe, MonadExceptOf.throw]
  | ok found => simp [pure, Except.pure]

/-- A condition between two fields is planned when both resolve; the second field's column
comes after the joins of the first.
-/
theorem plan_fields_eq_ok_iff {fields : List Field} {clock : Clock} {used : Nat}
    {code other : String} {op : FieldOperator} {test : Test} {joins : List Join}
    : (Condition.fields code op other).plan fields clock used = .ok (test, joins)
      ↔ ∃ f g,
          Field.resolve? fields code = some f
          ∧ Field.resolve? fields other = some g
          ∧ test
            = op.test (f.columnAfter used).1
                (g.columnAfter (used + (f.columnAfter used).2.length)).1 clock
          ∧ joins
            = (f.columnAfter used).2
              ++ (g.columnAfter (used + (f.columnAfter used).2.length)).2 := by
  simp only [plan, bind_eq_ok_iff, Field.find_eq_ok_iff, pure, Except.pure,
    Except.ok.injEq, Prod.mk.injEq, exists_and_left]
  refine exists_congr fun f => and_congr_right fun _ => exists_congr fun g => ?_
  simp [eq_comm]

/-- It fails when the first of them does not resolve, or else when the second one does not. -/
theorem plan_fields_eq_error_iff {fields : List Field} {clock : Clock} {used : Nat}
    {code other : String} {op : FieldOperator} {ending : Ending FilterError}
    : (Condition.fields code op other).plan fields clock used = .error ending
      ↔ Field.find fields code = .error ending
        ∨ ∃ f, Field.resolve? fields code = some f ∧ Field.find fields other = .error ending := by
  simp [plan, bind_eq_error_iff, Field.find_eq_ok_iff, pure, Except.pure]

end Condition

namespace FilterExpr

theorem plan_condition_eq_ok_iff {fields : List Field} {clock : Clock} {used : Nat}
    {c : Condition} {p : Plan}
    : (condition c).plan fields clock used = .ok p
      ↔ ∃ test joins,
          c.plan fields clock used = .ok (test, joins)
          ∧ { predicate := .test test, joins } = p := by
  simp [plan, bind_eq_ok_iff, pure, Except.pure]

theorem plan_group_eq_ok_iff {fields : List Field} {clock : Clock} {used : Nat}
    {first : FilterExpr} {rest : List (Conjunction × FilterExpr)} {p : Plan}
    : (group first rest).plan fields clock used = .ok p
      ↔ ∃ head children joins,
          first.plan fields clock used = .ok head
          ∧ restPlan fields clock (used + head.joins.length) rest = .ok (children, joins)
          ∧ { predicate := .group head.predicate children, joins := head.joins ++ joins } = p := by
  simp [plan, bind_eq_ok_iff, pure, Except.pure]

theorem restPlan_cons_eq_ok_iff {fields : List Field} {clock : Clock} {used : Nat}
    {conjunction : Conjunction} {e : FilterExpr} {rest : List (Conjunction × FilterExpr)}
    {children : List (Conjunction × Predicate)} {joins : List Join}
    : restPlan fields clock used ((conjunction, e) :: rest) = .ok (children, joins)
      ↔ ∃ child later more,
          e.plan fields clock used = .ok child
          ∧ restPlan fields clock (used + child.joins.length) rest = .ok (later, more)
          ∧ (conjunction, child.predicate) :: later = children
          ∧ child.joins ++ more = joins := by
  simp [restPlan, bind_eq_ok_iff, pure, Except.pure]

end FilterExpr

-----------------------------------------------------------------------------------------
-- The conditions of a plan, one after the other
-----------------------------------------------------------------------------------------

namespace Predicate

mutual

/-- The tests of a predicate, from left to right. -/
def tests : Predicate → List Test
  | test t => [t]
  | group first rest => first.tests ++ restTests rest

def restTests : List (Conjunction × Predicate) → List Test
  | [] => []
  | (_, p) :: rest => p.tests ++ restTests rest

end

mutual

/-- The parameters of a predicate are those of its tests, by induction on the predicate. -/
theorem params_eq_flatMap_tests (p : Predicate) : p.params = p.tests.flatMap Test.params := by
  cases p with
  | test t => simp [params, tests]
  | group first rest =>
      rw [params, tests, List.flatMap_append, params_eq_flatMap_tests first,
        restParams_eq_flatMap_tests rest]

theorem restParams_eq_flatMap_tests (rest : List (Conjunction × Predicate))
    : restParams rest = (restTests rest).flatMap Test.params := by
  cases rest with
  | nil => simp [restParams, restTests]
  | cons child rest =>
      rw [restParams, restTests, List.flatMap_append, params_eq_flatMap_tests child.2,
        restParams_eq_flatMap_tests rest]

end

end Predicate

namespace Condition

/-- Conditions that are planned one after the other, the first one after `used` joins, have
these tests and need these joins.
-/
inductive Run (fields : List Field) (clock : Clock)
    : Nat → List Condition → List Test → List Join → Prop
  | nil {used} : Run fields clock used [] [] []
  | cons {used c conditions test tests joins more}
    (planned : c.plan fields clock used = .ok (test, joins))
    (later : Run fields clock (used + joins.length) conditions tests more)
    : Run fields clock used (c :: conditions) (test :: tests) (joins ++ more)

/-- Runs compose when the second one starts after the joins of the first, by induction on
the first.
-/
theorem Run.append {fields : List Field} {clock : Clock} {used : Nat}
    {left right : List Condition} {tests others : List Test} {joins more : List Join}
    (hl : Run fields clock used left tests joins)
    (hr : Run fields clock (used + joins.length) right others more)
    : Run fields clock used (left ++ right) (tests ++ others) (joins ++ more) := by
  induction hl with
  | nil => exact hr
  | cons planned _ ih =>
      rw [List.append_assoc]
      refine .cons planned (ih ?_)
      simpa only [List.length_append, Nat.add_assoc] using hr

/-- A property of every condition that a run plans holds of all tests of the run, by
induction on the run.
-/
theorem Run.forall_test {fields : List Field} {clock : Clock} {used : Nat}
    {conditions : List Condition} {tests : List Test} {joins : List Join} {P : Test → Prop}
    (run : Run fields clock used conditions tests joins)
    (each
      : ∀ c ∈ conditions, ∀ used test joins,
          c.plan fields clock used = .ok (test, joins) → P test)
    : ∀ test ∈ tests, P test := by
  induction run with
  | nil => simp
  | cons planned _ ih =>
      intro test member
      rcases List.mem_cons.mp member with rfl | member
      · exact each _ (by simp) _ _ _ planned
      · exact ih (fun c hc => each c (List.mem_cons_of_mem _ hc)) test member

end Condition

namespace FilterExpr

open Condition (Run)

mutual

/-- A plan is a run of its conditions, by induction on the expression. -/
theorem plan_run {fields : List Field} {clock : Clock} {used : Nat} {e : FilterExpr}
    {p : Plan} (h : e.plan fields clock used = .ok p)
    : Run fields clock used e.conditions p.predicate.tests p.joins := by
  cases e with
  | condition c =>
      obtain ⟨test, joins, planned, rfl⟩ := plan_condition_eq_ok_iff.mp h
      simpa only [conditions, Predicate.tests, List.append_nil] using Run.cons planned .nil
  | group first rest =>
      obtain ⟨head, children, joins, hf, hr, rfl⟩ := plan_group_eq_ok_iff.mp h
      simp only [conditions, Predicate.tests]
      exact (plan_run hf).append (restPlan_run hr)

theorem restPlan_run {fields : List Field} {clock : Clock} {used : Nat}
    {rest : List (Conjunction × FilterExpr)} {children : List (Conjunction × Predicate)}
    {joins : List Join} (h : restPlan fields clock used rest = .ok (children, joins))
    : Run fields clock used (restConditions rest) (Predicate.restTests children) joins := by
  cases rest with
  | nil =>
      simp only [restPlan, Except.ok.injEq, Prod.mk.injEq] at h
      obtain ⟨rfl, rfl⟩ := h
      exact .nil
  | cons child rest =>
      obtain ⟨head, later, more, hf, hr, rfl, rfl⟩ := restPlan_cons_eq_ok_iff.mp h
      simp only [restConditions, Predicate.restTests]
      exact (plan_run hf).append (restPlan_run hr)

end

mutual

/-- An expression is planned alike over two lists of fields and on two clocks when each of its
conditions is, errors included, by induction on the expression.
-/
theorem plan_eq_of_conditions {fields others : List Field} {clock later : Clock}
    {e : FilterExpr}
    (same : ∀ c ∈ e.conditions, ∀ used, c.plan fields clock used = c.plan others later used)
    (used : Nat)
    : e.plan fields clock used = e.plan others later used := by
  cases e with
  | condition c => rw [plan, plan, same c (by simp [conditions])]
  | group first rest =>
      rw [conditions] at same
      have head := plan_eq_of_conditions fun c hc => same c (List.mem_append_left _ hc)
      have tail := restPlan_eq_of_conditions fun c hc => same c (List.mem_append_right _ hc)
      simp only [plan, head, tail]

theorem restPlan_eq_of_conditions {fields others : List Field} {clock later : Clock}
    {rest : List (Conjunction × FilterExpr)}
    (same : ∀ c ∈ restConditions rest, ∀ used, c.plan fields clock used = c.plan others later used)
    (used : Nat)
    : restPlan fields clock used rest = restPlan others later used rest := by
  cases rest with
  | nil => rfl
  | cons child rest =>
      obtain ⟨conjunction, e⟩ := child
      rw [restConditions] at same
      have head := plan_eq_of_conditions fun c hc => same c (List.mem_append_left _ hc)
      have tail := restPlan_eq_of_conditions fun c hc => same c (List.mem_append_right _ hc)
      simp only [restPlan, head, tail]

end

/-- A query that compiles is the query of a plan from no joins on. -/
theorem compile_some_eq_ok_iff {table : ValueTable} {clock : Clock} {fields : List Field}
    {e : FilterExpr} {query : CompiledQuery}
    : compile table clock fields (some e) = .ok query
      ↔ ∃ p : Plan, e.plan fields clock 0 = .ok p ∧ p.query table = query := by
  simp only [compile, map_eq_ok_iff]

end FilterExpr

end FieldFilter
