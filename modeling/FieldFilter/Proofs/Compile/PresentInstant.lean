import FieldFilter.Proofs.Compile.LiteralIndependence

/-! What the present instant changes. Most operators do not look at it. Those that do move what they
bind by as much as the instant moves from which they count, and nothing else of a query changes as
long as the clock keeps its offset.
-/

namespace FieldFilter

-----------------------------------------------------------------------------------------
-- Operators that look at the present instant
-----------------------------------------------------------------------------------------

/-- The operator looks at the present instant, or at what the clock is ahead at that instant. -/
def Operator.readsPresent : Operator → Bool
  | literal .rangeFrom | literal .rangeTo => true
  | literal .nowGreaterThan | literal .nowLessThan => true
  | field .sameDate | field .notSameDate => true
  | _ => false

/-- An operator with a literal that does not look at the present instant has the same test at all
instants, by cases on the operator.
-/
theorem LiteralOperator.test_of_not_readsPresent {op : LiteralOperator}
    (blind : (Operator.literal op).readsPresent = false) (type : FieldType) (c : Column)
    (zone : Calendar.Zone) (now later : Int) (operand : Json.Value)
    : op.test type c ⟨zone, now⟩ operand = op.test type c ⟨zone, later⟩ operand := by
  cases op with
  | rangeFrom | rangeTo | nowGreaterThan | nowLessThan => cases blind
  | _ => rfl

theorem FieldOperator.test_of_not_readsPresent {op : FieldOperator}
    (blind : (Operator.field op).readsPresent = false) (c other : Column) (clock later : Clock)
    : op.test c other clock = op.test c other later := by
  cases op with
  | sameDate | notSameDate => cases blind
  | _ => rfl

/-- A condition whose operator does not look at the present instant is planned alike at all
instants, errors included.
-/
theorem Condition.plan_of_not_readsPresent {condition : Condition}
    (blind : condition.operator.readsPresent = false) (fields : List Field) (zone : Calendar.Zone)
    (now later : Int) (used : Nat)
    : condition.plan fields ⟨zone, now⟩ used = condition.plan fields ⟨zone, later⟩ used := by
  cases condition with
  | literal code op operand =>
      have same := LiteralOperator.test_of_not_readsPresent blind
      simp only [plan, same _ _ zone now later]
  | fields code op other =>
      have same := FieldOperator.test_of_not_readsPresent blind
      simp only [plan, same _ _ ⟨zone, now⟩ ⟨zone, later⟩]

-----------------------------------------------------------------------------------------
-- How far the bound instants move
-----------------------------------------------------------------------------------------

namespace Operand

/-- The instant that an anchor counts from. -/
def Anchor.base (clock : Clock) : Anchor → Int
  | beforeNow | afterNow => clock.now
  | beforeToday | afterToday => clock.today

/-- The anchor that the letter of a relative offset stands for. -/
def anchor? : Json.Value → Option Anchor
  | .string s => (Text.trim s.toList).head?.bind Anchor.ofChar?
  | _ => none

/-- The instant that is a number of seconds away from an anchor moves with what it counts from. -/
theorem Anchor.target_of_base (anchor : Anchor) (clock later : Clock) (seconds : Int)
    : anchor.target later seconds
      = anchor.target clock seconds + (anchor.base later - anchor.base clock) := by
  cases anchor <;>
    simp only [target, base] <;>
    omega

/-- A relative offset that is accepted is a text with an anchor and a number of seconds, which lead to
an instant of 64 bits; the clock has no part in either.
-/
theorem relativeInstant_eq_ok_iff {clock : Clock} {operand : Json.Value} {t : Int}
    : relativeInstant clock operand = .ok t
      ↔ ∃ s anchor seconds,
          operand = .string s
          ∧ anchor? operand = some anchor
          ∧ offsetSeconds (Text.trim s.toList) = .ok seconds
          ∧ Word.Fits (anchor.target clock seconds)
          ∧ t = anchor.target clock seconds := by
  constructor
  · intro h
    cases operand with
    | string s =>
        obtain ⟨seconds, read, h⟩ := bind_eq_ok_iff.mp h
        cases letter : (Text.trim s.toList).head?.bind Anchor.ofChar? with
        | none => simp [letter] at h
        | some anchor =>
            simp only [letter] at h
            cases checked : Word.check? (anchor.target clock seconds) with
            | none => simp [checked] at h
            | some u =>
                simp only [checked, Except.ok.injEq] at h
                obtain ⟨fits, target⟩ := Word.check?_eq_some_iff.mp checked
                exact ⟨s, anchor, seconds, rfl, letter, read, fits, h ▸ target.symm⟩
    | _ => cases h
  · rintro ⟨s, anchor, seconds, rfl, letter, read, fits, rfl⟩
    have named : (Text.trim s.toList).head?.bind Anchor.ofChar? = some anchor := letter
    have checked := Word.check?_eq_some_iff.mpr ⟨fits, rfl⟩
    refine bind_eq_ok_iff.mpr ⟨seconds, read, ?_⟩
    simp only [named, checked]

/-- The instants of one relative offset on two clocks are as far apart as what its anchor counts from.
-/
theorem relativeInstant_moves {clock later : Clock} {operand : Json.Value} {t u : Int}
    (before : relativeInstant clock operand = .ok t)
    (after : relativeInstant later operand = .ok u)
    : ∃ anchor,
        anchor? operand = some anchor ∧ u = t + (anchor.base later - anchor.base clock) := by
  obtain ⟨s, anchor, seconds, rfl, letter, read, _, rfl⟩ := relativeInstant_eq_ok_iff.mp before
  obtain ⟨_, other, more, same, letter', read', _, rfl⟩ := relativeInstant_eq_ok_iff.mp after
  obtain rfl := Json.Value.string.inj same
  obtain rfl := Option.some.inj (letter.symm.trans letter')
  obtain rfl := Except.ok.inj (read.symm.trans read')
  exact ⟨anchor, letter, anchor.target_of_base clock later seconds⟩

end Operand

/-- How far the instant moves from which the operand of an operator counts: the present instant for
the two comparisons with it, and what the anchor counts from for the two ends of a relative range.
The other operators bind nothing that moves.
-/
def LiteralOperator.movement (clock later : Clock) (operand : Json.Value)
    : LiteralOperator → Option Int
  | nowGreaterThan | nowLessThan => some (later.now - clock.now)
  | rangeFrom | rangeTo =>
    (Operand.anchor? operand).map fun anchor => anchor.base later - anchor.base clock
  | _ => none

def Condition.movement (clock later : Clock) : Condition → Option Int
  | literal _ op operand => op.movement clock later operand
  | fields .. => none

/-- The values that a condition binds on two clocks: the same ones, or one instant that moves. -/
inductive Parameter.Moved : Option Int → List Parameter → List Parameter → Prop
  | kept (values) : Moved none values values
  | moved (t distance : Int) : Moved (some distance) [.int t] [.int (t + distance)]

/-- Both ends of a relative range bind the one instant, which moves with its anchor. -/
theorem Operand.relativeInstant_moved {clock later : Clock} {operand : Json.Value}
    {relation : Comparison} {c : Column} {test other : Test}
    (before
      : ((Ending.reporting (relativeInstant clock operand)).map fun t =>
            Test.any [Test.compared relation c (.int t)])
        = .ok test)
    (after
      : ((Ending.reporting (relativeInstant later operand)).map fun t =>
            Test.any [Test.compared relation c (.int t)])
        = .ok other)
    : Parameter.Moved
        ((anchor? operand).map fun anchor => anchor.base later - anchor.base clock)
        test.params other.params := by
  obtain ⟨t, ht, rfl⟩ := map_eq_ok_iff.mp before
  obtain ⟨u, hu, rfl⟩ := map_eq_ok_iff.mp after
  obtain ⟨anchor, letter, rfl⟩ :=
    relativeInstant_moves (Ending.reporting_eq_ok_iff.mp ht) (Ending.reporting_eq_ok_iff.mp hu)
  rw [letter]
  exact .moved t _

/-- The values of an operator with a literal move as far as the instant does from which its operand
counts, by cases on the operator.
-/
theorem LiteralOperator.params_moved {op : LiteralOperator} {type : FieldType} {c : Column}
    {zone : Calendar.Zone} {now later : Int} {operand : Json.Value} {test other : Test}
    (before : op.test type c ⟨zone, now⟩ operand = .ok test)
    (after : op.test type c ⟨zone, later⟩ operand = .ok other)
    : Parameter.Moved (op.movement ⟨zone, now⟩ ⟨zone, later⟩ operand) test.params other.params := by
  cases op with
  | nowGreaterThan | nowLessThan =>
      obtain rfl := Except.ok.inj before
      obtain rfl := Except.ok.inj after
      have moved := Parameter.Moved.moved now (later - now)
      have reached : now + (later - now) = later := by omega
      rwa [reached] at moved
  | rangeFrom => exact Operand.relativeInstant_moved before after
  | rangeTo => exact Operand.relativeInstant_moved before after
  | _ =>
      rw [test_of_not_readsPresent rfl type c zone now later operand] at before
      obtain rfl := Except.ok.inj (before.symm.trans after)
      exact .kept _

/-- No test between two columns binds a value. -/
theorem FieldOperator.params_test (op : FieldOperator) (c other : Column) (clock : Clock)
    : (op.test c other clock).params = [] := by
  cases op <;> rfl

/-- The values of a condition move as far as the instant does from which it counts. -/
theorem Condition.params_moved {condition : Condition} {fields : List Field}
    {zone : Calendar.Zone} {now later : Int} {used : Nat} {test other : Test}
    {joins more : List Join} (before : condition.plan fields ⟨zone, now⟩ used = .ok (test, joins))
    (after : condition.plan fields ⟨zone, later⟩ used = .ok (other, more))
    : Parameter.Moved (condition.movement ⟨zone, now⟩ ⟨zone, later⟩) test.params other.params := by
  cases condition with
  | literal code op operand =>
      obtain ⟨f, hf, ht, _⟩ := plan_literal_eq_ok_iff.mp before
      obtain ⟨g, hg, ho, _⟩ := plan_literal_eq_ok_iff.mp after
      obtain rfl := Option.some.inj (hf.symm.trans hg)
      exact LiteralOperator.params_moved ht ho
  | fields code op other =>
      obtain ⟨_, _, _, _, rfl, _⟩ := plan_fields_eq_ok_iff.mp before
      obtain ⟨_, _, _, _, rfl, _⟩ := plan_fields_eq_ok_iff.mp after
      simp only [FieldOperator.params_test]
      exact .kept []

-----------------------------------------------------------------------------------------
-- Whole expressions
-----------------------------------------------------------------------------------------

/-- The facts about an operand that the text of a test may depend on are those of the operand itself,
by cases on the operator.
-/
theorem LiteralOperator.Alike.refl (op : LiteralOperator) (type : FieldType) (operand : Json.Value)
    : op.Alike type operand operand := by
  cases op with
  | equal | notEqual =>
      exact ⟨rfl, fun _ _ _ _ ha hb => Except.ok.inj (ha.symm.trans hb)⟩
  | regex =>
      intro a b ha hb
      rw [Option.some.inj (ha.symm.trans hb)]
  | listInclude | listNotInclude => rfl
  | _ => trivial

theorem Condition.Alike.refl (fields : List Field) (condition : Condition)
    : condition.Alike fields condition := by
  cases condition with
  | literal code op operand => exact .literal fun f _ => LiteralOperator.Alike.refl op f.type operand
  | fields => exact .fields

/-- Conditions that are planned one after the other at two instants bind values that move with what
each of them counts from, by induction on the run at the first instant.
-/
theorem Condition.Run.moved {fields : List Field} {zone : Calendar.Zone} {now later : Int}
    {used : Nat} {conditions : List Condition} {tests others : List Test} {joins more : List Join}
    (offset : Clock.offset ⟨zone, now⟩ = Clock.offset ⟨zone, later⟩)
    (before : Run fields ⟨zone, now⟩ used conditions tests joins)
    (after : Run fields ⟨zone, later⟩ used conditions others more)
    : ∀ c test other,
        (c, test, other) ∈ conditions.zip (tests.zip others)
        → Parameter.Moved (c.movement ⟨zone, now⟩ ⟨zone, later⟩) test.params other.params := by
  induction before generalizing others more with
  | nil => simp
  | cons planned _ ih =>
      cases after with
      | cons replanned run =>
          obtain ⟨_, rfl⟩ := (Alike.refl fields _).plan_skeleton offset planned replanned
          intro c test other member
          rcases List.mem_cons.mp member with same | member
          · cases same
            exact params_moved planned replanned
          · exact ih run c test other member

namespace FilterExpr

mutual

/-- An expression is alike to itself, by induction on the expression. -/
theorem Alike.refl (fields : List Field) (e : FilterExpr) : Alike fields e e := by
  cases e with
  | condition c => exact .condition (Condition.Alike.refl fields c)
  | group first rest => exact .group (Alike.refl fields first) (RestAlike.refl fields rest)

theorem RestAlike.refl (fields : List Field) (rest : List (Conjunction × FilterExpr))
    : RestAlike fields rest rest := by
  cases rest with
  | nil => exact .nil
  | cons child rest => exact .cons (Alike.refl fields child.2) (RestAlike.refl fields rest)

end

/-- The conditions of a filter; no filter has none. -/
def conditionsOf (e : Option FilterExpr) : List Condition :=
  e.elim [] conditions

end FilterExpr

/-- Two queries have the same text, and the values that they bind are those of the same conditions at
two instants. The values of each condition move as far as what the condition counts from.
-/
structure CompiledQuery.MovesWith (fields : List Field) (clock later : Clock)
    (conditions : List Condition) (query other : CompiledQuery)
    : Prop where
  predicate : query.predicate = other.predicate
  joins : query.joins = other.joins
  params
    : ∃ tests others joins more,
        Condition.Run fields clock 0 conditions tests joins
        ∧ Condition.Run fields later 0 conditions others more
        ∧ query.params = tests.flatMap Test.params
        ∧ other.params = others.flatMap Test.params
        ∧ ∀ c test other,
            (c, test, other) ∈ conditions.zip (tests.zip others)
            → Parameter.Moved (c.movement clock later) test.params other.params

namespace FilterExpr

/-- A filter without an operator that looks at the present instant compiles alike at all instants,
errors included, as each of its conditions is planned alike.
-/
theorem compile_of_not_readsPresent {e : Option FilterExpr}
    (blind : ∀ c ∈ conditionsOf e, c.operator.readsPresent = false) (table : ValueTable)
    (zone : Calendar.Zone) (now later : Int) (fields : List Field)
    : compile table ⟨zone, now⟩ fields e = compile table ⟨zone, later⟩ fields e := by
  cases e with
  | none => rfl
  | some e =>
      have same := plan_eq_of_conditions fun c member =>
        Condition.plan_of_not_readsPresent (blind c member) fields zone now later
      rw [compile, compile, same 0]

/-- What a filter compiles to at two instants at which the clock has one offset differs in the values
that move alone.
-/
theorem compile_movesWith {table : ValueTable} {zone : Calendar.Zone} {now later : Int}
    {fields : List Field} {e : Option FilterExpr} {query other : CompiledQuery}
    (offset : Clock.offset ⟨zone, now⟩ = Clock.offset ⟨zone, later⟩)
    (before : compile table ⟨zone, now⟩ fields e = .ok query)
    (after : compile table ⟨zone, later⟩ fields e = .ok other)
    : query.MovesWith fields ⟨zone, now⟩ ⟨zone, later⟩ (conditionsOf e) other := by
  cases e with
  | none =>
      obtain rfl := Except.ok.inj before
      obtain rfl := Except.ok.inj after
      exact ⟨rfl, rfl, [], [], [], [], .nil, .nil, rfl, rfl, by simp [conditionsOf]⟩
  | some e =>
      obtain ⟨p, hp, rfl⟩ := compile_some_eq_ok_iff.mp before
      obtain ⟨q, hq, rfl⟩ := compile_some_eq_ok_iff.mp after
      obtain ⟨same, joins⟩ := (Alike.refl fields e).plan_skeleton offset hp hq
      have first := plan_run hp
      have second := plan_run hq
      exact {
        predicate := Predicate.text_eq_of_skeleton_eq same table
        joins := congrArg (List.map (Join.text table)) joins
        params :=
          ⟨p.predicate.tests, q.predicate.tests, p.joins, q.joins, first, second,
            p.predicate.params_eq_flatMap_tests, q.predicate.params_eq_flatMap_tests,
            first.moved offset second⟩
      }

/-- What the present instant changes. A filter without an operator that looks at it compiles alike at
all instants. Any filter that compiles at two instants at which the clock has one offset compiles to
one text with one list of joins, and its values move with what their conditions count from.
-/
theorem compile_follows_present (table : ValueTable) (zone : Calendar.Zone) (now later : Int)
    (fields : List Field) (e : Option FilterExpr)
    : ((∀ c ∈ conditionsOf e, c.operator.readsPresent = false)
        → compile table ⟨zone, now⟩ fields e = compile table ⟨zone, later⟩ fields e)
      ∧ (zone.history.offsetAt now = zone.history.offsetAt later
        → ∀ query other,
            compile table ⟨zone, now⟩ fields e = .ok query
            → compile table ⟨zone, later⟩ fields e = .ok other
            → query.MovesWith fields ⟨zone, now⟩ ⟨zone, later⟩ (conditionsOf e) other) :=
  ⟨fun blind => compile_of_not_readsPresent blind table zone now later fields,
    fun offset _ _ before after => compile_movesWith offset before after⟩

/-- A date in a column of its own, and one in the value table. -/
def nightFields : List Field :=
  [ { code := "arrival", id := 5, type := .date, placement := .fixed "r.arrival", scope := 0,
      style := none },
    { code := "departure", id := 6, type := .date, placement := .custom, scope := 0,
      style := none } ]

/-- Guests that arrived in the last three days and have left, or that stay over a night. -/
def nightFilter : FilterExpr :=
  .group (.condition (.literal "arrival" .rangeFrom (.string "b3")))
    [ (.and, .condition (.literal "departure" .nowGreaterThan .null)),
      (.or, .condition (.fields "arrival" .notSameDate "departure")) ]

def arrivedFilter : FilterExpr :=
  .condition (.literal "arrival" .isNotBlank .null)

/-- What the filter compiles to in Tokyo, with the start of the range and the present instant. -/
def nightQuery (start now : Int) : CompiledQuery :=
  Plan.query .standard
    { predicate :=
        .group (.test (.any [Test.compared .ge (.fixed "r.arrival") (.int start)]))
          [ (.and, .test (.any [Test.compared .lt (.joined 1 .numeric) (.int now)])),
            (.or,
              .test
                (.any
                  [ .compare .ne (.date (.fixed "r.arrival") 32400)
                      (.date (.joined 2 .numeric) 32400) ])) ]
      joins := [{ number := 1, fieldId := 6 }, { number := 2, fieldId := 6 }] }

/-- Twenty-five hours later the present instant has moved by as much, and the start of the day by
twenty-four hours. Whether there is an arrival at all does not depend on either.
-/
theorem compile_follows_present_night
    : let zone : Calendar.Zone := { name := "Asia/Tokyo", history := .tokyo }
      let query := nightQuery 1699714800 1700000000
      let other := nightQuery 1699801200 1700090000
      compile .standard ⟨zone, 1700000000⟩ nightFields (some nightFilter) = .ok query
        ∧ compile .standard ⟨zone, 1700090000⟩ nightFields (some nightFilter) = .ok other
        ∧ query.params = [.int 1699714800, .int 1700000000]
        ∧ other.params = [.int 1699801200, .int 1700090000]
        ∧ query.MovesWith nightFields ⟨zone, 1700000000⟩ ⟨zone, 1700090000⟩
            nightFilter.conditions other
        ∧ compile .standard ⟨zone, 1700000000⟩ nightFields (some arrivedFilter)
          = compile .standard ⟨zone, 1700090000⟩ nightFields (some arrivedFilter) := by
  intro zone query other
  have before : compile .standard ⟨zone, 1700000000⟩ nightFields (some nightFilter) = .ok query :=
    compile_some_eq_ok_iff.mpr ⟨_, rfl, rfl⟩
  have after : compile .standard ⟨zone, 1700090000⟩ nightFields (some nightFilter) = .ok other :=
    compile_some_eq_ok_iff.mpr ⟨_, rfl, rfl⟩
  have follows := compile_follows_present .standard zone 1700000000 1700090000 nightFields
  have blind : ∀ c ∈ conditionsOf (some arrivedFilter), c.operator.readsPresent = false := by
    simp [conditionsOf, arrivedFilter, conditions, Condition.operator, Operator.readsPresent]
  exact ⟨before, after, rfl, rfl, (follows (some nightFilter)).2 rfl query other before after,
    (follows (some arrivedFilter)).1 blind⟩

end FilterExpr

end FieldFilter
