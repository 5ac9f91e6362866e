import FieldFilter.Proofs.Compile.TestForm
import FieldFilter.Proofs.Sql.Evaluation

/-! Operators that negate each other. A negated operator selects exactly the entities that the plain
one leaves out, those with a missing value among them, and takes the same operands with the same
bound values.
-/

namespace FieldFilter

-----------------------------------------------------------------------------------------
-- Tests that complement each other
-----------------------------------------------------------------------------------------

/-- Two tests bind the same values, and for every entity exactly one of them selects it. -/
structure Test.Complements (test other : Test) : Prop where
  params : test.params = other.params
  selects
    : ∀ ⦃V : Type⦄ (engine : Engine V) (stored : Column → Option V),
        test.Selects (engine.answer stored) ↔ ¬ other.Selects (engine.answer stored)

/-- The term has a value for every entity: it reads no column, or says what stands for a missing
value.
-/
def Term.IsPresent (term : Term) : Prop :=
  ∀ ⦃V : Type⦄ (engine : Engine V) (stored : Column → Option V),
    ∃ v, engine.value stored term = some v

theorem Term.isPresent_bound (p : Parameter) : (bound p).IsPresent :=
  fun _ _ _ => ⟨_, rfl⟩

theorem Term.isPresent_literal (n : Nat) : (literal n).IsPresent :=
  fun _ _ _ => ⟨_, rfl⟩

theorem Term.isPresent_bytes (c : Column) : (bytes c).IsPresent :=
  fun _ _ _ => ⟨_, rfl⟩

theorem Term.isPresent_date (c : Column) (offset : Int) : (date c offset).IsPresent :=
  fun _ _ _ => ⟨_, rfl⟩

namespace Test

/-- Two values that are both there are equal or different. -/
theorem compare_complements {left right : Term} (hl : left.IsPresent) (hr : right.IsPresent)
    : (any [.compare .eq left right]).Complements (any [.compare .ne left right]) := by
  refine { params := by simp [params, atoms, Atom.params], selects := fun V engine stored => ?_ }
  obtain ⟨v, lv⟩ := hl engine stored
  obtain ⟨w, rw⟩ := hr engine stored
  simp [selects_any_iff, Engine.answer, lv, rw, engine.compare_ne]

/-- A column equals a value, or it differs from it or is missing. By cases on the column. -/
theorem equality_complements (c : Column) {term : Term} (present : term.IsPresent)
    : (equalTo c term).Complements (differentFrom c term) := by
  refine {
    params := by simp [params, equalTo, differentFrom, atoms, Atom.params, Term.params]
    selects := fun V engine stored => ?_
  }
  obtain ⟨w, tw⟩ := present engine stored
  cases own : stored c with
  | none => simp [equalTo, differentFrom, selects_any_iff, Engine.answer, own]
  | some v =>
      simp [equalTo, differentFrom, selects_any_iff, Engine.answer, own, tw, engine.compare_ne]

/-- A column is missing or has the empty text, or it is there and has another one. By cases on the
column and on whether it can hold the empty text.
-/
theorem blank_complements (storage : Storage) (c : Column)
    : (any (blankAtoms storage c)).Complements (all (filledAtoms storage c)) := by
  refine { params := ?_, selects := fun V engine stored => ?_ }
  · cases text : storage.holdsText <;>
      simp [blankAtoms, filledAtoms, text, params, atoms, Atom.params, Term.params]
  · rw [selects_any_iff, selects_all_iff]
    cases own : stored c with
    | none =>
        cases text : storage.holdsText <;>
          simp [blankAtoms, filledAtoms, text, Engine.answer, own]
    | some v =>
        cases text : storage.holdsText with
        | false => simp [blankAtoms, filledAtoms, text, Engine.answer, own]
        | true =>
            simp [blankAtoms, filledAtoms, text, Engine.answer, own, engine.compare_ne]

/-- A text is found at some place of a column, or it is found at none or the column is missing. -/
theorem found_complements (p : Parameter) (c : Column)
    : (any [.compare .gt (.locate p c) (.literal 0)]).Complements
        (any [.compare .eq (.locate p c) (.literal 0), .isNull c]) := by
  refine { params := by simp [params, atoms, Atom.params], selects := fun V engine stored => ?_ }
  cases own : stored c with
  | none => simp [selects_any_iff, Engine.answer, own]
  | some v =>
      simp [selects_any_iff, Engine.answer, own, engine.compare_ofNat, Comparison.Holds,
        Nat.pos_iff_ne_zero]

/-- A column contains one of some documents, or it contains none of them or is missing. -/
theorem included_complements (c : Column) (documents : List Parameter)
    : (any [.contains false c documents]).Complements
        (any [.isNull c, .contains true c documents]) := by
  refine { params := by simp [params, atoms, Atom.params], selects := fun V engine stored => ?_ }
  cases own : stored c with
  | none =>
      have nothing := engine.containsAny_ne_yes documents own
      simp [selects_any_iff, Engine.answer, own, nothing]
  | some v =>
      have two := engine.not_containsAny_iff documents own
      simp [selects_any_iff, Engine.answer, own, two]

end Test

-----------------------------------------------------------------------------------------
-- Operators that negate each other
-----------------------------------------------------------------------------------------

/-- The second operator with a literal is the negation of the first. -/
inductive LiteralOperator.Negates : LiteralOperator → LiteralOperator → Prop
  | equal : Negates equal notEqual
  | contains : Negates contains notContains
  | listInclude : Negates listInclude listNotInclude
  | isBlank : Negates isBlank isNotBlank

/-- The second operator between fields is the negation of the first. -/
inductive FieldOperator.Negates : FieldOperator → FieldOperator → Prop
  | same : Negates same notSame
  | sameDate : Negates sameDate notSameDate

/-- An operand is refused by two operators alike, or it is accepted by both with tests that complement
each other.
-/
inductive Test.Oppose
    : Except (Ending OperandFault) Test → Except (Ending OperandFault) Test → Prop
  | refused (fault) : Oppose (.error (.reported fault)) (.error (.reported fault))
  | accepted {test other} (complements : test.Complements other) : Oppose (.ok test) (.ok other)

/-- Tests that are built from the same reading of an operand oppose each other when what is built
does.
-/
theorem Test.Oppose.of_map {α : Type} {x : Except OperandFault α} {build other : α → Test}
    (complements : ∀ a, (build a).Complements (other a))
    : Oppose ((Ending.reporting x).map build) ((Ending.reporting x).map other) := by
  cases x with
  | error fault => exact .refused fault
  | ok a => exact .accepted (complements a)

namespace LiteralOperator

/-- What an equality compares with is there for every entity, by cases on what it compares with. -/
theorem isPresent_of_equalityTerm {type : FieldType} {operand : Json.Value} {term : Term}
    (h : equalityTerm type operand = .ok (some term))
    : term.IsPresent := by
  rcases equalityTerm_eq_ok_iff.mp h with ⟨_, h⟩ | ⟨_, _, b, _, h⟩ | ⟨_, _, p, _, h⟩
  · cases h
  · obtain rfl := Option.some.inj h
    exact Term.isPresent_literal _
  · obtain rfl := Option.some.inj h
    exact Term.isPresent_bound p

/-- An operator and its negation oppose each other on every operand, by cases on the pair. The
equalities compare with nothing when their operand is empty, and are tests for blanks then.
-/
theorem Negates.oppose {op negation : LiteralOperator} (negates : op.Negates negation)
    (type : FieldType) (c : Column) (clock : Clock) (operand : Json.Value)
    : Test.Oppose (op.test type c clock operand) (negation.test type c clock operand) := by
  cases negates with
  | equal =>
      cases read : equalityTerm type operand with
      | error fault =>
          simpa [test, read, Ending.reporting, bind, Except.bind] using Test.Oppose.refused fault
      | ok compared =>
          cases compared with
          | none =>
              simpa [test, read, Ending.reporting, bind, Except.bind, pure, Except.pure]
                using Test.Oppose.accepted (Test.blank_complements type.storage c)
          | some term =>
              have present := isPresent_of_equalityTerm read
              simpa [test, read, Ending.reporting, bind, Except.bind, pure, Except.pure]
                using Test.Oppose.accepted (Test.equality_complements c present)
  | contains => exact .of_map fun s => Test.found_complements (.text s) c
  | listInclude => exact .of_map fun documents => Test.included_complements c documents
  | isBlank => exact .accepted (Test.blank_complements type.storage c)

end LiteralOperator

/-- The tests of an operator between two columns and of its negation complement each other, by cases
on the pair. Both columns have something that stands for a missing value.
-/
theorem FieldOperator.Negates.complements {op negation : FieldOperator}
    (negates : op.Negates negation) (c other : Column) (clock : Clock)
    : (op.test c other clock).Complements (negation.test c other clock) := by
  cases negates with
  | same =>
      exact Test.compare_complements (Term.isPresent_bytes c) (Term.isPresent_bytes other)
  | sameDate =>
      exact Test.compare_complements (Term.isPresent_date c _) (Term.isPresent_date other _)

-----------------------------------------------------------------------------------------
-- Conditions
-----------------------------------------------------------------------------------------

/-- Two conditions on the same field with the same operand, with an operator and its negation. -/
inductive Condition.Negates : Condition → Condition → Prop
  | literal {code op negation operand} (negates : LiteralOperator.Negates op negation)
    : Negates (literal code op operand) (literal code negation operand)
  | fields {code op negation other} (negates : FieldOperator.Negates op negation)
    : Negates (fields code op other) (fields code negation other)

/-- Two conditions fail alike: for the same code, or for the same fault of their operand. -/
inductive Condition.FailAlike (c d : Condition) : FilterError → FilterError → Prop
  | same (error) : FailAlike c d error error
  | operand (code fault)
    : FailAlike c d (.malformedOperand code c.operator fault)
        (.malformedOperand code d.operator fault)

namespace Condition

/-- A condition and its negation fail alike, or they need the same joins, bind the same values, and
for every entity, whatever of its values is missing, exactly one of them selects it. By cases on what
the codes stand for and on how the operand is taken.
-/
theorem Negates.plan_complements {c d : Condition} (negates : c.Negates d) (fields : List Field)
    (clock : Clock) (used : Nat)
    : (∃ error other,
        c.plan fields clock used = .error (.reported error)
        ∧ d.plan fields clock used = .error (.reported other)
        ∧ c.FailAlike d error other)
      ∨ ∃ test other joins,
          c.plan fields clock used = .ok (test, joins)
          ∧ d.plan fields clock used = .ok (other, joins)
          ∧ test.Complements other := by
  cases negates with
  | @literal code op negation operand negates =>
      cases found : Field.find fields code with
      | error ending =>
          obtain ⟨_, rfl⟩ := Field.find_eq_error_iff.mp found
          exact .inl ⟨_, _, plan_literal_eq_error_iff.mpr (.inl found),
            plan_literal_eq_error_iff.mpr (.inl found), .same _⟩
      | ok f =>
          have resolved := Field.find_eq_ok_iff.mp found
          have oppose := negates.oppose f.type (f.columnAfter used).1 clock operand
          generalize first : op.test f.type (f.columnAfter used).1 clock operand = x at oppose
          generalize second : negation.test f.type (f.columnAfter used).1 clock operand = y at oppose
          cases oppose with
          | refused fault =>
              exact .inl ⟨_, _, plan_literal_eq_error_iff.mpr (.inr ⟨f, _, resolved, first, rfl⟩),
                plan_literal_eq_error_iff.mpr (.inr ⟨f, _, resolved, second, rfl⟩),
                .operand code fault⟩
          | accepted complements =>
              exact .inr ⟨_, _, _, plan_literal_eq_ok_iff.mpr ⟨f, resolved, first, rfl⟩,
                plan_literal_eq_ok_iff.mpr ⟨f, resolved, second, rfl⟩, complements⟩
  | @fields code op negation other negates =>
      cases found : Field.find fields code with
      | error ending =>
          obtain ⟨_, rfl⟩ := Field.find_eq_error_iff.mp found
          exact .inl ⟨_, _, plan_fields_eq_error_iff.mpr (.inl found),
            plan_fields_eq_error_iff.mpr (.inl found), .same _⟩
      | ok f =>
          have resolved := Field.find_eq_ok_iff.mp found
          cases foundOther : Field.find fields other with
          | error ending =>
              obtain ⟨_, rfl⟩ := Field.find_eq_error_iff.mp foundOther
              exact .inl ⟨_, _, plan_fields_eq_error_iff.mpr (.inr ⟨f, resolved, foundOther⟩),
                plan_fields_eq_error_iff.mpr (.inr ⟨f, resolved, foundOther⟩), .same _⟩
          | ok g =>
              have resolvedOther := Field.find_eq_ok_iff.mp foundOther
              exact .inr ⟨_, _, _,
                plan_fields_eq_ok_iff.mpr ⟨f, g, resolved, resolvedOther, rfl, rfl⟩,
                plan_fields_eq_ok_iff.mpr ⟨f, g, resolved, resolvedOther, rfl, rfl⟩,
                negates.complements _ _ clock⟩

end Condition

/-- The place of a text in another one, counted from one, or zero. -/
def placeOf (part : List Char) : List Char → Nat
  | [] => if part.isEmpty then 1 else 0
  | c :: cs =>
    if part.isPrefixOf (c :: cs) then 1
    else match placeOf part cs with
      | 0 => 0
      | place + 1 => place + 2

/-- An engine that compares numbers, tells other values apart and finds texts. -/
def plainEngine : Engine Parameter where
  ofParameter := id
  ofNat n := .int n
  emptyText := .text ""
  compare
    | relation, .int m, .int n => decide (relation.Holds m n)
    | .eq, v, w => decide (v = w)
    | .ne, v, w => !decide (v = w)
    | _, _, _ => false
  locate
    | .text part, .text whole => placeOf part.toList whole.toList
    | _, _ => 0
  length
    | .text s => .int s.length
    | v => v
  bytes := id
  date v offset :=
    match v with
    | .int t => .int ((t + offset) / Calendar.secondsPerDay)
    | v => v
  like v w := decide (v = w)
  regexp _ _ := false
  contains v w := decide (v = w)
  compare_ne v w := by
    cases v with
    | int m =>
        cases w with
        | int n => exact decide_not
        | _ => rfl
    | _ => rfl
  compare_ofNat _ _ _ := rfl

def remarkField : Field :=
  { code := "remark", id := 3, type := .text, placement := .fixed "r.remark", scope := 0,
    style := none }

/-- A guest without a remark is left out by the search for a text and selected by its negation. -/
theorem Condition.Negates.plan_complements_remark
    : let found : Test := .any [.compare .gt (.locate (.text "vip") (.fixed "r.remark")) (.literal 0)]
      let missed : Test :=
        .any
          [ .compare .eq (.locate (.text "vip") (.fixed "r.remark")) (.literal 0),
            .isNull (.fixed "r.remark") ]
      Negates (.literal "remark" .contains (.string "vip"))
          (.literal "remark" .notContains (.string "vip"))
        ∧ found.text .standard = "LOCATE(?, r.remark) > 0"
        ∧ missed.text .standard = "LOCATE(?, r.remark) = 0 OR r.remark IS NULL"
        ∧ found.params = missed.params
        ∧ ¬ found.Selects (plainEngine.answer fun _ => none)
        ∧ missed.Selects (plainEngine.answer fun _ => none)
        ∧ found.Selects (plainEngine.answer fun _ => some (.text "a vip"))
        ∧ ¬ missed.Selects (plainEngine.answer fun _ => some (.text "a vip")) := by
  intro found missed
  have negates
      : Negates (.literal "remark" .contains (.string "vip"))
          (.literal "remark" .notContains (.string "vip")) :=
    .literal .contains
  have planned
      : (Condition.literal "remark" .contains (.string "vip")).plan [remarkField] ⟨.utc, 0⟩ 0
        = .ok (found, []) := rfl
  have opposite
      : (Condition.literal "remark" .notContains (.string "vip")).plan [remarkField] ⟨.utc, 0⟩ 0
        = .ok (missed, []) := rfl
  rcases plan_complements negates [remarkField] ⟨.utc, 0⟩ 0 with
    ⟨error, _, failed, _⟩ | ⟨test, other, joins, ht, ho, complements⟩
  · cases planned.symm.trans failed
  · obtain ⟨rfl, _⟩ := Prod.mk.inj (Except.ok.inj (planned.symm.trans ht))
    obtain ⟨rfl, _⟩ := Prod.mk.inj (Except.ok.inj (opposite.symm.trans ho))
    have without : missed.Selects (plainEngine.answer fun _ => none) := rfl
    have within : found.Selects (plainEngine.answer fun _ => some (.text "a vip")) := rfl
    refine ⟨negates, by decide, by decide, complements.params, ?_, without, within, ?_⟩
    · exact fun selected => (complements.selects plainEngine _).mp selected without
    · exact (complements.selects plainEngine _).mp within

end FieldFilter
