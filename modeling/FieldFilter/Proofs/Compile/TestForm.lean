import FieldFilter.Proofs.Compile.ConditionRun

/-! The tests that conditions compile to have few forms, and each of them reads only the columns
of its condition. Facts about the text of tests are proved for the forms, not operator by operator.
-/

namespace FieldFilter

-----------------------------------------------------------------------------------------
-- The columns that a test reads
-----------------------------------------------------------------------------------------

def Term.columns : Term → List Column
  | column c | locate _ c | length c | bytes c | date c _ => [c]
  | bound _ | literal _ | emptyText => []

/-- The columns of an atom, from left to right. -/
def Atom.columns : Atom → List Column
  | compare _ left right => left.columns ++ right.columns
  | isNull c | isNotNull c | like c _ | regexp c _ | between c _ _ | contains _ c _ => [c]

/-- The columns of a test, from left to right. -/
def Test.columns (test : Test) : List Column :=
  test.atoms.flatMap Atom.columns

-----------------------------------------------------------------------------------------
-- The forms of a test
-----------------------------------------------------------------------------------------

namespace Test

/-- The forms of a test on one column of a kind of storage. -/
inductive Form (storage : Storage) (c : Column) : Test → Prop
  | blank : Form storage c (any (blankAtoms storage c))
  | filled : Form storage c (all (filledAtoms storage c))
  | equalToBound (p) : Form storage c (equalTo c (.bound p))
  | equalToLiteral (n) : Form storage c (equalTo c (.literal n))
  | differentFromBound (p) : Form storage c (differentFrom c (.bound p))
  | differentFromLiteral (n) : Form storage c (differentFrom c (.literal n))
  | compared (relation p) : Form storage c (any [compared relation c p])
  | found (p) : Form storage c (any [.compare .gt (.locate p c) (.literal 0)])
  | notFound (p)
    : Form storage c (any [.compare .eq (.locate p c) (.literal 0), .isNull c])
  | like (p) : Form storage c (any [.like c p])
  | between (least greatest) : Form storage c (any [.between c least greatest])
  | length (relation p) : Form storage c (any [.compare relation (.length c) (.bound p)])
  | regexp (p) : Form storage c (any [.regexp c p])
  | blankOrRegexp (p) : Form storage c (any (blankAtoms storage c ++ [.regexp c p]))
  | included (documents) : Form storage c (any [.contains false c documents])
  | notIncluded (documents)
    : Form storage c (any [.isNull c, .contains true c documents])
  | during (start next)
    : Form storage c (all [compared .ge c (.int start), compared .lt c (.int next)])
  | outside (start next)
    : Form storage c (any [compared .lt c (.int start), compared .ge c (.int next)])

/-- A comparison of dates compares with one or with both ends of the day, by cases on the
relation.
-/
theorem dateIs_form (storage : Storage) (relation : Comparison) (c : Column) (start next : Int)
    : Form storage c (dateIs relation c start next) := by
  cases relation with
  | eq => exact .during start next
  | ne => exact .outside start next
  | lt => exact .compared .lt (.int start)
  | gt => exact .compared .ge (.int next)
  | le => exact .compared .lt (.int next)
  | ge => exact .compared .ge (.int start)

/-- Every form reads the one column, by cases on the form and on the storage. -/
theorem Form.columns {storage : Storage} {c : Column} {test : Test}
    (form : Form storage c test)
    : ∀ column ∈ test.columns, column = c := by
  intro column member
  cases form with
  | blank | filled | blankOrRegexp =>
      cases hs : storage.holdsText <;>
        simpa [Test.columns, atoms, blankAtoms, filledAtoms, hs, Atom.columns, Term.columns]
          using member
  | _ =>
      simpa [Test.columns, atoms, equalTo, differentFrom, Test.compared, Atom.columns,
        Term.columns] using member

end Test

namespace LiteralOperator

open Test (Form)

/-- An equality compares with nothing when its operand is empty, with a truth value in the text
on a Boolean field, and with a bound value otherwise.
-/
theorem equalityTerm_eq_ok_iff {type : FieldType} {operand : Json.Value} {term : Option Term}
    : equalityTerm type operand = .ok term
      ↔ Operand.isEmpty operand ∧ none = term
        ∨ ¬ Operand.isEmpty operand
          ∧ type = .boolean
          ∧ (∃ b, Operand.truth operand = .ok b ∧ some (.literal (if b then 1 else 0)) = term)
        ∨ ¬ Operand.isEmpty operand
          ∧ type ≠ .boolean
          ∧ (∃ p, Operand.scalar operand = .ok p ∧ some (.bound p) = term) := by
  unfold equalityTerm
  by_cases he : Operand.isEmpty operand
  · simp [he]
  · by_cases ht : type = .boolean
    · simp [he, ht, map_eq_ok_iff]
    · simp [he, ht, map_eq_ok_iff]

/-- An equality with something has its form, by cases on what it compares with. -/
theorem equality_form {type : FieldType} {c : Column} {operand : Json.Value} {term : Term}
    (h : equalityTerm type operand = .ok (some term))
    : Form type.storage c (Test.equalTo c term)
      ∧ Form type.storage c (Test.differentFrom c term) := by
  rcases equalityTerm_eq_ok_iff.mp h with ⟨_, h⟩ | ⟨_, _, b, _, h⟩ | ⟨_, _, p, _, h⟩
  · cases h
  · obtain rfl := Option.some.inj h
    exact ⟨.equalToLiteral _, .differentFromLiteral _⟩
  · obtain rfl := Option.some.inj h
    exact ⟨.equalToBound p, .differentFromBound p⟩

/-- The test of an operator with a literal has one of the forms, by cases on the operator.
Only the two equalities and the class of texts choose between forms.
-/
theorem test_form {op : LiteralOperator} {type : FieldType} {c : Column} {clock : Clock}
    {operand : Json.Value} {found : Test} (h : op.test type c clock operand = .ok found)
    : Form type.storage c found := by
  cases op with
  | equal =>
      obtain ⟨term, ht, h⟩ := bind_eq_ok_iff.mp h
      cases term with
      | none =>
          obtain rfl := Except.ok.inj h
          exact .blank
      | some term =>
          obtain rfl := Except.ok.inj h
          exact (equality_form (Ending.reporting_eq_ok_iff.mp ht)).1
  | notEqual =>
      obtain ⟨term, ht, h⟩ := bind_eq_ok_iff.mp h
      cases term with
      | none =>
          obtain rfl := Except.ok.inj h
          exact .filled
      | some term =>
          obtain rfl := Except.ok.inj h
          exact (equality_form (Ending.reporting_eq_ok_iff.mp ht)).2
  | less =>
      obtain ⟨p, _, rfl⟩ := map_eq_ok_iff.mp h
      exact .compared .lt p
  | greater =>
      obtain ⟨p, _, rfl⟩ := map_eq_ok_iff.mp h
      exact .compared .gt p
  | lessOrEqual =>
      obtain ⟨p, _, rfl⟩ := map_eq_ok_iff.mp h
      exact .compared .le p
  | greaterOrEqual =>
      obtain ⟨p, _, rfl⟩ := map_eq_ok_iff.mp h
      exact .compared .ge p
  | contains =>
      obtain ⟨s, _, rfl⟩ := map_eq_ok_iff.mp h
      exact .found (.text s)
  | notContains =>
      obtain ⟨s, _, rfl⟩ := map_eq_ok_iff.mp h
      exact .notFound (.text s)
  | startsWith =>
      obtain ⟨s, _, rfl⟩ := map_eq_ok_iff.mp h
      exact .like (.text (Like.startingWith s))
  | endsWith =>
      obtain ⟨s, _, rfl⟩ := map_eq_ok_iff.mp h
      exact .like (.text (Like.endingWith s))
  | between =>
      obtain ⟨⟨least, greatest⟩, _, rfl⟩ := map_eq_ok_iff.mp h
      exact .between least greatest
  | minLength =>
      obtain ⟨n, _, rfl⟩ := map_eq_ok_iff.mp h
      exact .length .ge (.int n)
  | maxLength =>
      obtain ⟨n, _, rfl⟩ := map_eq_ok_iff.mp h
      exact .length .le (.int n)
  | regex =>
      obtain ⟨cls, _, rfl⟩ := map_eq_ok_iff.mp h
      cases hb : cls.acceptsBlank with
      | true => simpa [hb] using Form.blankOrRegexp (.text cls.pattern)
      | false => simpa [hb] using Form.regexp (.text cls.pattern)
  | isBlank =>
      obtain rfl := Except.ok.inj h
      exact .blank
  | isNotBlank =>
      obtain rfl := Except.ok.inj h
      exact .filled
  | listInclude =>
      obtain ⟨documents, _, rfl⟩ := map_eq_ok_iff.mp h
      exact .included documents
  | listNotInclude =>
      obtain ⟨documents, _, rfl⟩ := map_eq_ok_iff.mp h
      exact .notIncluded documents
  | rangeFrom =>
      obtain ⟨t, _, rfl⟩ := map_eq_ok_iff.mp h
      exact .compared .ge (.int t)
  | rangeTo =>
      obtain ⟨t, _, rfl⟩ := map_eq_ok_iff.mp h
      exact .compared .le (.int t)
  | nowGreaterThan =>
      obtain rfl := Except.ok.inj h
      exact .compared .lt (.int clock.now)
  | nowLessThan =>
      obtain rfl := Except.ok.inj h
      exact .compared .gt (.int clock.now)
  | date relation =>
      obtain ⟨⟨start, next⟩, _, rfl⟩ := map_eq_ok_iff.mp h
      exact Test.dateIs_form type.storage relation c start next

end LiteralOperator

/-- The test of an operator between two columns reads both, by cases on the operator. -/
theorem FieldOperator.test_columns {op : FieldOperator} {c other : Column} {clock : Clock}
    : ∀ column ∈ (op.test c other clock).columns, column = c ∨ column = other := by
  intro column member
  cases op <;>
    simpa [test, Test.columns, Test.atoms, Atom.columns, Term.columns] using member

-----------------------------------------------------------------------------------------
-- Where the columns of a condition come from
-----------------------------------------------------------------------------------------

/-- The column stands for a field that one of the codes resolves to: it is that field's fixed
column, or it reads a join of the value table.
-/
def Column.ComesFrom (fields : List Field) (codes : List String) (c : Column) : Prop :=
  ∃ code ∈ codes, ∃ f, Field.resolve? fields code = some f ∧ ∃ used, c = (f.columnAfter used).1

theorem Column.ComesFrom.mono {fields : List Field} {codes more : List String} {c : Column}
    (h : c.ComesFrom fields codes) (subset : codes ⊆ more)
    : c.ComesFrom fields more := by
  obtain ⟨code, member, resolved⟩ := h
  exact ⟨code, subset member, resolved⟩

/-- A condition reads the columns of its own fields only, by the form of its test. -/
theorem Condition.plan_columns {fields : List Field} {clock : Clock} {used : Nat}
    {condition : Condition} {test : Test} {joins : List Join}
    (h : condition.plan fields clock used = .ok (test, joins))
    : ∀ c ∈ test.columns, c.ComesFrom fields condition.codes := by
  intro c member
  cases condition with
  | literal code op operand =>
      obtain ⟨f, hf, ht, _⟩ := plan_literal_eq_ok_iff.mp h
      have same := (LiteralOperator.test_form ht).columns c member
      exact ⟨code, by simp [codes], f, hf, used, same⟩
  | fields code op other =>
      obtain ⟨f, g, hf, hg, rfl, _⟩ := plan_fields_eq_ok_iff.mp h
      rcases FieldOperator.test_columns c member with same | same
      · exact ⟨code, by simp [codes], f, hf, used, same⟩
      · exact ⟨other, by simp [codes], g, hg, _, same⟩

end FieldFilter
