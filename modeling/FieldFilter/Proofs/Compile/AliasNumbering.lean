import FieldFilter.Proofs.Compile.References
import Mathlib.Data.List.Forall2
import Mathlib.Data.List.Nodup

/-! Aliases count the references to custom fields. Read from left to right, the n-th reference to a
field in the value table has the n-th join and reads the alias with that number, so no two
references share a join; a reference to a fixed column reads that column and takes no number.
-/

namespace FieldFilter

-----------------------------------------------------------------------------------------
-- Fields that are referred to one after the other
-----------------------------------------------------------------------------------------

namespace Field

/-- The values of the field are in the value table. -/
def isCustom (f : Field) : Bool :=
  f.placement == .custom

/-- The joins of fields that are referred to one after the other, the first after `used` joins. -/
def joinsAfter (used : Nat) : List Field → List Join
  | [] => []
  | f :: rest =>
    (f.columnAfter used).2 ++ joinsAfter (used + (f.columnAfter used).2.length) rest

/-- The columns of such fields. -/
def columnsAfter (used : Nat) : List Field → List Column
  | [] => []
  | f :: rest =>
    (f.columnAfter used).1 :: columnsAfter (used + (f.columnAfter used).2.length) rest

/-- What a reference to the field is rendered as, when a custom field takes the alias with a
number.
-/
def referenceText (t : ValueTable) (number : Nat) (f : Field) : String :=
  match f.placement with
  | .fixed name => name
  | .custom => aliasText number ++ "." ++ t.storageColumn f.type.storage

theorem text_columnAfter (t : ValueTable) (used : Nat) (f : Field)
    : (f.columnAfter used).1.text t = f.referenceText t (used + 1) := by
  unfold columnAfter referenceText
  cases f.placement <;> rfl

/-- A reference to a custom field needs one join, with the next number, and one to a fixed column
needs none.
-/
theorem joins_columnAfter (used : Nat) (f : Field)
    : (f.columnAfter used).2
      = if f.isCustom then [{ number := used + 1, fieldId := f.id }] else [] := by
  unfold columnAfter isCustom
  cases f.placement <;> rfl

theorem joinsAfter_append (used : Nat) (left right : List Field)
    : joinsAfter used (left ++ right)
      = joinsAfter used left ++ joinsAfter (used + (joinsAfter used left).length) right := by
  induction left generalizing used with
  | nil => rfl
  | cons f left ih => simp [joinsAfter, ih, Nat.add_assoc]

theorem columnsAfter_append (used : Nat) (left right : List Field)
    : columnsAfter used (left ++ right)
      = columnsAfter used left
        ++ columnsAfter (used + (joinsAfter used left).length) right := by
  induction left generalizing used with
  | nil => rfl
  | cons f left ih => simp [columnsAfter, joinsAfter, ih, Nat.add_assoc]

theorem length_columnsAfter (used : Nat) (fs : List Field)
    : (columnsAfter used fs).length = fs.length := by
  induction fs generalizing used with
  | nil => rfl
  | cons f fs ih => simp [columnsAfter, ih]

/-- The joins of fields are those of the custom ones among them, numbered from the next one on. By
induction on the fields.
-/
theorem joinsAfter_eq_mapIdx (used : Nat) (fs : List Field)
    : joinsAfter used fs
      = (fs.filter isCustom).mapIdx fun i f => { number := used + (i + 1), fieldId := f.id } := by
  induction fs generalizing used with
  | nil => rfl
  | cons f fs ih =>
      rw [joinsAfter, joins_columnAfter, ih]
      cases hc : f.isCustom with
      | false => simp [hc]
      | true =>
          simp only [if_true, List.filter_cons, hc, List.mapIdx_cons, List.length_singleton,
            List.singleton_append, Nat.zero_add]
          congr 2
          funext i f
          congr 1
          omega

/-- The column of a field counts the custom fields before it, by induction on the fields. -/
theorem getElem?_columnsAfter (used : Nat) (fs : List Field) (k : Nat)
    : (columnsAfter used fs)[k]?
      = fs[k]?.map fun f => (f.columnAfter (used + ((fs.take k).filter isCustom).length)).1 := by
  induction fs generalizing used k with
  | nil => simp [columnsAfter]
  | cons f fs ih =>
      cases k with
      | zero => simp [columnsAfter]
      | succ k =>
          rw [columnsAfter, List.getElem?_cons_succ, ih, List.getElem?_cons_succ, joins_columnAfter]
          cases hc : f.isCustom with
          | false => simp [hc]
          | true => simp [hc, Nat.add_assoc, Nat.add_comm 1]

end Field

-----------------------------------------------------------------------------------------
-- Conditions and the columns of their references
-----------------------------------------------------------------------------------------

/-- The condition is rendered with these columns for its references: as the test of its operator on
them, which reads them and no others.
-/
inductive Condition.Renders (fields : List Field) (clock : Clock)
    : Condition → List Column → Test → Prop
  | literal {code op operand f c test}
    (found : Field.resolve? fields code = some f)
    (rendered : op.test f.type c clock operand = .ok test)
    (reads : test.columns ≠ [] ∧ ∀ column ∈ test.columns, column = c)
    : Renders fields clock (.literal code op operand) [c] test
  | fields {code op other c d}
    (reads : (FieldOperator.test op c d clock).columns = [c, d])
    : Renders fields clock (.fields code op other) [c, d] (op.test c d clock)

/-- A test has its column somewhere, by cases on its form. -/
theorem Test.Form.columns_ne_nil {storage : Storage} {c : Column} {test : Test}
    (form : Form storage c test)
    : test.columns ≠ [] := by
  cases form with
  | blank | filled | blankOrRegexp =>
      cases hs : storage.holdsText <;>
        simp [Test.columns, atoms, blankAtoms, filledAtoms, hs, Atom.columns, Term.columns]
  | _ =>
      simp [Test.columns, atoms, equalTo, differentFrom, Test.compared, Atom.columns,
        Term.columns]

theorem FieldOperator.columns_test (op : FieldOperator) (c other : Column) (clock : Clock)
    : (op.test c other clock).columns = [c, other] := by
  cases op <;> rfl

/-- A condition that is planned has all its references resolved and is rendered with their columns,
numbered from the joins before it, by cases on the condition.
-/
theorem Condition.plan_renders {fields : List Field} {clock : Clock} {used : Nat}
    {condition : Condition} {test : Test} {joins : List Join}
    (planned : condition.plan fields clock used = .ok (test, joins))
    : ∃ referred,
        condition.codes.map (Field.resolve? fields) = referred.map some
        ∧ joins = Field.joinsAfter used referred
        ∧ condition.Renders fields clock (Field.columnsAfter used referred) test := by
  cases condition with
  | literal code op operand =>
      obtain ⟨f, found, rendered, rfl⟩ := plan_literal_eq_ok_iff.mp planned
      have form := LiteralOperator.test_form rendered
      refine ⟨[f], by simp [codes, found], by simp [Field.joinsAfter], ?_⟩
      exact .literal found rendered ⟨form.columns_ne_nil, form.columns⟩
  | fields code op other =>
      obtain ⟨f, g, found, foundOther, rfl, rfl⟩ := plan_fields_eq_ok_iff.mp planned
      refine ⟨[f, g], by simp [codes, found, foundOther], by simp [Field.joinsAfter], ?_⟩
      exact .fields (op.columns_test _ _ clock)

/-- The conditions of a run have all their references resolved, and are rendered with the columns
of these, numbered through. By induction on the run.
-/
theorem Condition.Run.renders {fields : List Field} {clock : Clock} {used : Nat}
    {conditions : List Condition} {tests : List Test} {joins : List Join}
    (run : Run fields clock used conditions tests joins)
    : ∃ (referred : List Field) (rendered : List (List Column × Test)),
        (conditions.flatMap codes).map (Field.resolve? fields) = referred.map some
        ∧ joins = Field.joinsAfter used referred
        ∧ rendered.flatMap Prod.fst = Field.columnsAfter used referred
        ∧ rendered.map Prod.snd = tests
        ∧ List.Forall₂ (fun c r => Renders fields clock c r.1 r.2) conditions rendered := by
  induction run with
  | nil => exact ⟨[], [], rfl, rfl, rfl, rfl, .nil⟩
  | cons planned _ ih =>
      obtain ⟨own, resolved, rfl, renders⟩ := plan_renders planned
      obtain ⟨referred, rendered, others, rfl, columns, rfl, later⟩ := ih
      refine ⟨own ++ referred, (Field.columnsAfter _ own, _) :: rendered, ?_, ?_, ?_, rfl,
        .cons renders later⟩
      · rw [List.flatMap_cons, List.map_append, resolved, others, List.map_append]
      · rw [Field.joinsAfter_append]
      · rw [List.flatMap_cons, columns, Field.columnsAfter_append]

-----------------------------------------------------------------------------------------
-- Compiled queries
-----------------------------------------------------------------------------------------

/-- Different numbers have different aliases, because the digits of a number give it back. -/
theorem aliasText_injective {m n : Nat} (same : aliasText m = aliasText n) : m = n := by
  have texts : toString m = toString n := (String.append_right_inj "f").mp same
  rw [Nat.toString_eq_ofList_toDigits, Nat.toString_eq_ofList_toDigits] at texts
  have digits : Nat.toDigits 10 m = Nat.toDigits 10 n := String.ofList_injective texts
  calc
    m = Nat.ofDigitChars 10 (Nat.toDigits 10 m) 0 := Nat.ofDigitChars_ten_toDigits.symm
    _ = n := by rw [digits, Nat.ofDigitChars_ten_toDigits]

namespace FilterExpr

/-- All references of an expression that compiles resolve, and the joins of the query are those of
the custom fields among the fields that they resolve to, with the aliases from one on.
-/
theorem compile_joins {table : ValueTable} {clock : Clock} {fields : List Field} {e : FilterExpr}
    {query : CompiledQuery} (compiled : compile table clock fields (some e) = .ok query)
    : ∃ referred : List Field,
        e.references.map (Field.resolve? fields) = referred.map some
        ∧ query.joins
          = (referred.filter Field.isCustom).mapIdx
              fun i f => table.joinText (aliasText (i + 1)) f.id := by
  obtain ⟨p, planned, rfl⟩ := compile_some_eq_ok_iff.mp compiled
  obtain ⟨referred, _, resolved, joins, _⟩ := (plan_run planned).renders
  refine ⟨referred, resolved, ?_⟩
  rw [Plan.query, joins, Field.joinsAfter_eq_mapIdx]
  refine List.ext_getElem? fun i => ?_
  simp [Function.comp_def, Join.text]

/-- The n-th reference to a custom field has the n-th join and the n-th alias. All references of an
expression that compiles resolve, to the fields `referred`. The joins of the query are those of the
custom fields among them, in order, the i-th for the alias with number i and the id of its field,
and the aliases differ from each other. Every condition is rendered with the columns of its own
references; the column of a reference is the fixed column of its field as it is, or the storage
column under the alias with the number that the reference has among the custom ones.
-/
theorem compile_aliases {table : ValueTable} {clock : Clock} {fields : List Field}
    {e : FilterExpr} {query : CompiledQuery}
    (compiled : compile table clock fields (some e) = .ok query)
    : ∃ (referred : List Field) (predicate : Predicate) (rendered : List (List Column × Test)),
        e.references.map (Field.resolve? fields) = referred.map some
        ∧ query.joins
          = (referred.filter Field.isCustom).mapIdx
              (fun i f => table.joinText (aliasText (i + 1)) f.id)
        ∧ ((List.range query.joins.length).map fun i => aliasText (i + 1)).Nodup
        ∧ query.predicate = predicate.text table
        ∧ rendered.map Prod.snd = predicate.tests
        ∧ List.Forall₂ (fun c r => Condition.Renders fields clock c r.1 r.2) e.conditions rendered
        ∧ (rendered.flatMap Prod.fst).length = referred.length
        ∧ ∀ k f,
            referred[k]? = some f
            → (rendered.flatMap Prod.fst)[k]?.map (Column.text table)
              = some
                  (Field.referenceText table
                    (((referred.take k).filter Field.isCustom).length + 1) f) := by
  obtain ⟨p, planned, rfl⟩ := compile_some_eq_ok_iff.mp compiled
  obtain ⟨referred, rendered, resolved, joins, columns, tests, renders⟩ :=
    (plan_run planned).renders
  refine ⟨referred, p.predicate, rendered, resolved, ?_, ?_, rfl, tests, renders, ?_, ?_⟩
  · rw [Plan.query, joins, Field.joinsAfter_eq_mapIdx]
    refine List.ext_getElem? fun i => ?_
    simp [Function.comp_def, Join.text]
  · refine List.Nodup.map (fun i j same => ?_) List.nodup_range
    exact Nat.succ.inj (aliasText_injective same)
  · rw [columns, Field.length_columnsAfter]
  · intro k f found
    rw [columns, Field.getElem?_columnsAfter, found]
    simp [Field.text_columnAfter]

/-- An arrival with a column of its own, and a call and a note in the value table. -/
def callFields : List Field :=
  [ { code := "arrival", id := 2, type := .date, placement := .fixed "r.arrival", scope := 0,
      style := none },
    { code := "call", id := 9, type := .date, placement := .custom, scope := 7, style := none },
    { code := "note", id := -4, type := .text, placement := .custom, scope := 7, style := none } ]

/-- Entities whose call is their note, or that have a note and no arrival. -/
def callFilter : FilterExpr :=
  .group (.condition (.fields "call" .same "note"))
    [ (.or, .condition (.literal "note" .notEqual .null)),
      (.and, .condition (.literal "arrival" .isBlank .null)) ]

def callQuery : CompiledQuery :=
  { predicate :=
      "((BINARY COALESCE(f1.value_number, '') = BINARY COALESCE(f2.value_text, '')) or "
        ++ "(f3.value_text IS NOT NULL AND f3.value_text <> '') and (r.arrival IS NULL))"
    joins :=
      [ Join.text .standard { number := 1, fieldId := 9 },
        Join.text .standard { number := 2, fieldId := -4 },
        Join.text .standard { number := 3, fieldId := -4 } ]
    params := [] }

set_option maxRecDepth 2000 in
/-- Four references have three joins: each use of the call and of the note has one to itself, and
the arrival needs none.
-/
theorem compile_aliases_callQuery
    : compile .standard ⟨.utc, 0⟩ callFields (some callFilter) = .ok callQuery
      ∧ callQuery.joins.length = 3
      ∧ ∃ referred : List Field,
          callFilter.references.map (Field.resolve? callFields) = referred.map some
          ∧ callQuery.joins
            = (referred.filter Field.isCustom).mapIdx
                (fun i f => ValueTable.standard.joinText (aliasText (i + 1)) f.id) := by
  have compiled : compile .standard ⟨.utc, 0⟩ callFields (some callFilter) = .ok callQuery := by
    rfl
  obtain ⟨referred, _, _, resolved, joins, _⟩ := compile_aliases compiled
  exact ⟨compiled, rfl, referred, resolved, joins⟩

end FilterExpr

end FieldFilter
