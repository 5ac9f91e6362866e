import FieldFilter.Proofs.Compile.References
import FieldFilter.Proofs.Sql.PredicateShape

/-! Compiled predicates keep the groups of the expression. Over plain names the text is one pair of
parentheses and determines the shape, so no precedence of `AND` and `OR` has a say in its meaning.
-/

namespace FieldFilter

namespace FilterExpr

-----------------------------------------------------------------------------------------
-- The shape of an expression
-----------------------------------------------------------------------------------------

mutual

def shape : FilterExpr → Shape
  | condition _ => .condition
  | group first rest => .group first.shape (restShape rest)

def restShape : List (Conjunction × FilterExpr) → List (Conjunction × Shape)
  | [] => []
  | (conjunction, e) :: rest => (conjunction, e.shape) :: restShape rest

end

mutual

/-- A plan has the shape of its expression, by induction on the expression. -/
theorem plan_shape {fields : List Field} {clock : Clock} {used : Nat} {e : FilterExpr}
    {p : Plan} (h : e.plan fields clock used = .ok p)
    : p.predicate.shape = e.shape := by
  cases e with
  | condition c =>
      obtain ⟨test, joins, _, rfl⟩ := plan_condition_eq_ok_iff.mp h
      rw [shape, Predicate.shape]
  | group first rest =>
      obtain ⟨head, children, joins, hf, hr, rfl⟩ := plan_group_eq_ok_iff.mp h
      rw [shape, Predicate.shape, plan_shape hf, restPlan_shape hr]

theorem restPlan_shape {fields : List Field} {clock : Clock} {used : Nat}
    {rest : List (Conjunction × FilterExpr)} {children : List (Conjunction × Predicate)}
    {joins : List Join} (h : restPlan fields clock used rest = .ok (children, joins))
    : Predicate.restShape children = restShape rest := by
  cases rest with
  | nil =>
      obtain ⟨rfl, rfl⟩ := Prod.mk.inj (Except.ok.inj h)
      rw [restShape, Predicate.restShape]
  | cons child rest =>
      obtain ⟨head, later, more, hf, hr, rfl, rfl⟩ := restPlan_cons_eq_ok_iff.mp h
      rw [restShape, Predicate.restShape, plan_shape hf, restPlan_shape hr]

end

-----------------------------------------------------------------------------------------
-- Plain names
-----------------------------------------------------------------------------------------

/-- The fixed columns that the expression refers to and the storage columns of the layout are
plain identifiers.
-/
structure HasPlainNames (table : ValueTable) (fields : List Field) (e : FilterExpr) : Prop where
  fixed : e.FixedColumnsSatisfy (fun name => Identifier.isPlain name = true) fields
  storage : ∀ storage, Identifier.isPlain (table.storageColumn storage) = true

/-- Every column that an expression with plain names reads is a name: aliases are plain too. -/
theorem HasPlainNames.isName {table : ValueTable} {fields : List Field} {e : FilterExpr}
    {c : Column} (plain : e.HasPlainNames table fields) (h : c.ComesFrom fields e.references)
    : c.IsName table := by
  refine List.all_eq_true.mpr fun x hx => ?_
  rcases Column.mem_text hx with ⟨name, rfl, inside⟩ | rfl | digit | rfl | ⟨kind, inside⟩
  · obtain ⟨code, member, f, found, place⟩ := h.placement
    exact Identifier.inName_of_mem (plain.fixed code member f name found place) inside
  · decide
  · exact Identifier.inName_of_isDigit digit
  · decide
  · exact Identifier.inName_of_mem (plain.storage kind) inside

/-- The test of a condition whose columns are names stands in its parentheses, by the form of
the test.
-/
theorem stands_of_plan {table : ValueTable} {fields : List Field} {clock : Clock} {used : Nat}
    {condition : Condition} {test : Test} {joins : List Join}
    (h : condition.plan fields clock used = .ok (test, joins))
    (names : ∀ c : Column, c.ComesFrom fields condition.codes → c.IsName table)
    : Test.Stands (test.text table).toList := by
  have name (code : String) (f : Field) (place : Nat) (member : code ∈ condition.codes)
      (found : Field.resolve? fields code = some f)
      : (f.columnAfter place).1.IsName table :=
    names _ ⟨code, member, f, found, place, rfl⟩
  cases condition with
  | literal code op operand =>
      obtain ⟨f, hf, ht, _⟩ := Condition.plan_literal_eq_ok_iff.mp h
      exact (LiteralOperator.test_form ht).stands (name code f _ (by simp [Condition.codes]) hf)
  | fields code op other =>
      obtain ⟨f, g, hf, hg, rfl, _⟩ := Condition.plan_fields_eq_ok_iff.mp h
      exact FieldOperator.test_stands (name code f _ (by simp [Condition.codes]) hf)
        (name other g _ (by simp [Condition.codes]) hg)

/-- Every test of a plan over plain names stands in its parentheses, by the run of its
conditions.
-/
theorem HasPlainNames.testsStand {table : ValueTable} {fields : List Field} {clock : Clock}
    {used : Nat} {e : FilterExpr} {p : Plan} (plain : e.HasPlainNames table fields)
    (h : e.plan fields clock used = .ok p)
    : p.predicate.TestsStand table := by
  refine (plan_run h).forall_test fun condition member used test joins planned => ?_
  refine stands_of_plan planned fun c own => plain.isName ?_
  exact own.mono (codes_subset_references member)

-----------------------------------------------------------------------------------------
-- The shape from the text
-----------------------------------------------------------------------------------------

/-- The predicate text of an expression over plain names starts with a parenthesis that closes
at its end and not before, so that it is never the text that always holds. It determines the
shape: whatever compiles to the same text over plain names, from other fields, another layout
or on another clock, has the same groups with the same tokens.
-/
theorem compile_predicate_shape {table : ValueTable} {clock : Clock} {fields : List Field}
    {e : FilterExpr} {query : CompiledQuery} (plain : e.HasPlainNames table fields)
    (compiled : compile table clock fields (some e) = .ok query)
    : Enclosed query.predicate.toList
      ∧ query.predicate.toList.head? = some '('
      ∧ query.predicate ≠ CompiledQuery.trueText
      ∧ ∀ {layout : ValueTable} {present : Clock} {others : List Field} {d : FilterExpr}
          {found : CompiledQuery},
          d.HasPlainNames layout others
          → compile layout present others (some d) = .ok found
          → found.predicate = query.predicate
          → d.shape = e.shape := by
  obtain ⟨p, planned, rfl⟩ := compile_some_eq_ok_iff.mp compiled
  have stands := plain.testsStand planned
  have first : (p.predicate.text table).toList.head? = some '(' := by
    rw [Predicate.text_toList]
    rfl
  refine ⟨stands.enclosed, first, ?_, ?_⟩
  · intro always
    have digit : CompiledQuery.trueText.toList.head? = some '1' := by decide
    rw [← always] at digit
    exact absurd (first.symm.trans digit) (by decide)
  · intro layout present others d found plainNames compiles same
    obtain ⟨q, hq, rfl⟩ := compile_some_eq_ok_iff.mp compiles
    have texts : (q.predicate.text layout).toList = (p.predicate.text table).toList :=
      congrArg String.toList same
    calc
      d.shape = q.predicate.shape := (plan_shape hq).symm
      _ = p.predicate.shape := (plainNames.testsStand hq).shape_eq stands texts
      _ = e.shape := plan_shape planned

/-- A text whose column is called like a token, and a list in the value table. -/
def tokenFields (code : String) : List Field :=
  [ { code, id := 2, type := .text, placement := .fixed "or", scope := 0, style := none },
    { code := "tags", id := 9, type := .list, placement := .custom, scope := 7, style := none } ]

/-- Entities with a text, or with a tag. The condition on the tag is a group of its own, and its
test has parentheses too.
-/
def tokenFilter (code tag : String) : FilterExpr :=
  .group (.condition (.literal code .equal (.string "x")))
    [(.or, .group (.condition (.literal "tags" .listInclude (.string tag))) [])]

def tokenQuery (documents : List Parameter) : CompiledQuery :=
  { predicate := "((or = ?) or (((JSON_CONTAINS(f1.value_list, ?) OR "
      ++ "JSON_CONTAINS(f1.value_list, ?)))))"
    joins := [Join.text .standard { number := 1, fieldId := 9 }]
    params := .text "x" :: documents }

/-- The fields of these filters have plain names, `or` among them. -/
theorem tokenFilter_hasPlainNames (code tag : String)
    : (tokenFilter code tag).HasPlainNames .standard (tokenFields code) where
  fixed := by
    refine .of_fields (fun f member name place => ?_) _
    simp only [tokenFields, List.mem_cons, List.not_mem_nil, or_false] at member
    rcases member with rfl | rfl
    · obtain rfl := Placement.fixed.inj place
      decide
    · cases place
  storage := by
    intro storage
    cases storage <;> decide

/-- Two filters on fields of different catalogs have one text, and so the same groups: the
parentheses of the list are told from those of the group around it.
-/
theorem compile_predicate_shape_tokenFilter
    : Enclosed (tokenQuery []).predicate.toList
      ∧ (tokenQuery []).predicate ≠ CompiledQuery.trueText
      ∧ (tokenFilter "word" "7").shape = (tokenFilter "note" "5").shape := by
  have left
      : compile .standard ⟨.utc, 0⟩ (tokenFields "note") (some (tokenFilter "note" "5"))
        = .ok (tokenQuery [.text "5", .text "\x7b\"id\":5\x7d"]) := rfl
  have right
      : compile .standard ⟨.utc, 3600⟩ (tokenFields "word") (some (tokenFilter "word" "7"))
        = .ok (tokenQuery [.text "7", .text "\x7b\"id\":7\x7d"]) := rfl
  obtain ⟨enclosed, _, never, shapes⟩ :=
    compile_predicate_shape (tokenFilter_hasPlainNames "note" "5") left
  exact ⟨enclosed, never, shapes (tokenFilter_hasPlainNames "word" "7") right rfl⟩

end FilterExpr

end FieldFilter
