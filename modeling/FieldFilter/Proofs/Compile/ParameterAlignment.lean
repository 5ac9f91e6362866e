import FieldFilter.Proofs.Compile.References
import FieldFilter.Proofs.Sql.Placeholders

/-! The parameters of a compiled query go to the conditions that pushed them. Read from left to
right, a predicate is a sequence of segments, one for each condition, whose placeholders and
parameters count up together.
-/

namespace FieldFilter

namespace Predicate

mutual

/-- The text of a predicate falls into aligned segments, one for each test, after any text that
comes before it. By induction on the predicate; the text before a child is what its older
siblings left open.
-/
theorem exists_segments {t : ValueTable} (p : Predicate)
    (each : ∀ test ∈ p.tests, placeholders (test.text t) = test.params.length)
    {lead : String} (quiet : placeholders lead = 0)
    : ∃ segments tail,
        segments.map Segment.test = p.tests
        ∧ lead ++ p.text t = Segment.assemble t segments tail
        ∧ Segment.Aligned t segments tail := by
  have opened : placeholders (lead ++ "(") = 0 := by
    rw [placeholders_append, quiet]
    decide
  cases p with
  | test test =>
      refine ⟨[⟨lead ++ "(", test⟩], ")", by simp [tests], by simp [String.append_assoc], ?_⟩
      exact {
        lead := by simpa using opened
        test := by simpa [tests] using each
        tail := by decide
      }
  | group first rest =>
      obtain ⟨left, middle, hl, tl, al⟩ := exists_segments first
        (fun test hm => each test (by simp [tests, hm])) opened
      obtain ⟨right, tail, hr, tr, ar⟩ := exists_restSegments rest
        (fun test hm => each test (by simp [tests, hm])) al.tail
      have aligned := al.append ar
      refine ⟨left ++ right, tail ++ ")", by simp [tests, hl, hr], ?_, ?_⟩
      · calc
          lead ++ (group first rest).text t
              = (lead ++ "(" ++ first.text t) ++ restText t rest ++ ")" := by
            simp [String.append_assoc]
          _ = Segment.assemble t left (middle ++ restText t rest) ++ ")" := by
            rw [tl, Segment.assemble_tail_append]
          _ = Segment.assemble t (left ++ right) (tail ++ ")") := by
            rw [tr, ← Segment.assemble_append, Segment.assemble_tail_append]
      · refine { lead := aligned.lead, test := aligned.test, tail := ?_ }
        rw [placeholders_append, aligned.tail]
        decide

theorem exists_restSegments {t : ValueTable} (rest : List (Conjunction × Predicate))
    (each : ∀ test ∈ restTests rest, placeholders (test.text t) = test.params.length)
    {lead : String} (quiet : placeholders lead = 0)
    : ∃ segments tail,
        segments.map Segment.test = restTests rest
        ∧ lead ++ restText t rest = Segment.assemble t segments tail
        ∧ Segment.Aligned t segments tail := by
  cases rest with
  | nil => exact ⟨[], lead, by simp [restTests], by simp, by simp, by simp, quiet⟩
  | cons child rest =>
      obtain ⟨conjunction, p⟩ := child
      have opened : placeholders (lead ++ conjunction.text) = 0 := by
        rw [placeholders_append, quiet]
        cases conjunction <;> decide
      obtain ⟨left, middle, hl, tl, al⟩ := exists_segments p
        (fun test hm => each test (by simp [restTests, hm])) opened
      obtain ⟨right, tail, hr, tr, ar⟩ := exists_restSegments rest
        (fun test hm => each test (by simp [restTests, hm])) al.tail
      refine ⟨left ++ right, tail, by simp [restTests, hl, hr], ?_, al.append ar⟩
      calc
        lead ++ restText t ((conjunction, p) :: rest)
            = (lead ++ conjunction.text ++ p.text t) ++ restText t rest := by
          simp [String.append_assoc]
        _ = Segment.assemble t left (middle ++ restText t rest) := by
          rw [tl, Segment.assemble_tail_append]
        _ = Segment.assemble t (left ++ right) tail := by
          rw [tr, ← Segment.assemble_append]

end

end Predicate

namespace FilterExpr

/-- The tests of a plan have a placeholder for each parameter when the names that they read have
none, by the columns of the plan.
-/
theorem plan_placeholders {table : ValueTable} {clock : Clock} {fields : List Field}
    {used : Nat} {e : FilterExpr} {p : Plan} (h : e.plan fields clock used = .ok p)
    (layout : ∀ name ∈ table.names, '?' ∉ name.toList)
    (columns : e.FixedColumnsSatisfy (fun name => '?' ∉ name.toList) fields)
    : ∀ test ∈ p.predicate.tests, placeholders (test.text table) = test.params.length := by
  intro test member
  refine Test.placeholders_text fun c hc => placeholders_eq_zero_iff.mpr ?_
  exact (plan_columns h test member c hc).notMem_text columns
    (fun storage => layout _ (table.storageColumn_mem_names storage))
    (by decide) (by decide) (by decide)

theorem joinText_placeholders {table : ValueTable}
    (layout : ∀ name ∈ table.names, '?' ∉ name.toList) (j : Join)
    : '?' ∉ (j.text table).toList := by
  intro member
  rcases Join.mem_text member with ⟨name, known, inside⟩ | digit | word
  · exact layout name known inside
  · exact absurd digit (by decide)
  · exact absurd word (by decide)

/-- Over names without a question mark a compiled query has its placeholders in the predicate, one
for each parameter, by cases on whether there is an expression.
-/
theorem compile_placeholders {table : ValueTable} {clock : Clock} {fields : List Field}
    {expression : Option FilterExpr} {query : CompiledQuery}
    (layout : ∀ name ∈ table.names, '?' ∉ name.toList)
    (columns
      : ∀ e ∈ expression, e.FixedColumnsSatisfy (fun name => '?' ∉ name.toList) fields)
    (compiled : compile table clock fields expression = .ok query)
    : (∀ join ∈ query.joins, placeholders join = 0)
      ∧ placeholders query.predicate = query.params.length := by
  cases expression with
  | none =>
      obtain rfl := Except.ok.inj compiled
      exact ⟨by simp [CompiledQuery.alwaysTrue], by decide⟩
  | some e =>
      obtain ⟨p, planned, rfl⟩ := compile_some_eq_ok_iff.mp compiled
      have each := plan_placeholders planned layout (columns e rfl)
      obtain ⟨segments, tail, tests, text, aligned⟩ :=
        Predicate.exists_segments p.predicate each (by decide : placeholders "" = 0)
      have predicate : p.predicate.text table = Segment.assemble table segments tail := by
        simpa using text
      refine ⟨fun join member => ?_, ?_⟩
      · obtain ⟨j, _, rfl⟩ := List.mem_map.mp member
        exact placeholders_eq_zero_iff.mpr (joinText_placeholders layout j)
      · simp only [Plan.query]
        rw [predicate, aligned.placeholders_assemble, Predicate.params_eq_flatMap_tests, ← tests,
          Segment.params, List.flatMap_map]

/-- A compiled query binds its parameters in step with its placeholders. Over names without a
question mark, no join has a placeholder and the predicate has one for each parameter. The
predicate falls into segments for the conditions from left to right, each with as many
placeholders as its condition pushed parameters; so every placeholder stands in the condition
that pushed the parameter with its number.
-/
theorem compile_parameters_aligned {table : ValueTable} {clock : Clock} {fields : List Field}
    {expression : Option FilterExpr} {query : CompiledQuery}
    (layout : ∀ name ∈ table.names, '?' ∉ name.toList)
    (columns
      : ∀ e ∈ expression, e.FixedColumnsSatisfy (fun name => '?' ∉ name.toList) fields)
    (compiled : compile table clock fields expression = .ok query)
    : (∀ join ∈ query.joins, '?' ∉ join.toList)
      ∧ placeholders query.predicate = query.params.length
      ∧ ∃ segments tail joins,
          Condition.Run fields clock 0 (expression.elim [] conditions)
              (segments.map Segment.test) joins
          ∧ query.joins = joins.map (Join.text table)
          ∧ query.predicate = Segment.assemble table segments tail
          ∧ query.params = Segment.params segments
          ∧ Segment.Aligned table segments tail
          ∧ ∀ before after,
              query.predicate.toList = before ++ '?' :: after
              → ∃ left s right inner rest,
                  segments = left ++ s :: right
                  ∧ (s.test.text table).toList = inner ++ '?' :: rest
                  ∧ before = (Segment.assemble table left s.lead).toList ++ inner
                  ∧ inner.count '?' < s.test.params.length
                  ∧ query.params[before.count '?']? = s.test.params[inner.count '?']? := by
  cases expression with
  | none =>
      obtain rfl := Except.ok.inj compiled
      have aligned : Segment.Aligned table [] CompiledQuery.trueText :=
        { lead := by simp, test := by simp, tail := by decide }
      refine ⟨by simp [CompiledQuery.alwaysTrue], by decide, [], CompiledQuery.trueText, [], .nil,
        rfl, (Segment.assemble_nil _ _).symm, rfl, aligned, fun before after found => ?_⟩
      have text
          : (Segment.assemble table [] CompiledQuery.trueText).toList = before ++ '?' :: after := by
        rw [Segment.assemble_nil]
        exact found
      exact aligned.owner text
  | some e =>
      obtain ⟨p, planned, rfl⟩ := compile_some_eq_ok_iff.mp compiled
      have each := plan_placeholders planned layout (columns e rfl)
      obtain ⟨segments, tail, tests, text, aligned⟩ :=
        Predicate.exists_segments p.predicate each (by decide : placeholders "" = 0)
      have predicate : p.predicate.text table = Segment.assemble table segments tail := by
        simpa using text
      have params : p.predicate.params = Segment.params segments := by
        rw [Predicate.params_eq_flatMap_tests, ← tests, Segment.params, List.flatMap_map]
      refine ⟨?_, ?_, segments, tail, p.joins, ?_, rfl, predicate, params, aligned, ?_⟩
      · intro join member
        obtain ⟨j, _, rfl⟩ := List.mem_map.mp member
        exact joinText_placeholders layout j
      · simp only [Plan.query]
        rw [predicate, params, aligned.placeholders_assemble]
      · rw [tests]
        exact plan_run planned
      · intro before after found
        simp only [Plan.query] at found ⊢
        rw [predicate] at found
        rw [params]
        exact aligned.owner found

def dietField : Field :=
  { code := "diet", id := -3, type := .list, placement := .custom, scope := 7, style := none }

/-- Entities without the diet 5, or with the diet x. -/
def dietFilter : FilterExpr :=
  .group (.condition (.literal "diet" .listNotInclude (.string " 5 ")))
    [(.or, .condition (.literal "diet" .equal (.string "x")))]

/-- The query for these entities, in which the field is joined twice. -/
def dietQuery : CompiledQuery :=
  { predicate :=
      "((f1.value_list IS NULL OR NOT (JSON_CONTAINS(f1.value_list, ?) OR "
        ++ "JSON_CONTAINS(f1.value_list, ?))) or (f2.value_list = ?))"
    joins := [1, 2].map fun n => Join.text .standard { number := n, fieldId := -3 }
    params := [.text "5", .text "\x7b\"id\":5\x7d", .text "x"] }

/-- A list of ids brings two parameters for each, and the next condition continues after them. -/
theorem compile_parameters_aligned_dietQuery
    : compile .standard ⟨.utc, 0⟩ [dietField] (some dietFilter) = .ok dietQuery
      ∧ (∀ join ∈ dietQuery.joins, '?' ∉ join.toList)
      ∧ placeholders dietQuery.predicate = dietQuery.params.length := by
  have compiled : compile .standard ⟨.utc, 0⟩ [dietField] (some dietFilter) = .ok dietQuery := by
    rfl
  have columns
      : ∀ e ∈ some dietFilter,
          e.FixedColumnsSatisfy (fun name => '?' ∉ name.toList) [dietField] :=
    fun e _ => .of_fields (by simp [dietField]) e
  obtain ⟨joins, count, _⟩ := compile_parameters_aligned (by decide) columns compiled
  exact ⟨compiled, joins, count⟩

end FilterExpr

end FieldFilter
