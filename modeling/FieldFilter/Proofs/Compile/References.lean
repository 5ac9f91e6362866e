import FieldFilter.Proofs.Compile.TestForm
import FieldFilter.Proofs.Filter.MentionedCodes
import FieldFilter.Proofs.Sql.Characters

/-! The fields that an expression refers to. Compiling it reads the columns of these fields and no
others, so what is known of their names is known of every column in the predicate.
-/

namespace FieldFilter

namespace FilterExpr

/-- Every fixed column that a reference of the expression resolves to has the property. -/
def FixedColumnsSatisfy (P : String → Prop) (fields : List Field) (e : FilterExpr) : Prop :=
  ∀ code ∈ e.references, ∀ f name,
    Field.resolve? fields code = some f → f.placement = .fixed name → P name

/-- A property of all fixed columns of a catalog holds of those that an expression refers to. -/
theorem FixedColumnsSatisfy.of_fields {P : String → Prop} {fields : List Field}
    (h : ∀ f ∈ fields, ∀ name, f.placement = .fixed name → P name) (e : FilterExpr)
    : e.FixedColumnsSatisfy P fields := by
  intro code _ f name found place
  have member := List.mem_of_getLast? found
  exact h f (List.mem_filter.mp member).1 name place

/-- The tests of a plan read the columns of the fields that the expression refers to, by the
run of its conditions.
-/
theorem plan_columns {fields : List Field} {clock : Clock} {used : Nat} {e : FilterExpr}
    {p : Plan} (h : e.plan fields clock used = .ok p)
    : ∀ test ∈ p.predicate.tests, ∀ c ∈ test.columns, c.ComesFrom fields e.references := by
  refine (plan_run h).forall_test fun condition member used test joins planned c hc => ?_
  exact (Condition.plan_columns planned c hc).mono (codes_subset_references member)

end FilterExpr

namespace Field

/-- The field without what it carries for others to show it. -/
def withoutStyle (f : Field) : Field :=
  { f with style := none }

/-- Two lists of fields resolve a code alike: both to nothing, or both to fields that differ in
their styles at most.
-/
def ResolveAlike (fields others : List Field) (code : String) : Prop :=
  (resolve? fields code).map withoutStyle = (resolve? others code).map withoutStyle

theorem ResolveAlike.of_eq {fields others : List Field} {code : String}
    (same : resolve? fields code = resolve? others code)
    : ResolveAlike fields others code :=
  congrArg (Option.map withoutStyle) same

/-- Codes that resolve alike are found alike, by cases on what they resolve to. -/
theorem ResolveAlike.find {fields others : List Field} {code : String}
    (alike : ResolveAlike fields others code)
    : (find fields code).map withoutStyle = (find others code).map withoutStyle := by
  unfold ResolveAlike at alike
  unfold Field.find
  cases first : resolve? fields code with
  | none =>
      rw [first] at alike
      rw [Option.map_eq_none_iff.mp alike.symm]
  | some f =>
      rw [first] at alike
      obtain ⟨g, second, same⟩ := Option.map_eq_some_iff.mp alike.symm
      rw [second]
      exact congrArg Except.ok same.symm

/-- What follows a found field and does not look at its style is the same after fields that are
found alike, by cases on whether they are.
-/
theorem bind_congr {α : Type} {x y : Except (Ending FilterError) Field}
    {next : Field → Except (Ending FilterError) α} (same : x.map withoutStyle = y.map withoutStyle)
    (blind : ∀ f, next f.withoutStyle = next f)
    : (x >>= next) = (y >>= next) := by
  have seen (z : Except (Ending FilterError) Field)
      : (z >>= next) = (z.map withoutStyle >>= next) := by
    cases z with
    | error e => rfl
    | ok f => exact (blind f).symm
  rw [seen x, seen y, same]

end Field

/-- A condition is planned alike over fields that resolve its codes alike, errors included, by
cases on the condition; its plan does not look at the styles of fields.
-/
theorem Condition.plan_congr {fields others : List Field} {clock : Clock} {used : Nat}
    {condition : Condition}
    (alike : ∀ code ∈ condition.codes, Field.ResolveAlike fields others code)
    : condition.plan fields clock used = condition.plan others clock used := by
  cases condition with
  | literal code op operand =>
      have found := (alike code (by simp [codes])).find
      exact Field.bind_congr found fun _ => rfl
  | fields code op other =>
      have found := (alike code (by simp [codes])).find
      have foundOther := (alike other (by simp [codes])).find
      unfold plan
      refine (Field.bind_congr found fun _ => rfl).trans ?_
      refine congrArg (Field.find others code >>= ·) (funext fun f => ?_)
      exact Field.bind_congr foundOther fun _ => rfl

namespace FilterExpr

/-- An expression is planned alike over fields that resolve its references alike, errors
included, as each of its conditions is.
-/
theorem plan_congr {fields others : List Field} {clock : Clock} {used : Nat} {e : FilterExpr}
    (alike : ∀ code ∈ e.references, Field.ResolveAlike fields others code)
    : e.plan fields clock used = e.plan others clock used := by
  refine plan_eq_of_conditions (fun c member used => ?_) used
  exact Condition.plan_congr fun code hc => alike code (codes_subset_references member hc)

theorem compile_congr {table : ValueTable} {clock : Clock} {fields others : List Field}
    {e : FilterExpr} (alike : ∀ code ∈ e.references, Field.ResolveAlike fields others code)
    : compile table clock fields (some e) = compile table clock others (some e) := by
  rw [compile, compile, plan_congr alike]

end FilterExpr

/-- A column that stands for a field with a fixed column is that column. -/
theorem Column.ComesFrom.placement {fields : List Field} {codes : List String} {name : String}
    (h : (fixed name).ComesFrom fields codes)
    : ∃ code ∈ codes, ∃ f, Field.resolve? fields code = some f ∧ f.placement = .fixed name := by
  obtain ⟨code, member, f, hf, used, same⟩ := h
  refine ⟨code, member, f, hf, ?_⟩
  cases hp : f.placement with
  | fixed other => simpa [Field.columnAfter, hp, eq_comm] using same
  | custom => simp [Field.columnAfter, hp] at same

/-- A character that no fixed column and no storage column has, and that is not part of an
alias, is not in the text of any column that the expression reads.
-/
theorem Column.ComesFrom.notMem_text {t : ValueTable} {fields : List Field} {e : FilterExpr}
    {c : Column} {x : Char} (h : c.ComesFrom fields e.references)
    (columns : e.FixedColumnsSatisfy (fun name => x ∉ name.toList) fields)
    (storage : ∀ storage, x ∉ (t.storageColumn storage).toList)
    (letter : x ≠ 'f') (digit : x.isDigit = false) (point : x ≠ '.')
    : x ∉ (c.text t).toList := by
  intro hx
  rcases mem_text hx with ⟨name, rfl, inside⟩ | hx | hx | hx | ⟨kind, inside⟩
  · obtain ⟨code, member, f, hf, place⟩ := h.placement
    exact columns code member f name hf place inside
  · exact letter hx
  · exact absurd hx (by simp [digit])
  · exact point hx
  · exact storage kind inside

end FieldFilter
