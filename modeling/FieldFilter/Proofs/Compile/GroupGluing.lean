import FieldFilter.Proofs.Compile.TestForm
import FieldFilter.Proofs.Sql.ColumnRenaming
import FieldFilter.Proofs.Sql.Rendering
import Mathlib.Data.List.Forall2

/-! Compiling a group is gluing its children. What came before an expression only moves the numbers
of its aliases, so a group has the plans that its children have on their own, with the aliases of
each numbered on from its older siblings.
-/

namespace FieldFilter

-----------------------------------------------------------------------------------------
-- A test is built alike from every column
-----------------------------------------------------------------------------------------

namespace Test

variable (g : Column → Column) (c : Column)

theorem mapColumns_blankAtoms (storage : Storage)
    : (any (blankAtoms storage c)).mapColumns g = any (blankAtoms storage (g c)) := by
  cases storage <;> rfl

theorem mapColumns_filledAtoms (storage : Storage)
    : (all (filledAtoms storage c)).mapColumns g = all (filledAtoms storage (g c)) := by
  cases storage <;> rfl

theorem mapColumns_equalTo (term : Term)
    : (equalTo c term).mapColumns g = equalTo (g c) (term.mapColumns g) := rfl

theorem mapColumns_differentFrom (term : Term)
    : (differentFrom c term).mapColumns g = differentFrom (g c) (term.mapColumns g) := rfl

theorem mapColumns_blankOrRegexp (storage : Storage) (acceptsBlank : Bool) (p : Parameter)
    : (any ((if acceptsBlank then blankAtoms storage c else []) ++ [.regexp c p])).mapColumns g
      = any ((if acceptsBlank then blankAtoms storage (g c) else []) ++ [.regexp (g c) p]) := by
  cases acceptsBlank <;> cases storage <;> rfl

theorem mapColumns_dateIs (relation : Comparison) (start next : Int)
    : (dateIs relation c start next).mapColumns g = dateIs relation (g c) start next := by
  cases relation <;> rfl

end Test

namespace LiteralOperator

/-- What an equality compares with has no column in it, by cases on what that is. -/
theorem equalityTerm_mapColumns {type : FieldType} {operand : Json.Value} {term : Term}
    (h : equalityTerm type operand = .ok (some term)) (g : Column → Column)
    : term.mapColumns g = term := by
  rcases equalityTerm_eq_ok_iff.mp h with ⟨_, h⟩ | ⟨_, _, b, _, h⟩ | ⟨_, _, p, _, h⟩
  · cases h
  · obtain rfl := Option.some.inj h
    rfl
  · obtain rfl := Option.some.inj h
    rfl

/-- The operator reads the operand without regard to the column, and builds the same test from
every column. By cases on the operator, and then on what its reader makes of the operand.
-/
theorem test_mapColumns (op : LiteralOperator) (type : FieldType) (clock : Clock)
    (operand : Json.Value) (g : Column → Column) (c : Column)
    : op.test type (g c) clock operand
      = (op.test type c clock operand).map (Test.mapColumns g) := by
  cases op with
  | equal =>
      simp only [test]
      cases h : equalityTerm type operand with
      | error fault => rfl
      | ok term =>
          cases term with
          | none => exact congrArg Except.ok (Test.mapColumns_blankAtoms g c type.storage).symm
          | some term =>
              have built := Test.mapColumns_equalTo g c term
              rw [equalityTerm_mapColumns h g] at built
              exact congrArg Except.ok built.symm
  | notEqual =>
      simp only [test]
      cases h : equalityTerm type operand with
      | error fault => rfl
      | ok term =>
          cases term with
          | none => exact congrArg Except.ok (Test.mapColumns_filledAtoms g c type.storage).symm
          | some term =>
              have built := Test.mapColumns_differentFrom g c term
              rw [equalityTerm_mapColumns h g] at built
              exact congrArg Except.ok built.symm
  | less | greater | lessOrEqual | greaterOrEqual =>
      simp only [test]
      cases Operand.scalar operand <;> rfl
  | contains | notContains | startsWith | endsWith =>
      simp only [test]
      cases Operand.text operand <;> rfl
  | between =>
      simp only [test]
      cases Operand.bounds type clock operand <;> rfl
  | minLength | maxLength =>
      simp only [test]
      cases Operand.length operand <;> rfl
  | regex =>
      simp only [test]
      cases Operand.regexClass operand with
      | error fault => rfl
      | ok cls =>
          have built := Test.mapColumns_blankOrRegexp g c type.storage cls.acceptsBlank
            (.text cls.pattern)
          exact congrArg Except.ok built.symm
  | isBlank => exact congrArg Except.ok (Test.mapColumns_blankAtoms g c type.storage).symm
  | isNotBlank => exact congrArg Except.ok (Test.mapColumns_filledAtoms g c type.storage).symm
  | listInclude | listNotInclude =>
      simp only [test]
      cases Operand.documents operand <;> rfl
  | rangeFrom | rangeTo =>
      simp only [test]
      cases Operand.relativeInstant clock operand <;> rfl
  | nowGreaterThan | nowLessThan => rfl
  | date relation =>
      simp only [test]
      cases Operand.dayBounds clock operand with
      | error fault => rfl
      | ok days =>
          exact congrArg Except.ok (Test.mapColumns_dateIs g c relation days.1 days.2).symm

end LiteralOperator

theorem FieldOperator.test_mapColumns (op : FieldOperator) (clock : Clock) (g : Column → Column)
    (c other : Column)
    : op.test (g c) (g other) clock = (op.test c other clock).mapColumns g := by
  cases op <;> rfl

-----------------------------------------------------------------------------------------
-- What came before moves the numbers of aliases
-----------------------------------------------------------------------------------------

theorem Field.columnAfter_add (f : Field) (used more : Nat)
    : f.columnAfter (used + more)
      = ((f.columnAfter used).1.shift more, (f.columnAfter used).2.map (Join.shift more)) := by
  unfold columnAfter
  cases f.placement with
  | fixed name => rfl
  | custom => simp [Column.shift, Join.shift, Nat.add_right_comm]

/-- A condition is planned alike after more joins, errors included, by cases on the condition and
on what its fields are.
-/
theorem Condition.plan_add (fields : List Field) (clock : Clock) (used more : Nat)
    (condition : Condition)
    : condition.plan fields clock (used + more)
      = (condition.plan fields clock used).map fun planned =>
          (planned.1.mapColumns (Column.shift more), planned.2.map (Join.shift more)) := by
  cases condition with
  | literal code op operand =>
      simp only [plan]
      cases Field.find fields code with
      | error e => rfl
      | ok f =>
          simp only [bind, Except.bind, f.columnAfter_add used more,
            op.test_mapColumns f.type clock operand (Column.shift more)]
          cases op.test f.type (f.columnAfter used).1 clock operand <;> rfl
  | fields code op other =>
      simp only [plan]
      cases Field.find fields code with
      | error e => rfl
      | ok f =>
          cases Field.find fields other with
          | error e => rfl
          | ok g =>
              have later : used + more + (f.columnAfter used).2.length
                  = used + (f.columnAfter used).2.length + more := by omega
              simp [bind, Except.bind, pure, Except.pure, Except.map, f.columnAfter_add used more,
                later, g.columnAfter_add _ more, FieldOperator.test_mapColumns]

namespace FilterExpr

mutual

/-- An expression is planned alike after more joins, errors included: its aliases are numbered on,
and nothing else depends on what came before. By induction on the expression.
-/
theorem plan_add (fields : List Field) (clock : Clock) (used more : Nat) (e : FilterExpr)
    : e.plan fields clock (used + more) = (e.plan fields clock used).map (Plan.shift more) := by
  cases e with
  | condition c =>
      simp only [plan, c.plan_add fields clock used more]
      cases c.plan fields clock used <;> rfl
  | group first rest =>
      simp only [plan, plan_add fields clock used more first]
      cases first.plan fields clock used with
      | error e => rfl
      | ok head =>
          have later : used + more + head.joins.length = used + head.joins.length + more := by
            omega
          simp only [Except.map, bind, Except.bind, Plan.length_joins_shift, later,
            restPlan_add fields clock (used + head.joins.length) more rest]
          cases restPlan fields clock (used + head.joins.length) rest with
          | error e => rfl
          | ok planned => simp [pure, Except.pure, Plan.shift, Predicate.mapColumns]

theorem restPlan_add (fields : List Field) (clock : Clock) (used more : Nat)
    (rest : List (Conjunction × FilterExpr))
    : restPlan fields clock (used + more) rest
      = (restPlan fields clock used rest).map fun planned =>
          (Predicate.restMapColumns (Column.shift more) planned.1,
            planned.2.map (Join.shift more)) := by
  cases rest with
  | nil => simp [restPlan, Except.map, Predicate.restMapColumns]
  | cons child rest =>
      obtain ⟨conjunction, e⟩ := child
      simp only [restPlan, plan_add fields clock used more e]
      cases e.plan fields clock used with
      | error e => rfl
      | ok head =>
          have later : used + more + head.joins.length = used + head.joins.length + more := by
            omega
          simp only [Except.map, bind, Except.bind, Plan.length_joins_shift, later,
            restPlan_add fields clock (used + head.joins.length) more rest]
          cases restPlan fields clock (used + head.joins.length) rest with
          | error e => rfl
          | ok planned => simp [pure, Except.pure, Plan.shift, Predicate.restMapColumns]

end

end FilterExpr

-----------------------------------------------------------------------------------------
-- Items that succeed or fail one after the other
-----------------------------------------------------------------------------------------

section Items

variable {ε α β : Type} {f : α → Except ε β}

/-- Items are related to a list together when each of them is related to something, by induction on the
items.
-/
theorem exists_forall₂_iff {related : α → β → Prop} {items : List α}
    : (∃ results, List.Forall₂ related items results)
      ↔ ∀ item ∈ items, ∃ result, related item result := by
  induction items with
  | nil => simp
  | cons item items ih =>
      simp only [List.forall₂_cons_left_iff, List.forall_mem_cons, ← ih]
      constructor
      · rintro ⟨_, first, later, hf, hl, rfl⟩
        exact ⟨⟨first, hf⟩, later, hl⟩
      · rintro ⟨⟨first, hf⟩, later, hl⟩
        exact ⟨_, first, later, hf, hl, rfl⟩

/-- Items succeed together when each of them does, by induction on the items. -/
theorem mapM_eq_ok_iff {items : List α} {results : List β}
    : items.mapM f = .ok results ↔ List.Forall₂ (fun x y => f x = .ok y) items results := by
  induction items generalizing results with
  | nil => simp [pure, Except.pure, eq_comm]
  | cons item items ih =>
      rw [List.mapM_cons, bind_eq_ok_iff, List.forall₂_cons_left_iff]
      refine exists_congr fun first => ?_
      rw [bind_eq_ok_iff]
      constructor
      · rintro ⟨hf, later, hl, done⟩
        exact ⟨later, hf, ih.mp hl, (Except.ok.inj done).symm⟩
      · rintro ⟨later, hf, hl, rfl⟩
        exact ⟨hf, later, ih.mpr hl, rfl⟩

theorem exists_mapM_eq_ok_iff {items : List α}
    : (∃ results, items.mapM f = .ok results) ↔ ∀ item ∈ items, ∃ result, f item = .ok result := by
  simp only [mapM_eq_ok_iff, exists_forall₂_iff]

/-- Items fail as the first one that fails, by induction on the items. -/
theorem mapM_eq_error_iff {items : List α} {e : ε}
    : items.mapM f = .error e
      ↔ ∃ before failing after,
          items = before ++ failing :: after
          ∧ (∀ item ∈ before, ∃ result, f item = .ok result)
          ∧ f failing = .error e := by
  induction items with
  | nil => simp [pure, Except.pure]
  | cons item items ih =>
      rw [List.mapM_cons]
      cases hf : f item with
      | error found =>
          simp only [bind, Except.bind, Except.error.injEq]
          constructor
          · rintro rfl
            exact ⟨[], item, items, rfl, by simp, hf⟩
          · rintro ⟨before, failing, after, split, succeed, fails⟩
            cases before with
            | nil =>
                obtain ⟨rfl, rfl⟩ := List.cons.inj split
                exact Except.error.inj (hf.symm.trans fails)
            | cons first before =>
                obtain ⟨rfl, rfl⟩ := List.cons.inj split
                obtain ⟨result, done⟩ := succeed item List.mem_cons_self
                cases hf.symm.trans done
      | ok first =>
          have later : (items.mapM f >>= fun results => pure (first :: results)) = .error e
              ↔ items.mapM f = .error e := by
            cases items.mapM f <;> simp [bind, Except.bind, pure, Except.pure]
          refine later.trans (ih.trans ?_)
          constructor
          · rintro ⟨before, failing, after, rfl, succeed, fails⟩
            refine ⟨item :: before, failing, after, rfl, ?_, fails⟩
            exact List.forall_mem_cons.mpr ⟨⟨first, hf⟩, succeed⟩
          · rintro ⟨before, failing, after, split, succeed, fails⟩
            cases before with
            | nil =>
                obtain ⟨rfl, rfl⟩ := List.cons.inj split
                cases hf.symm.trans fails
            | cons head before =>
                obtain ⟨rfl, rfl⟩ := List.cons.inj split
                exact ⟨before, failing, after, rfl, (List.forall_mem_cons.mp succeed).2, fails⟩

end Items

-----------------------------------------------------------------------------------------
-- A group from its children
-----------------------------------------------------------------------------------------

namespace Plan

/-- Some plans with their aliases numbered on: those of the first after `used` joins, and those of
each later one also after the joins of the plans before it.
-/
def numberedOn (used : Nat) : List Plan → List Plan
  | [] => []
  | p :: rest => p.shift used :: numberedOn (used + p.joins.length) rest

/-- The query of some plans in one pair of parentheses, each after its separator. -/
def glue (table : ValueTable) (separators : List String) (plans : List Plan) : CompiledQuery :=
  { predicate :=
      "("
        ++ String.join
            (List.zipWith (fun separator p => separator ++ (p.query table).predicate)
              separators (numberedOn 0 plans))
        ++ ")"
    joins := (numberedOn 0 plans).flatMap fun p => (p.query table).joins
    params := plans.flatMap fun p => (p.query table).params }

theorem length_numberedOn (used : Nat) (plans : List Plan)
    : (numberedOn used plans).length = plans.length := by
  induction plans generalizing used with
  | nil => rfl
  | cons p plans ih => simp [numberedOn, ih]

/-- Numbering on keeps the parameters, by induction on the plans. -/
theorem flatMap_params_numberedOn (used : Nat) (plans : List Plan)
    : (numberedOn used plans).flatMap (fun p => p.predicate.params)
      = plans.flatMap fun p => p.predicate.params := by
  induction plans generalizing used with
  | nil => rfl
  | cons p plans ih => simp [numberedOn, ih]

end Plan

namespace Predicate

theorem restText_zip (table : ValueTable) (tokens : List Conjunction) (ps : List Predicate)
    : restText table (tokens.zip ps)
      = String.join (List.zipWith (fun token p => token.text ++ p.text table) tokens ps) := by
  induction tokens generalizing ps with
  | nil => simp
  | cons token tokens ih =>
      cases ps with
      | nil => simp
      | cons p ps => simp [ih]

theorem restParams_zip {tokens : List Conjunction} {ps : List Predicate}
    (lengths : tokens.length = ps.length)
    : restParams (tokens.zip ps) = ps.flatMap params := by
  induction tokens generalizing ps with
  | nil =>
      obtain rfl := List.length_eq_zero_iff.mp lengths.symm
      simp [restParams]
  | cons token tokens ih =>
      cases ps with
      | nil => cases lengths
      | cons p ps => simp [restParams, ih (Nat.succ.inj lengths)]

end Predicate

namespace FilterExpr

/-- The later children of a group have the plans that they have on their own, numbered on. By
induction on the children.
-/
theorem restPlan_eq_numberedOn (fields : List Field) (clock : Clock) (used : Nat)
    (rest : List (Conjunction × FilterExpr))
    : restPlan fields clock used rest
      = ((rest.map Prod.snd).mapM (plan fields clock 0)).map fun plans =>
          ((rest.map Prod.fst).zip ((Plan.numberedOn used plans).map Plan.predicate),
            (Plan.numberedOn used plans).flatMap Plan.joins) := by
  induction rest generalizing used with
  | nil => rfl
  | cons child rest ih =>
      obtain ⟨conjunction, e⟩ := child
      have own := plan_add fields clock 0 used e
      rw [Nat.zero_add] at own
      rw [restPlan, own, List.map_cons, List.map_cons, List.mapM_cons]
      cases e.plan fields clock 0 with
      | error e => rfl
      | ok head =>
          simp only [Except.map, bind, Except.bind, Plan.length_joins_shift, ih]
          cases (rest.map Prod.snd).mapM (plan fields clock 0) <;> rfl

/-- A group compiles to its children glued together, and fails as the first of them that fails. -/
theorem compile_group (table : ValueTable) (clock : Clock) (fields : List Field)
    (first : FilterExpr) (rest : List (Conjunction × FilterExpr))
    : compile table clock fields (some (group first rest))
      = ((first :: rest.map Prod.snd).mapM (plan fields clock 0)).map
          (Plan.glue table ("" :: rest.map fun child => child.1.text)) := by
  rw [compile, plan, List.mapM_cons]
  cases hf : first.plan fields clock 0 with
  | error e => rfl
  | ok head =>
      simp only [bind, Except.bind, restPlan_eq_numberedOn]
      cases hr : (rest.map Prod.snd).mapM (plan fields clock 0) with
      | error e => rfl
      | ok plans =>
          have unmoved : head.shift 0 = head := by
            have own := plan_add fields clock 0 0 first
            rw [hf] at own
            exact (Except.ok.inj own).symm
          have lengths
              : (rest.map Prod.fst).length
                = ((Plan.numberedOn head.joins.length plans).map Plan.predicate).length := by
            simpa [Plan.length_numberedOn] using (mapM_eq_ok_iff.mp hr).length_eq
          simp only [Except.map, pure, Except.pure, Plan.glue, Plan.numberedOn, unmoved,
            Nat.zero_add]
          congr 1
          simp only [Plan.query, CompiledQuery.mk.injEq]
          refine ⟨?_, ?_, ?_⟩
          · simp [Predicate.text, Predicate.parenthesized, Predicate.restText_zip,
              List.zipWith_map_left, List.zipWith_map_right]
          · simp [List.map_flatMap]
          · rw [Predicate.params, Predicate.restParams_zip lengths, List.flatMap_map,
              Plan.flatMap_params_numberedOn, List.flatMap_cons]

/-- A group compiles as its children do. It succeeds when each child succeeds on its own, and fails
with the error of the first child that fails on its own. When it succeeds, the parameters are those
of the children one after the other; so are the joins, with the aliases of each child numbered on
from the joins of the children before it; and the predicate has the predicates of the children,
renumbered in the same way, between parentheses, each after the text of its conjunction. A child
depends on the other children in no other way.
-/
theorem compile_group_children (table : ValueTable) (clock : Clock) (fields : List Field)
    (first : FilterExpr) (rest : List (Conjunction × FilterExpr))
    : let own (e : FilterExpr) := compile table clock fields (some e)
      let children := first :: rest.map Prod.snd
      ((∃ query, own (group first rest) = .ok query)
          ↔ ∀ child ∈ children, ∃ query, own child = .ok query)
      ∧ (∀ error,
          own (group first rest) = .error error
          ↔ ∃ before failing after,
              children = before ++ failing :: after
              ∧ (∀ child ∈ before, ∃ query, own child = .ok query)
              ∧ own failing = .error error)
      ∧ ∀ query,
          own (group first rest) = .ok query
          → ∃ plans,
              List.Forall₂
                (fun child (p : Plan) =>
                  child.plan fields clock 0 = .ok p ∧ own child = .ok (p.query table))
                children plans
              ∧ query.params = plans.flatMap (fun p => (p.query table).params)
              ∧ query.joins
                = (Plan.numberedOn 0 plans).flatMap (fun p => (p.query table).joins)
              ∧ query.predicate
                = "("
                  ++ String.join
                      (List.zipWith (fun conjunction p => conjunction ++ (p.query table).predicate)
                        ("" :: rest.map fun child => child.1.text) (Plan.numberedOn 0 plans))
                  ++ ")" := by
  intro own children
  have succeeds (child : FilterExpr)
      : (∃ query, own child = .ok query) ↔ ∃ p, child.plan fields clock 0 = .ok p := by
    simp only [own, compile_some_eq_ok_iff]
    exact ⟨fun ⟨_, p, planned, _⟩ => ⟨p, planned⟩, fun ⟨p, planned⟩ => ⟨_, p, planned, rfl⟩⟩
  have fails (child : FilterExpr) (error : Ending FilterError)
      : own child = .error error ↔ child.plan fields clock 0 = .error error :=
    map_eq_error_iff
  have glued : own (group first rest)
      = (children.mapM (plan fields clock 0)).map
          (Plan.glue table ("" :: rest.map fun child => child.1.text)) :=
    compile_group table clock fields first rest
  refine ⟨?_, fun error => ?_, fun query compiled => ?_⟩
  · simp only [succeeds, ← exists_mapM_eq_ok_iff, glued, map_eq_ok_iff]
    exact ⟨fun ⟨_, plans, planned, _⟩ => ⟨plans, planned⟩,
      fun ⟨plans, planned⟩ => ⟨_, plans, planned, rfl⟩⟩
  · simp only [glued, map_eq_error_iff, succeeds, fails, mapM_eq_error_iff]
  · rw [glued] at compiled
    obtain ⟨plans, planned, rfl⟩ := map_eq_ok_iff.mp compiled
    refine ⟨plans, (mapM_eq_ok_iff.mp planned).imp fun child p found => ?_, rfl, rfl, rfl⟩
    exact ⟨found, compile_some_eq_ok_iff.mpr ⟨p, found, rfl⟩⟩

end FilterExpr

end FieldFilter
