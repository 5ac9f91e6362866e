import FieldFilter.Proofs.Compile.TestForm
import FieldFilter.Proofs.Number.NearestDouble
import FieldFilter.Proofs.Sql.Skeleton

/-! What an integer in a filter is bound as. Up to the greatest signed word it is bound as itself.
Beyond that, as far as unsigned words go, it is bound as the nearest double; most of these integers
are no doubles, so that neighbours among them are bound as the same number.
-/

namespace FieldFilter

open Ending (reporting)

-----------------------------------------------------------------------------------------
-- Expressions with a number left open
-----------------------------------------------------------------------------------------

/-- The operator that compares a field with its operand. -/
def Comparison.literalOperator : Comparison → LiteralOperator
  | eq => .equal
  | ne => .notEqual
  | lt => .less
  | gt => .greater
  | le => .lessOrEqual
  | ge => .greaterOrEqual

/-- A place for a number in a condition: the operand of a comparison, or one bound of a range
beside the other one.
-/
inductive OperandPlace
  | compared (relation : Comparison)
  | least (greatest : Json.Value)
  | greatest (least : Json.Value)

namespace OperandPlace

def operator : OperandPlace → LiteralOperator
  | compared relation => relation.literalOperator
  | least _ | greatest _ => .between

/-- The operand with a number in its place. -/
def operand (n : Json.Number) : OperandPlace → Json.Value
  | compared _ => .number n
  | least other => .array [.number n, other]
  | greatest other => .array [other, .number n]

/-- On a field of this type the number is bound. An equality on a Boolean field takes it for a truth
value instead.
-/
def IsBoundOn (type : FieldType) : OperandPlace → Prop
  | compared .eq | compared .ne => type ≠ .boolean
  | _ => True

end OperandPlace

/-- An expression in which one number is left open. -/
inductive OpenExpr
  | condition (code : String) (place : OperandPlace)
  | inFirst (child : OpenExpr) (rest : List (Conjunction × FilterExpr))
  | inRest (first : FilterExpr) (before : List (Conjunction × FilterExpr))
    (conjunction : Conjunction) (child : OpenExpr) (after : List (Conjunction × FilterExpr))

namespace OpenExpr

/-- The expression with a number in the open place. -/
def fill (n : Json.Number) : OpenExpr → FilterExpr
  | condition code place => .condition (.literal code place.operator (place.operand n))
  | inFirst child rest => .group (child.fill n) rest
  | inRest first before conjunction child after =>
    .group first (before ++ (conjunction, child.fill n) :: after)

/-- The condition with the open place is on a field on which the number is bound. -/
def IsBoundOver (fields : List Field) : OpenExpr → Prop
  | condition code place => ∀ f, Field.resolve? fields code = some f → place.IsBoundOn f.type
  | inFirst child _ | inRest _ _ _ child _ => child.IsBoundOver fields

end OpenExpr

-----------------------------------------------------------------------------------------
-- Computations that bind the open number
-----------------------------------------------------------------------------------------

/-- A computation binds its number at one place. Whatever the number, it fails with the same error,
or it gives results of the same shape, with the parameter of the number among the same others.
-/
def BindsNumber {ε α σ : Type} (shape : α → σ) (params : α → List Parameter)
    (result : Json.Number → Except ε α)
    : Prop :=
  (∃ error, ∀ n p, Parameter.ofJson? (.number n) = some p → result n = .error error)
  ∨ ∃ form before after,
      ∀ n p,
        Parameter.ofJson? (.number n) = some p
        → ∃ a, result n = .ok a ∧ shape a = form ∧ params a = before ++ p :: after

namespace BindsNumber

variable {ε α β γ σ τ : Type} {shape : α → σ} {params : α → List Parameter}
  {shape' : β → τ} {params' : β → List Parameter}

/-- What comes after a computation without the number binds the number if it does so after each of
its results.
-/
theorem precededBy {x : Except ε γ} {y : γ → Json.Number → Except ε β}
    (h : ∀ c, x = .ok c → BindsNumber shape' params' (y c))
    : BindsNumber shape' params' fun n => x >>= fun c => y c n := by
  cases x with
  | error error => exact Or.inl ⟨error, fun n p _ => rfl⟩
  | ok c => exact h c rfl

/-- A computation may be followed by one that depends on the shape of its results alone. If that
puts parameters around those of the first, both together bind the number. By cases on the first one,
and on what follows its shape.
-/
theorem followedBy {x : Json.Number → Except ε α} (h : BindsNumber shape params x)
    (y : σ → Except ε γ) (f : α → γ → β) (g : σ → γ → τ) (left right : γ → List Parameter)
    (shapes : ∀ a c, shape' (f a c) = g (shape a) c)
    (around : ∀ a c, params' (f a c) = left c ++ params a ++ right c)
    : BindsNumber shape' params' fun n =>
        x n >>= fun a => y (shape a) >>= fun c => .ok (f a c) := by
  rcases h with ⟨error, failed⟩ | ⟨form, before, after, found⟩
  · refine Or.inl ⟨error, fun n p reads => ?_⟩
    simp only [failed n p reads]
    rfl
  · cases next : y form with
    | error error =>
        refine Or.inl ⟨error, fun n p reads => ?_⟩
        obtain ⟨a, computed, rfl, _⟩ := found n p reads
        exact bind_eq_error_iff.mpr (Or.inr ⟨a, computed, bind_eq_error_iff.mpr (Or.inl next)⟩)
    | ok c =>
        refine Or.inr ⟨g form c, left c ++ before, after ++ right c, fun n p reads => ?_⟩
        obtain ⟨a, computed, rfl, placed⟩ := found n p reads
        refine ⟨f a c, ?_, shapes a c, ?_⟩
        · exact bind_eq_ok_iff.mpr ⟨a, computed, bind_eq_ok_iff.mpr ⟨c, next, rfl⟩⟩
        · rw [around, placed]
          simp only [List.append_assoc, List.cons_append]

/-- The number stays bound when the results are put into another form. -/
theorem map {x : Json.Number → Except ε α} (h : BindsNumber shape params x) (f : α → β)
    (g : σ → τ) (left right : List Parameter) (shapes : ∀ a, shape' (f a) = g (shape a))
    (around : ∀ a, params' (f a) = left ++ params a ++ right)
    : BindsNumber shape' params' fun n => (x n).map f :=
  h.followedBy (fun _ => .ok ()) (fun a _ => f a) (fun form _ => g form) (fun _ => left)
    (fun _ => right) (fun a _ => shapes a) (fun a _ => around a)

/-- The number stays bound when the errors are put into another form. -/
theorem mapError {x : Json.Number → Except ε α} (h : BindsNumber shape params x) {ζ : Type}
    (f : ε → ζ)
    : BindsNumber shape params fun n => (x n).mapError f := by
  rcases h with ⟨error, failed⟩ | ⟨form, before, after, found⟩
  · refine Or.inl ⟨f error, fun n p reads => ?_⟩
    simp only [failed n p reads]
    rfl
  · refine Or.inr ⟨form, before, after, fun n p reads => ?_⟩
    obtain ⟨a, computed, placed⟩ := found n p reads
    refine ⟨a, ?_, placed⟩
    simp only [computed]
    rfl

end BindsNumber

-----------------------------------------------------------------------------------------
-- One condition binds its number
-----------------------------------------------------------------------------------------

/-- A number as a scalar is its own parameter. -/
theorem Operand.scalar_bindsNumber
    : BindsNumber (fun _ => ()) (fun p => [p]) fun n => reporting (scalar (.number n)) := by
  refine Or.inr ⟨(), [], [], fun n p reads => ⟨p, ?_, rfl, rfl⟩⟩
  simp only [scalar, reads, reporting]

/-- A test that is built from the scalar binds it, when the test takes it for its only parameter and
is otherwise the same for all.
-/
theorem Operand.map_scalar_bindsNumber (build : Parameter → Test)
    (shapes : ∀ p, (build p).skeleton = (build (.int 0)).skeleton)
    (own : ∀ p, (build p).params = [p])
    : BindsNumber Test.skeleton Test.params fun n =>
        (reporting (scalar (.number n))).map build :=
  scalar_bindsNumber.map build (fun _ => (build (.int 0)).skeleton) [] [] shapes own

theorem Operand.bound_number (type : FieldType) (clock : Clock) (n : Json.Number)
    : bound type clock (.number n) = reporting (scalar (.number n)) := by
  cases type <;> rfl

/-- The bounds of a range, as parameters. -/
abbrev Operand.boundParams (bounds : Parameter × Parameter) : List Parameter :=
  [bounds.1, bounds.2]

theorem Operand.bounds_bindsNumber_least (type : FieldType) (clock : Clock) (other : Json.Value)
    : BindsNumber (fun _ => ()) boundParams fun n =>
        bounds type clock (.array [.number n, other]) := by
  simp only [bounds, bound_number]
  exact scalar_bindsNumber.followedBy (fun _ => bound type clock other) Prod.mk (fun _ _ => ())
    (fun _ => []) (fun greatest => [greatest]) (fun _ _ => rfl) fun _ _ => rfl

theorem Operand.bounds_bindsNumber_greatest (type : FieldType) (clock : Clock) (other : Json.Value)
    : BindsNumber (fun _ => ()) boundParams fun n =>
        bounds type clock (.array [other, .number n]) := by
  simp only [bounds, bound_number]
  refine .precededBy fun least _ => ?_
  exact scalar_bindsNumber.map (Prod.mk least) (fun _ => ()) [least] [] (fun _ => rfl) fun _ => rfl

namespace LiteralOperator

variable {type : FieldType} (c : Column) (clock : Clock) (n : Json.Number)

theorem equalityTerm_number (typed : type ≠ .boolean)
    : equalityTerm type (.number n)
      = (Operand.scalar (.number n)).map fun p => some (.bound p) := by
  rw [equalityTerm, if_neg typed]
  rfl

theorem test_equal_number (typed : type ≠ .boolean)
    : equal.test type c clock (.number n)
      = (reporting (Operand.scalar (.number n))).map fun p => .equalTo c (.bound p) := by
  rw [test, equalityTerm_number n typed]
  cases Operand.scalar (.number n) <;> rfl

theorem test_notEqual_number (typed : type ≠ .boolean)
    : notEqual.test type c clock (.number n)
      = (reporting (Operand.scalar (.number n))).map fun p => .differentFrom c (.bound p) := by
  rw [test, equalityTerm_number n typed]
  cases Operand.scalar (.number n) <;> rfl

/-- A range binds the number that its bounds bind. -/
theorem between_bindsNumber {operand : Json.Number → Json.Value}
    (h
      : BindsNumber (fun _ => ()) Operand.boundParams fun n =>
          Operand.bounds type clock (operand n))
    : BindsNumber Test.skeleton Test.params fun n => between.test type c clock (operand n) :=
  h.map (fun bounds => Test.any [.between c bounds.1 bounds.2])
    (fun _ => .any [.between c (.int 0) (.int 0)]) [] [] (fun _ => rfl) fun _ => rfl

end LiteralOperator

/-- The test of a condition binds the number in its place, by cases on the place and, if that is the
operand of a comparison, on the relation.
-/
theorem OperandPlace.test_bindsNumber {place : OperandPlace} {type : FieldType}
    (bound : place.IsBoundOn type) (c : Column) (clock : Clock)
    : BindsNumber Test.skeleton Test.params fun n =>
        place.operator.test type c clock (place.operand n) := by
  cases place with
  | compared relation =>
      cases relation with
      | eq =>
          simp only [operator, Comparison.literalOperator, operand,
            LiteralOperator.test_equal_number c clock _ bound]
          exact Operand.map_scalar_bindsNumber _ (fun _ => rfl) fun _ => rfl
      | ne =>
          simp only [operator, Comparison.literalOperator, operand,
            LiteralOperator.test_notEqual_number c clock _ bound]
          exact Operand.map_scalar_bindsNumber _ (fun _ => rfl) fun _ => rfl
      | lt | gt | le | ge =>
          exact Operand.map_scalar_bindsNumber _ (fun _ => rfl) fun _ => rfl
  | least other =>
      exact LiteralOperator.between_bindsNumber c clock
        (Operand.bounds_bindsNumber_least type clock other)
  | greatest other =>
      exact LiteralOperator.between_bindsNumber c clock
        (Operand.bounds_bindsNumber_greatest type clock other)

-----------------------------------------------------------------------------------------
-- A whole expression binds its number
-----------------------------------------------------------------------------------------

/-- What a plan is without the values of its parameters. -/
def Plan.form (p : Plan) : Predicate × List Join :=
  (p.predicate.skeleton, p.joins)

def Plan.params (p : Plan) : List Parameter :=
  p.predicate.params

/-- The same for the later children of a group. -/
def Plan.restForm (rest : List (Conjunction × Predicate) × List Join)
    : List (Conjunction × Predicate) × List Join :=
  (Predicate.restSkeleton rest.1, rest.2)

def Plan.restParams (rest : List (Conjunction × Predicate) × List Join) : List Parameter :=
  Predicate.restParams rest.1

namespace FilterExpr

variable {fields : List Field} {clock : Clock}

/-- The field of a condition with a literal is looked up first, and then its test is made. -/
theorem plan_literal_eq (used : Nat) (code : String) (op : LiteralOperator) (operand : Json.Value)
    : (condition (.literal code op operand)).plan fields clock used
      = Field.find fields code >>= fun f =>
          ((op.test f.type (f.columnAfter used).1 clock operand).mapError
              (Ending.map (.malformedOperand f.code (.literal op)))).map fun test =>
            Plan.mk (.test test) (f.columnAfter used).2 := by
  rw [plan, Condition.plan]
  cases Field.find fields code with
  | error error => rfl
  | ok f =>
      simp only [bind, Except.bind]
      cases op.test f.type (f.columnAfter used).1 clock operand with
      | error fault => rfl
      | ok test => rfl

/-- A group binds the number that its first child binds. -/
theorem plan_group_bindsNumber {child : Json.Number → FilterExpr} {used : Nat}
    (h : BindsNumber Plan.form Plan.params fun n => (child n).plan fields clock used)
    (rest : List (Conjunction × FilterExpr))
    : BindsNumber Plan.form Plan.params fun n => (group (child n) rest).plan fields clock used := by
  simp only [plan]
  exact h.followedBy (fun form => restPlan fields clock (used + form.2.length) rest)
    (fun head later => Plan.mk (.group head.predicate later.1) (head.joins ++ later.2))
    (fun form later => (.group form.1 (Predicate.restSkeleton later.1), form.2 ++ later.2))
    (fun _ => []) (fun later => Predicate.restParams later.1)
    (fun _ _ => rfl) (fun _ _ => rfl)

/-- Later children bind the number that the first of them binds. -/
theorem restPlan_cons_bindsNumber {child : Json.Number → FilterExpr} {used : Nat}
    (h : BindsNumber Plan.form Plan.params fun n => (child n).plan fields clock used)
    (conjunction : Conjunction) (rest : List (Conjunction × FilterExpr))
    : BindsNumber Plan.restForm Plan.restParams fun n =>
        restPlan fields clock used ((conjunction, child n) :: rest) := by
  simp only [restPlan]
  exact h.followedBy (fun form => restPlan fields clock (used + form.2.length) rest)
    (fun head later => ((conjunction, head.predicate) :: later.1, head.joins ++ later.2))
    (fun form later => ((conjunction, form.1) :: Predicate.restSkeleton later.1, form.2 ++ later.2))
    (fun _ => []) (fun later => Predicate.restParams later.1)
    (fun _ _ => rfl) (fun _ _ => rfl)

/-- Later children bind the number that one of them binds, by induction on those before it. -/
theorem restPlan_bindsNumber {child : Json.Number → FilterExpr}
    (h : ∀ used, BindsNumber Plan.form Plan.params fun n => (child n).plan fields clock used)
    (conjunction : Conjunction) (before after : List (Conjunction × FilterExpr)) (used : Nat)
    : BindsNumber Plan.restForm Plan.restParams fun n =>
        restPlan fields clock used (before ++ (conjunction, child n) :: after) := by
  induction before generalizing used with
  | nil => exact restPlan_cons_bindsNumber (h used) conjunction after
  | cons head before ih =>
      obtain ⟨link, e⟩ := head
      simp only [List.cons_append, restPlan]
      refine .precededBy fun planned _ => ?_
      exact (ih (used + planned.joins.length)).map
        (fun later => ((link, planned.predicate) :: later.1, planned.joins ++ later.2))
        (fun form => ((link, planned.predicate.skeleton) :: form.1, planned.joins ++ form.2))
        planned.predicate.params [] (fun _ => rfl) fun _ => (List.append_nil _).symm

end FilterExpr

namespace OpenExpr

variable {fields : List Field}

/-- The plan of an expression binds the number in its open place, by induction on the expression. -/
theorem plan_bindsNumber {e : OpenExpr} (bound : e.IsBoundOver fields) (clock : Clock) (used : Nat)
    : BindsNumber Plan.form Plan.params fun n => (e.fill n).plan fields clock used := by
  induction e generalizing used with
  | condition code place =>
      simp only [fill, FilterExpr.plan_literal_eq]
      refine .precededBy fun f found => ?_
      have tested := place.test_bindsNumber (bound f (Field.find_eq_ok_iff.mp found))
        (f.columnAfter used).1 clock
      exact (tested.mapError _).map (fun test => Plan.mk (.test test) (f.columnAfter used).2)
        (fun form => (.test form, (f.columnAfter used).2)) [] [] (fun _ => rfl)
        fun _ => (List.append_nil _).symm
  | inFirst child rest ih => exact FilterExpr.plan_group_bindsNumber (ih bound used) rest
  | inRest first before conjunction child after ih =>
      simp only [fill, FilterExpr.plan]
      refine .precededBy fun head _ => ?_
      have later := FilterExpr.restPlan_bindsNumber (ih bound) conjunction before after
        (used + head.joins.length)
      exact later.map (fun later => Plan.mk (.group head.predicate later.1) (head.joins ++ later.2))
        (fun form => (.group head.predicate.skeleton form.1, head.joins ++ form.2))
        head.predicate.params [] (fun _ => rfl) fun _ => (List.append_nil _).symm

/-- So does its query. -/
theorem compile_bindsNumber {e : OpenExpr} (bound : e.IsBoundOver fields) (table : ValueTable)
    (clock : Clock)
    : BindsNumber (fun q : CompiledQuery => (q.predicate, q.joins)) CompiledQuery.params fun n =>
        FilterExpr.compile table clock fields (some (e.fill n)) :=
  (plan_bindsNumber bound clock 0).map (Plan.query table)
    (fun form => (form.1.text table, form.2.map (Join.text table))) [] []
    (fun p => Prod.ext (Predicate.text_skeleton table p.predicate).symm rfl)
    fun _ => (List.append_nil _).symm

end OpenExpr

-----------------------------------------------------------------------------------------
-- What an integer is bound as
-----------------------------------------------------------------------------------------

/-- The integer has at most 64 bits, signed or unsigned. -/
def Word.HasBits (n : Int) : Prop :=
  least ≤ n ∧ n < count

theorem Word.HasBits.natAbs_lt {n : Int} (bits : HasBits n) : n.natAbs < 2 ^ 64 := by
  simp only [HasBits, least, count] at bits
  omega

/-- Integers with bits enough that are no signed words lie between two powers of two. -/
theorem Word.HasBits.bounds {n : Int} (bits : HasBits n) (large : greatest < n)
    : 2 ^ 63 ≤ n ∧ n < 2 ^ 64 := by
  simp only [HasBits, greatest, count] at bits large
  omega

namespace Parameter

/-- The parameter is the integer, as a number. -/
def Denotes (n : Int) : Parameter → Prop
  | int m => m = n
  | float x => x.value = n
  | text _ => False

/-- What an integer is bound as: a signed word as itself, a greater one as the nearest double. -/
inductive Approximates (n : Int) : Parameter → Prop
  | itself (fits : n ≤ Word.greatest) : Approximates n (.int n)
  | nearest {x : Binary64} (large : Word.greatest < n) (near : x.IsNearest n)
    : Approximates n (.float x)

/-- An integer of at most 64 bits is bound, by cases on whether it is a signed word. -/
theorem ofJson?_integer {n : Int} (bits : Word.HasBits n)
    : ∃ p, ofJson? (.number (.integer n)) = some p ∧ p.Approximates n := by
  by_cases fits : n ≤ Word.greatest
  · refine ⟨.int n, ?_, .itself fits⟩
    simp only [ofJson?, Json.Number.word?, Word.check?_eq_some_iff.mpr ⟨⟨bits.1, fits⟩, rfl⟩,
      Option.map_some, Option.some_or]
  · have large := not_le.mp fits
    obtain ⟨x, rounded⟩ := Binary64.exists_ofInt? bits.natAbs_lt
    refine ⟨.float x, ?_, .nearest large (Binary64.ofInt?_nearest rounded)⟩
    have beyond : Word.check? n = none := if_neg fun within => fits within.2
    simp only [ofJson?, Json.Number.word?, Json.Number.double?, beyond, rounded, Option.map_none,
      Option.map_some, Option.none_or]

/-- The parameter of an integer denotes it if it is a signed word or a multiple of 2048, and only
then.
-/
theorem Approximates.denotes_iff {n : Int} {p : Parameter} (h : p.Approximates n)
    (bits : Word.HasBits n)
    : p.Denotes n ↔ n ≤ Word.greatest ∨ 2048 ∣ n := by
  cases h with
  | itself fits => exact iff_of_true rfl (Or.inl fits)
  | nearest large near =>
      obtain ⟨low, high⟩ := bits.bounds large
      rw [or_iff_right large.not_ge]
      exact near.value_eq_iff low high

/-- Integers with one parameter are the same, or both too large for a signed word and at most 2048
apart.
-/
theorem Approximates.eq_or_near {n m : Int} {p : Parameter} (left : p.Approximates n)
    (right : p.Approximates m) (bitsLeft : Word.HasBits n) (bitsRight : Word.HasBits m)
    : n = m ∨ Word.greatest < n ∧ Word.greatest < m ∧ |n - m| ≤ 2048 := by
  cases left with
  | itself _ =>
      cases right with
      | itself _ => exact Or.inl rfl
  | nearest large near =>
      cases right with
      | nearest large' near' =>
          obtain ⟨low, high⟩ := bitsLeft.bounds large
          obtain ⟨low', high'⟩ := bitsRight.bounds large'
          exact Or.inr ⟨large, large', near.distance_le near' low high low' high'⟩

end Parameter

/-- The query of an expression with an integer in its open place. -/
def OpenExpr.compileInteger (table : ValueTable) (clock : Clock) (fields : List Field)
    (e : OpenExpr) (n : Int)
    : Except (Ending FilterError) CompiledQuery :=
  FilterExpr.compile table clock fields (some (e.fill (.integer n)))

/-- What becomes of an integer of at most 64 bits in a filter, signed or unsigned. The filter fails
in the same way for every integer, or it compiles to the same query for all of them but for one
parameter. That one is the integer itself if it is a signed word, and the nearest double if it is
not; and so it denotes the integer exactly if that is a signed word or a multiple of 2048. Two
integers get equal parameters only if both are too large for signed words, and then they are at most
2048 apart. By cases on what the compilation that binds the integer comes to.
-/
theorem OpenExpr.compile_integer {fields : List Field} {e : OpenExpr}
    (bound : e.IsBoundOver fields) (table : ValueTable) (clock : Clock)
    : ((∃ error, ∀ n, Word.HasBits n → e.compileInteger table clock fields n = .error error)
        ∨ ∃ predicate joins before after,
            ∀ n,
              Word.HasBits n
              → ∃ p : Parameter,
                  e.compileInteger table clock fields n
                    = .ok { predicate, joins, params := before ++ p :: after }
                  ∧ p.Approximates n
                  ∧ (p.Denotes n ↔ n ≤ Word.greatest ∨ 2048 ∣ n))
      ∧ ∀ n m q r,
          Word.HasBits n
          → Word.HasBits m
          → e.compileInteger table clock fields n = .ok q
          → e.compileInteger table clock fields m = .ok r
          → q.params = r.params
          → n = m ∨ Word.greatest < n ∧ Word.greatest < m ∧ |n - m| ≤ 2048 := by
  rcases compile_bindsNumber bound table clock with
    ⟨error, failed⟩ | ⟨⟨predicate, joins⟩, before, after, found⟩
  · have fails {n : Int} (bits : Word.HasBits n)
        : e.compileInteger table clock fields n = .error error := by
      obtain ⟨p, reads, _⟩ := Parameter.ofJson?_integer bits
      exact failed _ p reads
    refine ⟨Or.inl ⟨error, fun n bits => fails bits⟩, ?_⟩
    intro n m q r bits _ compiled
    cases (fails bits).symm.trans compiled
  · have binds {n : Int} (bits : Word.HasBits n)
        : ∃ p : Parameter,
            e.compileInteger table clock fields n
              = .ok { predicate, joins, params := before ++ p :: after }
            ∧ p.Approximates n := by
      obtain ⟨p, reads, approximates⟩ := Parameter.ofJson?_integer bits
      obtain ⟨q, compiled, shape, params⟩ := found _ p reads
      obtain ⟨rfl, rfl⟩ := Prod.mk.inj shape
      exact ⟨p, params ▸ compiled, approximates⟩
    constructor
    · refine Or.inr ⟨predicate, joins, before, after, fun n bits => ?_⟩
      obtain ⟨p, compiled, approximates⟩ := binds bits
      exact ⟨p, compiled, approximates, approximates.denotes_iff bits⟩
    · intro n m q r bitsLeft bitsRight left right same
      obtain ⟨p, compiled, approximates⟩ := binds bitsLeft
      obtain ⟨p', compiled', approximates'⟩ := binds bitsRight
      obtain rfl := Except.ok.inj (compiled.symm.trans left)
      obtain rfl := Except.ok.inj (compiled'.symm.trans right)
      obtain rfl := (List.cons.inj (List.append_cancel_left same)).1
      exact approximates.eq_or_near approximates' bitsLeft bitsRight

/-- Entities with a number of their own. -/
def idFields : List Field :=
  [ { code := "id", id := 1, type := .number, placement := .fixed "r.id", scope := 0,
      style := none } ]

/-- The entity with a given number. -/
def withId : OpenExpr :=
  .condition "id" (.compared .eq)

theorem withId_isBoundOver : withId.IsBoundOver idFields := by
  intro f found
  obtain rfl := Option.some.inj found
  intro typed
  cases typed

def idQuery (p : Parameter) : CompiledQuery :=
  { predicate := "(r.id = ?)", joins := [], params := [p] }

/-- The least integer that is too large for a signed word, as a double. -/
def Binary64.afterWords : Binary64 :=
  { negative := false, rank := 1086 * perExponent, rank_lt := by decide }

theorem Binary64.value_afterWords : afterWords.value = 9223372036854775808 := by
  have significand : afterWords.significand = 2 ^ 52 := by decide
  have exponent : afterWords.exponent = 11 := by decide
  rw [value, magnitude, significand, exponent]
  norm_num [signed, afterWords]

/-- The greatest signed word is bound as itself, and the integer after it as its double. -/
theorem OpenExpr.compile_integer_afterWords
    : withId.compileInteger .standard ⟨.utc, 0⟩ idFields 9223372036854775807
        = .ok (idQuery (.int 9223372036854775807))
      ∧ withId.compileInteger .standard ⟨.utc, 0⟩ idFields 9223372036854775808
        = .ok (idQuery (.float .afterWords))
      ∧ Parameter.Denotes 9223372036854775808 (.float .afterWords) := by
  have own
      : withId.compileInteger .standard ⟨.utc, 0⟩ idFields 9223372036854775807
        = .ok (idQuery (.int 9223372036854775807)) := by
    rfl
  have next
      : withId.compileInteger .standard ⟨.utc, 0⟩ idFields 9223372036854775808
        = .ok (idQuery (.float .afterWords)) := by
    rfl
  refine ⟨own, next, ?_⟩
  rcases (compile_integer withId_isBoundOver .standard ⟨.utc, 0⟩).1 with
    ⟨error, failed⟩ | ⟨predicate, joins, before, after, found⟩
  · cases own.symm.trans (failed _ ⟨by decide, by decide⟩)
  · obtain ⟨p, compiled, _, exactly⟩ := found 9223372036854775808 ⟨by decide, by decide⟩
    have params := congrArg CompiledQuery.params (Except.ok.inj (next.symm.trans compiled))
    have member : p ∈ (idQuery (.float .afterWords)).params := by
      rw [params]
      exact List.mem_append_right _ List.mem_cons_self
    obtain rfl := List.mem_singleton.mp member
    exact exactly.mpr (Or.inr (by norm_num))

/-- The next integer is bound as the same double, which is not the integer: a filter for one entity
compiles to the query for another one.
-/
theorem OpenExpr.compile_integer_rounds
    : Word.HasBits 9223372036854775809
      ∧ withId.IsBoundOver idFields
      ∧ withId.compileInteger .standard ⟨.utc, 0⟩ idFields 9223372036854775809
        = .ok (idQuery (.float .afterWords))
      ∧ withId.compileInteger .standard ⟨.utc, 0⟩ idFields 9223372036854775808
        = .ok (idQuery (.float .afterWords))
      ∧ ¬ Parameter.Denotes 9223372036854775809 (.float .afterWords) := by
  refine ⟨⟨by decide, by decide⟩, withId_isBoundOver, rfl, rfl, ?_⟩
  intro same
  have value : Binary64.afterWords.value = 9223372036854775808 := Binary64.value_afterWords
  rw [Parameter.Denotes, value] at same
  norm_num at same

end FieldFilter
