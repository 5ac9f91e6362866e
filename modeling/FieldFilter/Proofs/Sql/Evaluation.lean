import FieldFilter.Proofs.Sql.Truth

/-! What a database answers to a test, from the values that are stored for an entity. How it
computes with values is left open but for two laws. A value may be missing, and then everything that
is computed from it is missing too, except where an expression says what stands for it.
-/

namespace FieldFilter

namespace Truth

def not : Truth → Truth
  | some b => some !b
  | none => none

/-- The answer to a disjunction, from the answers to its parts. -/
def any (answers : List Truth) : Truth :=
  answers.foldr or (some false)

theorem or_eq_no_iff {p q : Truth} : or p q = some false ↔ p = some false ∧ q = some false := by
  rcases p with _ | _ | _ <;> rcases q with _ | _ | _ <;> decide

theorem not_eq_yes_iff {p : Truth} : not p = some true ↔ p = some false := by
  rcases p with _ | _ | _ <;> decide

/-- A disjunction holds when one of its parts does, by induction on the parts. -/
theorem any_eq_yes_iff {answers : List Truth} : any answers = some true ↔ some true ∈ answers := by
  induction answers with
  | nil => simp [any]
  | cons answer answers ih =>
      rw [any, List.foldr_cons, or_eq_yes_iff, ← any, ih, List.mem_cons, eq_comm]

/-- A disjunction fails when all of its parts do, by induction on the parts. -/
theorem any_eq_no_iff {answers : List Truth}
    : any answers = some false ↔ ∀ answer ∈ answers, answer = some false := by
  induction answers with
  | nil => simp [any]
  | cons answer answers ih =>
      rw [any, List.foldr_cons, or_eq_no_iff, ← any, ih, List.forall_mem_cons]

end Truth

/-- How a database computes with values. Two values are different exactly when they are not equal, and
numbers are compared as such.
-/
structure Engine (V : Type) where
  ofParameter : Parameter → V
  ofNat : Nat → V
  emptyText : V
  compare : Comparison → V → V → Bool
  /-- The place of a text in another one, or zero. -/
  locate : V → V → Nat
  length : V → V
  bytes : V → V
  /-- The date of a number of seconds, that many seconds ahead. -/
  date : V → Int → V
  like : V → V → Bool
  regexp : V → V → Bool
  /-- A document contains another one. -/
  contains : V → V → Bool
  compare_ne : ∀ v w, compare .ne v w = !compare .eq v w
  compare_ofNat
    : ∀ relation (m n : Nat),
        compare relation (ofNat m) (ofNat n) = decide (Comparison.Holds relation m n)

namespace Engine

variable {V : Type} (engine : Engine V) (stored : Column → Option V)

/-- The value of a term for an entity, if it has one. -/
def value : Term → Option V
  | .column c => stored c
  | .bound p => some (engine.ofParameter p)
  | .literal n => some (engine.ofNat n)
  | .emptyText => some engine.emptyText
  | .locate p c =>
    (stored c).map fun v => engine.ofNat (engine.locate (engine.ofParameter p) v)
  | .length c => (stored c).map engine.length
  | .bytes c => some (engine.bytes ((stored c).getD engine.emptyText))
  | .date c offset => some (engine.date ((stored c).getD (engine.ofNat 0)) offset)

/-- The answer to a comparison, which is open when a side is missing. -/
def comparison (relation : Comparison) (left right : Option V) : Truth :=
  left.bind fun v => right.map fun w => engine.compare relation v w

/-- The answer to the question whether a column contains one of some documents. -/
def containsAny (c : Column) (documents : List Parameter) : Truth :=
  .any (documents.map fun d => (stored c).map fun v => engine.contains v (engine.ofParameter d))

/-- The answer to an atom for an entity. -/
def answer : Atom → Truth
  | .compare relation left right =>
    engine.comparison relation (engine.value stored left) (engine.value stored right)
  | .isNull c => some (stored c).isNone
  | .isNotNull c => some (stored c).isSome
  | .like c pattern => (stored c).map fun v => engine.like v (engine.ofParameter pattern)
  | .regexp c pattern => (stored c).map fun v => engine.regexp v (engine.ofParameter pattern)
  | .between c least greatest =>
    .and (engine.comparison .ge (stored c) (engine.ofParameter least))
      (engine.comparison .le (stored c) (engine.ofParameter greatest))
  | .contains false c documents => engine.containsAny stored c documents
  | .contains true c documents => (engine.containsAny stored c documents).not

variable {engine stored}

@[simp] theorem value_column (c : Column) : engine.value stored (.column c) = stored c := rfl

@[simp] theorem value_literal (n : Nat)
    : engine.value stored (.literal n) = some (engine.ofNat n) := rfl

@[simp] theorem value_emptyText : engine.value stored .emptyText = some engine.emptyText := rfl

@[simp] theorem value_locate (p : Parameter) (c : Column)
    : engine.value stored (.locate p c)
      = (stored c).map fun v => engine.ofNat (engine.locate (engine.ofParameter p) v) := rfl

@[simp] theorem comparison_none_left (relation : Comparison) (right : Option V)
    : engine.comparison relation none right = none := rfl

@[simp] theorem comparison_some (relation : Comparison) (v w : V)
    : engine.comparison relation (some v) (some w) = some (engine.compare relation v w) := rfl

/-- A column that has a value contains one of some documents, or it does not. -/
theorem not_containsAny_iff (engine : Engine V) {c : Column} (documents : List Parameter) {v : V}
    (present : stored c = some v)
    : (engine.containsAny stored c documents).not = some true
      ↔ engine.containsAny stored c documents ≠ some true := by
  rw [Truth.not_eq_yes_iff, containsAny, Truth.any_eq_no_iff, Ne, Truth.any_eq_yes_iff]
  simp [present]

/-- Nothing is contained in a missing value. -/
theorem containsAny_ne_yes (engine : Engine V) {c : Column} (documents : List Parameter)
    (missing : stored c = none)
    : engine.containsAny stored c documents ≠ some true := by
  rw [containsAny, Ne, Truth.any_eq_yes_iff]
  simp [missing]

end Engine

end FieldFilter
