import FieldFilter.Proofs.Compile.References
import FieldFilter.Service

/-! What a compilation takes from the answer of a backend: for each code that its filter refers to,
the last row that belongs to the scope or to all of them. Rows of other scopes never shadow or
replace it, wherever they stand, and rows of other codes are not looked at.
-/

namespace FieldFilter

namespace Field

/-- The row that decides a code in a scope: the last one with the code that belongs to the scope
or to all of them.
-/
def lastIn? (scope : Int) (rows : List Field) (code : String) : Option Field :=
  (rows.filter fun f => f.code = code ∧ (f.scope = 0 ∨ f.scope = scope)).getLast?

/-- Some rows that belong to the scope or to all of them and have one of some codes. -/
def rowsFor (scope : Int) (codes : List String) (rows : List Field) : List Field :=
  rows.filter fun f => f.code ∈ codes ∧ (f.scope = 0 ∨ f.scope = scope)

/-- Rows of other scopes are left out before the last row of a code is taken, so they do not hide
it.
-/
theorem resolve?_filter_isVisibleIn (scope : Int) (rows : List Field) (code : String)
    : resolve? (rows.filter (·.isVisibleIn scope)) code = lastIn? scope rows code := by
  have same (f : Field)
      : (f.code == code && f.isVisibleIn scope)
        = decide (f.code = code ∧ (f.scope = 0 ∨ f.scope = scope)) := by
    rw [Bool.eq_iff_iff]
    simp [isVisibleIn]
  rw [resolve?, lastIn?, List.filter_filter]
  simp only [same]

/-- The rows for some codes are enough to find the row that decides one of them. -/
theorem lastIn?_rowsFor {scope : Int} {codes : List String} {code : String}
    (member : code ∈ codes) (rows : List Field)
    : lastIn? scope (rowsFor scope codes rows) code = lastIn? scope rows code := by
  rw [lastIn?, lastIn?, rowsFor, List.filter_filter]
  congr 1
  refine List.filter_congr fun f _ => ?_
  rw [Bool.eq_iff_iff]
  simp only [Bool.and_eq_true, decide_eq_true_eq]
  constructor
  · rintro ⟨own, _⟩
    exact own
  · rintro ⟨rfl, belongs⟩
    exact ⟨⟨rfl, belongs⟩, member, belongs⟩

end Field

/-- The codes that the conditions of a filter refer to; a filter without an expression has none. -/
def referencedCodes (filter : Json.Value) : List String :=
  match FilterExpr.ofFilter filter with
  | .ok (some e) => e.references
  | .ok none | .error _ => []

namespace Service

/-- An expression compiles alike over two answers that decide each of its codes by the same row,
errors included.
-/
theorem compileOver_congr (service : Service) (scope now : Int) {e : FilterExpr}
    {rows others : List Field}
    (same
      : ∀ code ∈ e.references, Field.lastIn? scope rows code = Field.lastIn? scope others code)
    : (service.compileOver now e (rows.filter (·.isVisibleIn scope))).value
      = (service.compileOver now e (others.filter (·.isVisibleIn scope))).value := by
  refine FilterExpr.compile_congr fun code member => .of_eq ?_
  rw [Field.resolve?_filter_isVisibleIn, Field.resolve?_filter_isVisibleIn]
  exact same code member

/-- What a backend answers decides the outcome only through the last row of each referenced code
in the scope, by cases on how the filter is read.
-/
theorem compileAt_congr (service : Service) (scope now : Int) {filter : Json.Value}
    {backend other : Backend Id} {rows others : List Field}
    (answer : (backend.lookup scope (fieldCodes filter)).value = .ok rows)
    (otherAnswer : (other.lookup scope (fieldCodes filter)).value = .ok others)
    (same
      : ∀ code ∈ referencedCodes filter,
          Field.lastIn? scope rows code = Field.lastIn? scope others code)
    : (service.compileAt backend scope now filter).value
      = (service.compileAt other scope now filter).value := by
  unfold compileAt
  unfold referencedCodes at same
  cases read : FilterExpr.ofFilter filter with
  | error e => rfl
  | ok expression =>
      cases expression with
      | none => rfl
      | some e =>
          rw [read] at same
          have concluded (name : String) {answer : Answer} {fields : List Field}
              (h : answer.value = .ok fields)
              : (service.conclude name scope now e answer).value
                = (service.compileOver now e (fields.filter (·.isVisibleIn scope))).value := by
            simp only [conclude, h]
          calc
            (service.conclude backend.name scope now e
                  (backend.lookup scope (fieldCodes filter))).value
                = (service.compileOver now e (rows.filter (·.isVisibleIn scope))).value :=
              concluded backend.name answer
            _ = (service.compileOver now e (others.filter (·.isVisibleIn scope))).value :=
              service.compileOver_congr scope now same
            _ = (service.conclude other.name scope now e
                  (other.lookup scope (fieldCodes filter))).value :=
              (concluded other.name otherAnswer).symm

/-- No scope sees the rows of another one, whatever backends answer: the query or the error of a
filter depends on no more of an answer than the last row, for each code that the filter refers
to, among those of the scope and of all scopes. So two answers with the same rows for these
codes, in the same order, give the same, whatever other rows stand between them.
-/
theorem compileAt_eq_of_last_rows (service : Service) (scope now : Int) {filter : Json.Value}
    {backend other : Backend Id} {rows others : List Field}
    (answer : (backend.lookup scope (fieldCodes filter)).value = .ok rows)
    (otherAnswer : (other.lookup scope (fieldCodes filter)).value = .ok others)
    : ((∀ code ∈ referencedCodes filter,
            Field.lastIn? scope rows code = Field.lastIn? scope others code)
          → (service.compileAt backend scope now filter).value
            = (service.compileAt other scope now filter).value)
      ∧ (Field.rowsFor scope (referencedCodes filter) rows
            = Field.rowsFor scope (referencedCodes filter) others
          → (service.compileAt backend scope now filter).value
            = (service.compileAt other scope now filter).value) := by
  refine ⟨service.compileAt_congr scope now answer otherAnswer, fun same => ?_⟩
  refine service.compileAt_congr scope now answer otherAnswer fun code member => ?_
  calc
    Field.lastIn? scope rows code
        = Field.lastIn? scope (Field.rowsFor scope (referencedCodes filter) rows) code :=
      (Field.lastIn?_rowsFor member rows).symm
    _ = Field.lastIn? scope (Field.rowsFor scope (referencedCodes filter) others) code := by
      rw [same]
    _ = Field.lastIn? scope others code := Field.lastIn?_rowsFor member others

/-- A backend that answers every lookup with the same rows, whatever it is asked for. -/
def careless (rows : List Field) : Backend Id :=
  { name := "careless", lookup := fun _ _ => .quiet (.ok rows) }

/-- A row for the age in the value table, in a scope. -/
def ageRow (id scope : Int) : Field :=
  { code := "age", id, type := .number, placement := .custom, scope, style := none }

/-- The age is three. -/
def ageFilter : Json.Value :=
  .array [.string "guests.age", .string "=", .number (.integer 3)]

def ageQuery : CompiledQuery :=
  { predicate := "(f1.value_number = ?)"
    joins := [Join.text .standard { number := 1, fieldId := 12 }]
    params := [.int 3] }

/-- Scope 7 gets its own row although one of scope 8 stands last, and rows around it change. -/
theorem compileAt_eq_of_last_rows_age
    : ((⟨.standard, .utc⟩ : Service).compileAt (careless [ageRow 12 7, ageRow 13 8]) 7 0
          ageFilter).value
        = .ok ageQuery
      ∧ ((⟨.standard, .utc⟩ : Service).compileAt
            (careless [ageRow 5 9, ageRow 14 7, ageRow 12 7, ageRow 15 8]) 7 0 ageFilter).value
        = .ok ageQuery := by
  have own
      : ((⟨.standard, .utc⟩ : Service).compileAt (careless [ageRow 12 7, ageRow 13 8]) 7 0
            ageFilter).value
          = .ok ageQuery := by
    rfl
  refine ⟨own, ?_⟩
  rw [← own]
  refine (compileAt_eq_of_last_rows _ 7 0 rfl rfl).1 fun code member => ?_
  have only : code ∈ ["age"] := member
  obtain rfl := List.mem_singleton.mp only
  rfl

end Service

end FieldFilter
