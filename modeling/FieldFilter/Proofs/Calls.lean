import FieldFilter.Database.Connection
import FieldFilter.Service

/-! What is asked of the outside. A backend or a connection that notes its calls answers as it did
before, and the calls of a computation stand beside the result, in the order in which they are made.
-/

namespace FieldFilter

variable {m : Type → Type} [Monad m]

/-- A call that is made and noted behind those before it. -/
def noting {α β : Type} (call : α → m β) (a : α) : StateT (List α) m β :=
  fun calls => (fun b => (b, calls ++ [a])) <$> call a

@[simp] theorem run_noting {α β : Type} (call : α → m β) (a : α) (calls : List α)
    : (noting call a).run calls = (fun b => (b, calls ++ [a])) <$> call a :=
  rfl

/-- A backend that notes the scope and the codes of each lookup. -/
def Backend.noted (backend : Backend m) : Backend (StateT (List (Int × List String)) m) :=
  { name := backend.name
    lookup := fun scope codes =>
      noting (fun asked => backend.lookup asked.1 asked.2) (scope, codes) }

/-- A connection that notes the statements that are sent over it. -/
def Connection.noted (connection : Connection m) : Connection (StateT (List Statement) m) :=
  { rows := noting connection.rows
    count := noting connection.count
    ids := noting connection.ids }

-----------------------------------------------------------------------------------------
-- Compilations
-----------------------------------------------------------------------------------------

namespace Service

variable (service : Service) (backend : Backend m) (scope now : Int)

/-- A filter that cannot be read asks for nothing. -/
theorem run_compileAt_noted_error {filter : Json.Value} {error : FilterError}
    (read : FilterExpr.ofFilter filter = .error error) (calls : List (Int × List String))
    : (service.compileAt backend.noted scope now filter).run calls
      = pure (.quiet (.error (.reported error)), calls) := by
  rw [compileAt, read]
  rfl

/-- A filter without an expression asks for nothing. -/
theorem run_compileAt_noted_none {filter : Json.Value}
    (read : FilterExpr.ofFilter filter = .ok none) (calls : List (Int × List String))
    : (service.compileAt backend.noted scope now filter).run calls
      = pure (.quiet (.ok .alwaysTrue), calls) := by
  rw [compileAt, read]
  rfl

/-- A filter with an expression asks for its codes, once, and concludes from the answer. -/
theorem run_compileAt_noted_some [LawfulMonad m] {filter : Json.Value} {e : FilterExpr}
    (read : FilterExpr.ofFilter filter = .ok (some e)) (calls : List (Int × List String))
    : (service.compileAt backend.noted scope now filter).run calls
      = (fun answer =>
            (service.conclude backend.name scope now e answer,
              calls ++ [(scope, fieldCodes filter)]))
          <$> backend.lookup scope (fieldCodes filter) := by
  rw [compileAt, read]
  simp [Backend.noted]

/-- Noting what is asked for does not change the outcome, by cases on how the filter is read. -/
theorem fst_run_compileAt_noted [LawfulMonad m] (filter : Json.Value)
    (calls : List (Int × List String))
    : Prod.fst <$> (service.compileAt backend.noted scope now filter).run calls
      = service.compileAt backend scope now filter := by
  cases read : FilterExpr.ofFilter filter with
  | error error =>
      rw [run_compileAt_noted_error service backend scope now read, map_pure, compileAt, read]
  | ok expression =>
      cases expression with
      | none =>
          rw [run_compileAt_noted_none service backend scope now read, map_pure, compileAt, read]
      | some e =>
          rw [run_compileAt_noted_some service backend scope now read, Functor.map_map, compileAt,
            read]
          exact map_eq_pure_bind _ _

end Service

-----------------------------------------------------------------------------------------
-- Statements
-----------------------------------------------------------------------------------------

namespace Connection

variable (connection : Connection m)

/-- No codes are looked up without a statement. -/
theorem run_lookup_noted_nil (table : String) (scope : Int) (calls : List Statement)
    : (connection.noted.lookup table scope []).run calls = pure (.quiet (.ok []), calls) :=
  rfl

/-- Some codes are looked up with one statement, and the answer is that of the connection. -/
theorem run_lookup_noted [LawfulMonad m] (table : String) (scope : Int) {codes : List String}
    (given : codes ≠ []) (calls : List Statement)
    : (connection.noted.lookup table scope codes).run calls
      = (fun answer => (answer, calls ++ [Statement.fields table scope codes]))
          <$> connection.lookup table scope codes := by
  have asked : codes.isEmpty = false := by simpa using given
  simp only [lookup, noted, asked, Bool.false_eq_true, if_false, StateT.run_bind, run_noting,
    map_bind, bind_map_left]
  congr 1
  funext answer
  cases answer <;> simp

end Connection

end FieldFilter
