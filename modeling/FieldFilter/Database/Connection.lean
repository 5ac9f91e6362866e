import FieldFilter.Catalog.Backend
import FieldFilter.Database.Address
import FieldFilter.Database.Pool
import FieldFilter.Database.Row
import FieldFilter.Database.Statement

/-! Connections to a database server, and what they are used for: a catalog in a table, and the
number and the ids of the entities that match a query.
-/

namespace FieldFilter

/-- A connection, by the kinds of answers that its statements get. -/
structure Connection (m : Type → Type) where
  rows : Statement → m (Except DataError (List CatalogRow))
  count : Statement → m (Except DataError Int)
  ids : Statement → m (Except DataError (List Int))

/-- What it takes to connect: an address and a pool. -/
structure DatabaseSettings where
  url : String
  pool : PoolSettings
  deriving DecidableEq, Repr

namespace DatabaseSettings

def backendName : String := "mysql"

/-- The pool of a connection, unless the address makes no sense. -/
def check (settings : DatabaseSettings) : Except DataError PoolSettings :=
  if settings.url = "" then .error (.config "MySQL URL is required")
  else match Address.read? settings.url with
    | none => .error (.config "Invalid MySQL URL: the text is not an address")
    | some _ => .ok settings.pool.withoutZeros

end DatabaseSettings

namespace Connection

variable {m : Type → Type} [Monad m]

/-- The fields of a scope with some codes in a catalog table. No codes need no statement. -/
def lookup (connection : Connection m) (table : String) (scope : Int) (codes : List String)
    : m Answer :=
  if codes.isEmpty then pure (.quiet (.ok []))
  else do
    match ← connection.rows (.fields table scope codes) with
    | .error e => return .quiet (.error e)
    | .ok rows =>
      let fields := CatalogRow.fields rows
      return { value := .ok fields.value, warnings := fields.warnings }

def backend (connection : Connection m) (table : String) : Backend m :=
  { name := DatabaseSettings.backendName
    lookup := connection.lookup table }

/-- The number of entities of a scope that match a query. -/
def countMatches (connection : Connection m) (entity : Entity) (scope : Int) (q : CompiledQuery)
    : m (Except DataError Int) :=
  connection.count (.count entity scope q)

/-- The ids of at most `limit` entities of a scope that match a query. -/
def listMatches (connection : Connection m) (entity : Entity) (scope : Int) (q : CompiledQuery)
    (limit : Nat)
    : m (Except DataError (List Int)) :=
  connection.ids (.ids entity scope q limit)

end Connection

end FieldFilter
