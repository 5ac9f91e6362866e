import FieldFilter.CommandLine.Arguments
import FieldFilter.CommandLine.EnvironmentFile
import FieldFilter.CommandLine.Failure
import FieldFilter.Service
import FieldFilter.Settings.Load

/-! The program behind the command line. It reads its arguments and settings, opens the catalog
and, where a command needs it, the database; then it compiles the filter and prints the query, the
number of the entities that match, or their ids.
-/

namespace FieldFilter.CommandLine

/-- What the program does in the end. -/
inductive Outcome
  | printed (result : Json.Value)
  | failed (failure : Failure)
  | stopped (stop : Stop)
  /-- A calculation with dates left the calendar. -/
  | aborted (overrun : Calendar.Overrun)

/-- A step of the program, which may fail or abort and may warn. -/
abbrev Step (m : Type → Type) : Type → Type :=
  ExceptT (Ending Failure) (StateT (List Warning) m)

namespace Step

variable {m : Type → Type} [Monad m] {α ε : Type}

def effect (x : m α) : Step m α :=
  ExceptT.lift (StateT.lift x)

def fail (failure : Failure) : Step m α :=
  throw (.reported failure)

/-- A value, or the failure that its error is. -/
def ofExcept (fault : ε → Failure) : Except ε α → Step m α
  | .ok value => pure value
  | .error e => fail (fault e)

def ofLogged (fault : ε → Failure) (x : Logged (Except ε α)) : Step m α := do
  modify (· ++ x.warnings)
  ofExcept fault x.value

/-- A value, or how the program ends without it. -/
def ofEnding (fault : ε → Failure) (x : Logged (Except (Ending ε) α)) : Step m α := do
  modify (· ++ x.warnings)
  match x.value with
  | .ok value => pure value
  | .error ending => throw (ending.map fault)

end Step

namespace Command

/-- The command reads entities, and not only the catalog. -/
def needsDatabase : Command → Bool
  | compile _ => false
  | count _ _ | ids _ _ _ => true

end Command

/-- The entities and the value table for a command that names a table of its own. -/
def retargeted (settings : Settings) (source : Option String)
    : Except Failure (Entity × ValueTable) :=
  match source.filter (· ≠ settings.entity.table) with
  | none => .ok (settings.entity, settings.valueTable)
  | some table =>
    if Identifier.isPlain table then
      .ok (settings.entity.retarget table,
        settings.valueTable.retarget settings.entity.table table)
    else .error (.tableName table)

/-- The number of ids that are listed unless the command says otherwise. -/
def standardLimit : Nat := 100

/-- The scope of a compilation for which none is set. -/
def standardScope : Int := 0

/-- A compiled query in a scope, as it is printed. -/
def queryResult (scope : Int) (q : CompiledQuery) : Json.Value :=
  .object
    [ ("scope_id", .number (.integer scope)),
      ("predicate", .string q.predicate),
      ("where_clause", .string q.whereClause),
      ("joins", .array (q.joins.map .string)),
      ("params", .array (q.params.map Parameter.toJson)) ]

/-- The number of entities in a scope, as it is printed. -/
def countResult (scope count : Int) : Json.Value :=
  .object [("scope_id", .number (.integer scope)), ("count", .number (.integer count))]

/-- The ids of entities in a scope, as they are printed. -/
def idsResult (scope : Int) (ids : List Int) : Json.Value :=
  .object
    [ ("scope_id", .number (.integer scope)),
      ("ids", .array (ids.map fun id => .number (.integer id))) ]

/-- What the program has opened: its settings, the catalog and perhaps the database. -/
structure Opened (m : Type → Type) where
  settings : Settings
  catalog : Backend m
  connection : Option (Connection m)

section

variable {m : Type → Type} [Monad m]

/-- The text of a filter argument, which may name a file. -/
def filterText (host : Host m) (argument : String) : Step m String :=
  match Text.trim argument.toList with
  | '@' :: path => do
    let path := host.path (String.ofList path)
    Step.ofExcept (Failure.filterFile path) (← Step.effect (host.read path))
  | text => pure (String.ofList text)

def compileArgument (host : Host m) (service : Service) (catalog : Backend m) (scope : Int)
    (argument : String)
    : Step m CompiledQuery := do
  let text ← filterText host argument
  let filter ← Step.ofExcept Failure.filterText (readFilter text)
  let now ← Step.effect host.now
  Step.ofEnding Failure.compilation
    (← Step.effect (service.compileAt catalog scope now filter))

/-- The database, if there is one and it is needed. A command on entities requires it; without a
catalog file the catalog is in it. -/
def openConnection (host : Host m) (settings : Settings) (required : Bool)
    : Step m (Option (Connection m)) :=
  if required || settings.catalog.file.isNone then
    match settings.database with
    | none => if required then Step.fail .databaseRequired else pure none
    | some database => do
      let opened ← Step.effect (host.open? database)
      some <$> Step.ofExcept Failure.connection opened
  else pure none

/-- The catalog: that of the file, or else the one in the database. -/
def openCatalog (host : Host m) (settings : CatalogSettings) (connection : Option (Connection m))
    : Step m (Backend m) :=
  match settings.file, connection with
  | some path, _ => do
    let listing ← Step.effect (host.readListing path)
    return (← Step.ofLogged (Failure.catalogFile path) listing).backend
  | none, some connection => pure (connection.backend settings.table)
  | none, none => Step.fail .noCatalog

def openAll (host : Host m) (request : Request) : Step m (Opened m) := do
  let settings ←
    Step.ofLogged Failure.settings (← Step.effect (Settings.load host request.overrides))
  let connection ← openConnection host settings request.command.needsDatabase
  let catalog ← openCatalog host settings.catalog connection
  return { settings, catalog, connection }

def required (connection : Option (Connection m)) : Step m (Connection m) :=
  match connection with
  | some connection => pure connection
  | none => Step.fail .databaseRequired

/-- The query of a command on entities, with the scope, the connection and the entities that it
is for. -/
def entityQuery (host : Host m) (opened : Opened m) (scope : Option Int) (filter : String)
    (source : Option String)
    : Step m (Int × Connection m × Entity × CompiledQuery) := do
  let some scope := scope | Step.fail .scopeRequired
  let (entity, valueTable) ← Step.ofExcept id (retargeted opened.settings source)
  let service : Service := { valueTable, zone := opened.settings.zone }
  let q ← compileArgument host service opened.catalog scope filter
  return (scope, ← required opened.connection, entity, q)

def execute (host : Host m) (opened : Opened m) (scope : Option Int)
    : Command → Step m Json.Value
  | .compile filter => do
    let scope := scope.getD standardScope
    let service : Service :=
      { valueTable := opened.settings.valueTable, zone := opened.settings.zone }
    return queryResult scope (← compileArgument host service opened.catalog scope filter)
  | .count filter source => do
    let (scope, connection, entity, q) ← entityQuery host opened scope filter source
    let answer ← Step.effect (connection.countMatches entity scope q)
    return countResult scope (← Step.ofExcept Failure.count answer)
  | .ids filter source limit => do
    let (scope, connection, entity, q) ← entityQuery host opened scope filter source
    let answer ← Step.effect
      (connection.listMatches entity scope q (limit.getD standardLimit))
    return idsResult scope (← Step.ofExcept Failure.ids answer)

def perform (host : Host m) (request : Request) : Step m Json.Value := do
  let opened ← openAll host request
  execute host opened request.overrides.scope request.command

def environmentFile : String := ".env"

/-- The environment of the program, after the file that sets more of it. -/
def environment (host : Host m) : m (String → Option String) := do
  match ← host.read environmentFile with
  | .error _ => return host.lookupVariable
  | .ok text => return EnvironmentFile.extend host.lookupVariable text

/-- The program on a host with some arguments, and the warnings on the way. -/
def run (host : Host m) (arguments : List String) : m (Logged Outcome) := do
  match readRequest host.zones (← environment host) arguments with
  | .error stop => return .quiet (.stopped stop)
  | .ok request =>
    let (result, warnings) ← (perform host request).run.run []
    match result with
    | .ok value => return { value := .printed value, warnings }
    | .error (.reported failure) => return { value := .failed failure, warnings }
    | .error (.stopped overrun) => return { value := .aborted overrun, warnings }

end

def versionText : String := "filterc 0.4.2"

namespace Outcome

def code : Outcome → Nat
  | printed _ => 0
  | failed _ => 1
  | stopped .usage => 2
  | stopped .version | stopped .help => 0
  | aborted _ => 101

end Outcome

end FieldFilter.CommandLine
