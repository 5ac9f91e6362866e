import FieldFilter.Calendar.Zone
import FieldFilter.Database.Connection
import FieldFilter.Host.Path
import FieldFilter.Settings.Error
import FieldFilter.Settings.Layer
import FieldFilter.Sql.Column

/-! The settings of the program. They follow from a layer and from what the command line sets over
it; whatever neither of them sets has a standard value. Every name that is spliced into SQL is
checked to be plain.
-/

namespace FieldFilter

/-- What the command line sets. -/
structure Overrides where
  config : Option String := none
  url : Option String := none
  catalog : Option String := none
  scope : Option Int := none
  zone : Option Calendar.Zone := none
  deriving DecidableEq, Repr

/-- Where the catalog is: in a table, unless there is a file. -/
structure CatalogSettings where
  table : String
  file : Option String
  deriving DecidableEq, Repr

/-- The settings of the program. -/
structure Settings where
  database : Option DatabaseSettings
  catalog : CatalogSettings
  valueTable : ValueTable
  entity : Entity
  zone : Calendar.Zone
  deriving DecidableEq

namespace Settings

def poolOf (layer : DatabaseLayer) : PoolSettings :=
  { maxConnections := layer.maxConnections.getD PoolSettings.standard.maxConnections
    minConnections := layer.minConnections.getD PoolSettings.standard.minConnections
    acquireTimeout := layer.acquireTimeout.getD PoolSettings.standard.acquireTimeout
    idleTimeout := layer.idleTimeout.getD PoolSettings.standard.idleTimeout }

/-- The database, if an address is set that is not blank. -/
def databaseOf (overrides : Overrides) (layer : DatabaseLayer) : Option DatabaseSettings :=
  ((overrides.url.or layer.url).filter fun url => Text.trimmed url ≠ "").map fun url =>
    { url, pool := poolOf layer }

/-- The catalog table unless it is set. -/
def standardCatalogTable : String := "fields"

def catalogOf (home : Option String) (overrides : Overrides) (layer : CatalogLayer)
    : CatalogSettings :=
  { table := layer.table.getD standardCatalogTable
    file := (overrides.catalog.or layer.file).map (Path.expand home) }

/-- The layout of the value table, each name that is set in place of the standard one. -/
def valueTableOf (layer : ValueTableLayer) (standard : ValueTable) : ValueTable :=
  { table := layer.table.getD standard.table
    parentKey := layer.parentKey.getD standard.parentKey
    keyColumn := layer.keyColumn.getD standard.keyColumn
    fieldColumn := layer.fieldColumn.getD standard.fieldColumn
    textColumn := layer.textColumn.getD standard.textColumn
    listColumn := layer.listColumn.getD standard.listColumn
    booleanColumn := layer.booleanColumn.getD standard.booleanColumn
    numericColumn := layer.numericColumn.getD standard.numericColumn }

/-- The layout of the entities, each name that is set in place of the standard one. -/
def entityOf (layer : EntityLayer) (standard : Entity) : Entity :=
  { table := layer.table.getD standard.table
    scopeColumn := layer.scopeColumn.getD standard.scopeColumn
    idColumn := layer.idColumn.getD standard.idColumn }

/-- The zone. One that the command line sets has been read before. -/
def zoneOf (zones : Calendar.ZoneDatabase) (overrides : Overrides) (layer : CompilerLayer)
    : Except SettingsError Calendar.Zone :=
  match overrides.zone with
  | some zone => .ok zone
  | none =>
    let name := layer.zone.getD Calendar.Zone.utc.name
    match zones.read? name with
    | some zone => .ok zone
    | none => .error (.unknownZone name)

/-- The settings that are spliced into SQL, by name. -/
def identifiers (s : Settings) : List (String × String) :=
  [ ("catalog.table", s.catalog.table),
    ("custom_fields.table", s.valueTable.table),
    ("custom_fields.parent_key", s.valueTable.parentKey),
    ("custom_fields.key_column", s.valueTable.keyColumn),
    ("custom_fields.field_column", s.valueTable.fieldColumn),
    ("custom_fields.text_column", s.valueTable.textColumn),
    ("custom_fields.list_column", s.valueTable.listColumn),
    ("custom_fields.boolean_column", s.valueTable.booleanColumn),
    ("custom_fields.numeric_column", s.valueTable.numericColumn),
    ("entity.table", s.entity.table),
    ("entity.scope_column", s.entity.scopeColumn),
    ("entity.id_column", s.entity.idColumn) ]

def fault? (s : Settings) : Option SettingsError :=
  match s.identifiers.find? fun (_, value) => !Identifier.isPlain value with
  | some (name, value) => some (.notPlain name value)
  | none =>
    match s.database with
    | none => none
    | some { pool, .. } =>
      if pool.maxConnections < pool.minConnections then
        some (.tooManyIdle pool.minConnections pool.maxConnections)
      else none

/-- The settings that follow from a layer and the command line. -/
def resolve (zones : Calendar.ZoneDatabase) (home : Option String) (overrides : Overrides)
    (layer : Layer)
    : Except SettingsError Settings := do
  let zone ← zoneOf zones overrides layer.compiler
  let settings : Settings :=
    { database := databaseOf overrides layer.database
      catalog := catalogOf home overrides layer.catalog
      valueTable := valueTableOf layer.valueTable ValueTable.standard
      entity := entityOf layer.entity Entity.standard
      zone }
  match settings.fault? with
  | some e => throw e
  | none => return settings

end Settings

end FieldFilter
