/-! Layers of settings. A layer sets any subset of the settings; laid over another one, it decides
those that it sets and leaves the others to the layer below.
-/

namespace FieldFilter

/-- The settings of the database that a layer sets. -/
structure DatabaseLayer where
  url : Option String := none
  maxConnections : Option Nat := none
  minConnections : Option Nat := none
  acquireTimeout : Option Nat := none
  idleTimeout : Option Nat := none
  deriving DecidableEq, Repr

/-- The settings of the catalog that a layer sets. -/
structure CatalogLayer where
  table : Option String := none
  file : Option String := none
  deriving DecidableEq, Repr

/-- The names in the layout of the value table that a layer sets. -/
structure ValueTableLayer where
  table : Option String := none
  parentKey : Option String := none
  keyColumn : Option String := none
  fieldColumn : Option String := none
  textColumn : Option String := none
  listColumn : Option String := none
  booleanColumn : Option String := none
  numericColumn : Option String := none
  deriving DecidableEq, Repr

/-- The names in the layout of the entities that a layer sets. -/
structure EntityLayer where
  table : Option String := none
  scopeColumn : Option String := none
  idColumn : Option String := none
  deriving DecidableEq, Repr

/-- The settings of the compiler that a layer sets. -/
structure CompilerLayer where
  zone : Option String := none
  deriving DecidableEq, Repr

/-- A layer of settings. -/
structure Layer where
  database : DatabaseLayer := {}
  catalog : CatalogLayer := {}
  valueTable : ValueTableLayer := {}
  entity : EntityLayer := {}
  compiler : CompilerLayer := {}
  deriving DecidableEq, Repr

def DatabaseLayer.over (upper lower : DatabaseLayer) : DatabaseLayer :=
  { url := upper.url.or lower.url
    maxConnections := upper.maxConnections.or lower.maxConnections
    minConnections := upper.minConnections.or lower.minConnections
    acquireTimeout := upper.acquireTimeout.or lower.acquireTimeout
    idleTimeout := upper.idleTimeout.or lower.idleTimeout }

def CatalogLayer.over (upper lower : CatalogLayer) : CatalogLayer :=
  { table := upper.table.or lower.table
    file := upper.file.or lower.file }

def ValueTableLayer.over (upper lower : ValueTableLayer) : ValueTableLayer :=
  { table := upper.table.or lower.table
    parentKey := upper.parentKey.or lower.parentKey
    keyColumn := upper.keyColumn.or lower.keyColumn
    fieldColumn := upper.fieldColumn.or lower.fieldColumn
    textColumn := upper.textColumn.or lower.textColumn
    listColumn := upper.listColumn.or lower.listColumn
    booleanColumn := upper.booleanColumn.or lower.booleanColumn
    numericColumn := upper.numericColumn.or lower.numericColumn }

def EntityLayer.over (upper lower : EntityLayer) : EntityLayer :=
  { table := upper.table.or lower.table
    scopeColumn := upper.scopeColumn.or lower.scopeColumn
    idColumn := upper.idColumn.or lower.idColumn }

def CompilerLayer.over (upper lower : CompilerLayer) : CompilerLayer :=
  { zone := upper.zone.or lower.zone }

def Layer.over (upper lower : Layer) : Layer :=
  { database := upper.database.over lower.database
    catalog := upper.catalog.over lower.catalog
    valueTable := upper.valueTable.over lower.valueTable
    entity := upper.entity.over lower.entity
    compiler := upper.compiler.over lower.compiler }

end FieldFilter
