import FieldFilter.Json.Record
import FieldFilter.Settings.Layer

/-! Settings files. A file is a JSON object with one section for each part of the settings, and
sections are records of which every part is optional. Keys of the file that are no sections are
kept by name, so that they can be reported; keys of a section that mean nothing are passed over.
-/

namespace FieldFilter

namespace DatabaseLayer

def keys : List String :=
  ["url", "max_connections", "min_connections", "acquire_timeout_secs", "idle_timeout_secs"]

/-- The largest number of connections, of 32 bits. -/
def greatestCount : Nat := 4294967295

/-- The largest number of seconds, of 64 bits. -/
def greatestTime : Nat := 18446744073709551615

def number? (greatest : Nat) (tree : Option Json.Tree) : Option (Option Nat) :=
  Json.Tree.optional? (fun t => (t.integer? 0 greatest).map Int.toNat) tree

def ofParts? : List (Option Json.Tree) → Option DatabaseLayer
  | [url, maxConnections, minConnections, acquireTimeout, idleTimeout] => do
    return {
      url := ← Json.Tree.optional? Json.Tree.text? url
      maxConnections := ← number? greatestCount maxConnections
      minConnections := ← number? greatestCount minConnections
      acquireTimeout := ← number? greatestTime acquireTimeout
      idleTimeout := ← number? greatestTime idleTimeout }
  | _ => none

end DatabaseLayer

namespace CatalogLayer

def keys : List String := ["table", "file"]

def ofTexts? : List (Option String) → Option CatalogLayer
  | [table, file] => some { table, file }
  | _ => none

end CatalogLayer

namespace ValueTableLayer

def keys : List String :=
  [ "table", "parent_key", "key_column", "field_column", "text_column", "list_column",
    "boolean_column", "numeric_column" ]

def ofTexts? : List (Option String) → Option ValueTableLayer
  | [table, parentKey, keyColumn, fieldColumn, textColumn, listColumn, booleanColumn,
      numericColumn] =>
    some { table, parentKey, keyColumn, fieldColumn, textColumn, listColumn, booleanColumn,
           numericColumn }
  | _ => none

end ValueTableLayer

namespace EntityLayer

def keys : List String := ["table", "scope_column", "id_column"]

def ofTexts? : List (Option String) → Option EntityLayer
  | [table, scopeColumn, idColumn] => some { table, scopeColumn, idColumn }
  | _ => none

end EntityLayer

namespace CompilerLayer

def keys : List String := ["time_zone"]

def ofTexts? : List (Option String) → Option CompilerLayer
  | [zone] => some { zone }
  | _ => none

end CompilerLayer

/-- What a settings file says. -/
structure SettingsFile where
  layer : Layer
  unknown : List String
  deriving DecidableEq, Repr

namespace SettingsFile

/-- A section with some keys, by the parts that it has. A section that is missing has none of
them; one that is written as an array has all of them. -/
def sectionOf? {α : Type} (keys : List String) (ofParts? : List (Option Json.Tree) → Option α)
    : Option Json.Tree → Option α
  | none | some .null => ofParts? (keys.map fun _ => none)
  | some tree => (tree.parts? keys keys.length).bind ofParts?

/-- A section of which every part is a text. -/
def textSection? {α : Type} (keys : List String) (ofTexts? : List (Option String) → Option α)
    (tree : Option Json.Tree)
    : Option α :=
  sectionOf? keys (fun parts => (parts.mapM (Json.Tree.optional? Json.Tree.text?)).bind ofTexts?)
    tree

def sections : List String :=
  ["database", "catalog", "custom_fields", "entity", "compiler"]

/-- How deep what an unknown key holds may nest inside the file. -/
def unknownDepth : Nat := Json.Tree.maxDepth - 1

/-- The key of a member, if it is no section. What it holds has to be a value all the same. -/
def unknownKey? (member : List Json.StringUnit × Json.Tree) : Option (Option String) := do
  let key ← Json.StringUnit.text? member.1
  if sections.contains key then return none
  let _ ← member.2.value? unknownDepth
  return some key

def layer? : List (Option Json.Tree) → Option Layer
  | [database, catalog, valueTable, entity, compiler] => do
    return {
      database := ← sectionOf? DatabaseLayer.keys DatabaseLayer.ofParts? database
      catalog := ← textSection? CatalogLayer.keys CatalogLayer.ofTexts? catalog
      valueTable := ← textSection? ValueTableLayer.keys ValueTableLayer.ofTexts? valueTable
      entity := ← textSection? EntityLayer.keys EntityLayer.ofTexts? entity
      compiler := ← textSection? CompilerLayer.keys CompilerLayer.ofTexts? compiler }
  | _ => none

/-- The settings of a file's tree, which has to be an object. -/
def ofTree? : Json.Tree → Option SettingsFile
  | .object members => do
    let unknown ← members.mapM unknownKey?
    let parts ← (Json.Tree.object members).parts? sections 0
    return { layer := ← layer? parts, unknown := (unknown.filterMap id).eraseDups }
  | _ => none

def read? (text : String) : Option SettingsFile :=
  (Json.Tree.read? text).bind ofTree?

end SettingsFile

end FieldFilter
