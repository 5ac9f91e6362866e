import FieldFilter.Catalog.Error
import FieldFilter.Catalog.Field
import FieldFilter.Json.Record

/-! Catalog records in JSON. A catalog text is a list of records with an id, a code and a type, and
optionally a column, a scope and a style.
-/

namespace FieldFilter

namespace FieldType

/-- The type that a tree names: its name alone, or as the only key of an object that holds
nothing. -/
def ofTree? : Json.Tree → Option FieldType
  | .string units => (Json.StringUnit.text? units).bind ofName?
  | .object [(key, .null)] => (Json.StringUnit.text? key).bind ofName?
  | _ => none

end FieldType

namespace Field

/-- The keys of a record, in the order that a record written as an array has. -/
def recordKeys : List String :=
  ["field_id", "field_code", "field_type", "column_name", "scope_id", "style"]

/-- How many parts a record written as an array has at least. -/
def requiredKeys : Nat := 3

/-- How deep a style may nest: it stands inside a record inside the list. -/
def styleDepth : Nat := Json.Tree.maxDepth - 2

/-- The scope of a record, which is that of all fields unless it says otherwise. -/
def scopeOfTree? : Option Json.Tree → Option Int
  | none => some 0
  | some tree => tree.word?

def ofTree? (tree : Json.Tree) : Option Field := do
  match ← tree.parts? recordKeys requiredKeys with
  | [some id, some code, some type, column, scope, style] =>
    let id ← id.word?
    let code ← code.text?
    let type ← FieldType.ofTree? type
    let column ← Json.Tree.optional? Json.Tree.text? column
    let scope ← scopeOfTree? scope
    let style ← Json.Tree.optional? (Json.Tree.value? styleDepth) style
    return ofRecord id code type column scope style
  | _ => none

def ofTrees? : Json.Tree → Option (List Field)
  | .array items => items.mapM ofTree?
  | _ => none

/-- The fields of a catalog text, in order and unchecked. -/
def readAll (text : String) : Except DataError (List Field) :=
  match (Json.Tree.read? text).bind ofTrees? with
  | some fields => .ok fields
  | none => .error .invalidCatalog

end Field

end FieldFilter
