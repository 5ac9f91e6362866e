import FieldFilter.Catalog.Record
import FieldFilter.Warning

/-! Catalogs that are listed in full. Loading one leaves out the fields whose column could not be
spliced into SQL; asking it for codes gives the visible fields of each code, and among them those
of lower scopes first.
-/

namespace FieldFilter

/-- A field unless its column has no plain name. -/
def Field.plain? (f : Field) : Logged (Option Field) :=
  if f.hasPlainColumn then .quiet (some f)
  else { value := none, warnings := [.columnNotPlain f.code] }

/-- A catalog that is listed in full. -/
structure Listing where
  fields : List Field

namespace Listing

/-- The catalog of some fields, without those that cannot be used. -/
def ofFields (fields : List Field) : Logged Listing :=
  let usable := Logged.collect Field.plain? fields
  { value := { fields := usable.value }, warnings := usable.warnings }

def read (text : String) : Logged (Except DataError Listing) :=
  match Field.readAll text with
  | .error e => .quiet (.error e)
  | .ok fields =>
    let listing := ofFields fields
    { value := .ok listing.value, warnings := listing.warnings }

/-- The visible fields with a code, in order of their scopes. -/
def fieldsWith (catalog : Listing) (scope : Int) (code : String) : List Field :=
  (catalog.fields.filter fun f => f.code == code && f.isVisibleIn scope).mergeSort
    fun f g => f.scope ≤ g.scope

/-- The visible fields with some codes, in the order of the codes. -/
def lookup (catalog : Listing) (scope : Int) (codes : List String) : List Field :=
  codes.flatMap (catalog.fieldsWith scope)

end Listing

end FieldFilter
