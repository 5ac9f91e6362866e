/-! Warnings, and values that were computed with warnings on the way. A warning never changes
what is computed; it tells of something left out or replaced.
-/

namespace FieldFilter

/-- Something worth telling. -/
inductive Warning
  /-- A field was left out: its column has no plain name. -/
  | columnNotPlain (code : String)
  /-- A field was left out: no type has its type number. -/
  | unknownFieldType (code : String) (number : Int)
  /-- The style of a field was left out: it is no JSON. -/
  | invalidStyle (code : String)
  /-- Keys of a settings file were ignored. -/
  | unknownSettings (names : List String)
  /-- A catalog did not answer. -/
  | lookupFailed (backend : String) (scope : Int) (isTransient : Bool)
  /-- The present instant stands for the start of the present day. -/
  | startOfDayUnresolved (zone : String)
  deriving DecidableEq, Repr

namespace Warning

def message : Warning → String
  | columnNotPlain _ => "Column is not a plain identifier, skipping field"
  | unknownFieldType _ _ => "Unknown field type code, skipping field"
  | invalidStyle _ => "Invalid style metadata, ignoring"
  | unknownSettings _ => "Unknown fields in config file (possible typos)"
  | lookupFailed _ _ _ => "Field catalog lookup failed"
  | startOfDayUnresolved _ => "Could not resolve start of day, using current instant"

/-- What a warning is about, by name. -/
def details : Warning → List (String × String)
  | columnNotPlain code => [("field_code", code)]
  | unknownFieldType code number => [("field_code", code), ("type_code", toString number)]
  | invalidStyle code => [("field_code", code)]
  | unknownSettings names => [("fields", String.intercalate ", " names)]
  | lookupFailed backend scope isTransient =>
    [ ("backend", backend), ("scope_id", toString scope),
      ("transient", if isTransient then "true" else "false") ]
  | startOfDayUnresolved zone => [("tz", zone)]

end Warning

/-- A value with the warnings that came up on the way to it. -/
structure Logged (α : Type) where
  value : α
  warnings : List Warning

namespace Logged

def quiet {α : Type} (value : α) : Logged α :=
  { value, warnings := [] }

/-- The values of some items and the warnings about them, in order; an item may have a warning
alone. -/
def collect {α β : Type} (f : α → Logged (Option β)) (items : List α) : Logged (List β) :=
  { value := items.filterMap fun item => (f item).value
    warnings := items.flatMap fun item => (f item).warnings }

end Logged

end FieldFilter
