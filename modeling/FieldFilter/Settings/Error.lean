import FieldFilter.Calendar.Zone
import FieldFilter.Catalog.Error

/-! What can be wrong with settings.
-/

namespace FieldFilter

/-- Why there are no settings. -/
inductive SettingsError
  | fileNotFound (path : String)
  | unreadable (path : String) (error : FileError)
  | unparsable (path : String)
  | unknownZone (name : String)
  | notPlain (name value : String)
  | tooManyIdle (minConnections maxConnections : Nat)
  deriving DecidableEq, Repr

namespace SettingsError

/-- The texts of the error and of what caused it, outermost first. What is wrong inside a file is
not said. -/
def causes : SettingsError → List String
  | fileNotFound path => ["Config file not found: " ++ path]
  | unreadable path error => ["Failed to read config file: " ++ path, error.message]
  | unparsable path => ["Failed to parse config file: " ++ path, "the text is not a settings object"]
  | unknownZone name => ["compiler.time_zone: " ++ Calendar.Zone.unknownMessage name]
  | notPlain name value => [name ++ " must be a plain SQL identifier, got '" ++ value ++ "'"]
  | tooManyIdle minConnections maxConnections =>
    [ "database.min_connections (" ++ toString minConnections
        ++ ") exceeds database.max_connections (" ++ toString maxConnections ++ ")" ]

def message (e : SettingsError) : String :=
  String.intercalate ": " e.causes

end SettingsError

end FieldFilter
