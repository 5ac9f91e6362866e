import FieldFilter.Filter.Error
import FieldFilter.Settings.Error

/-! Why a command fails. A failure is told by its causes, outermost first.
-/

namespace FieldFilter.CommandLine

/-- Why a command fails. -/
inductive Failure
  | settings (error : SettingsError)
  | databaseRequired
  | connection (error : DataError)
  | catalogFile (path : String) (error : DataError)
  | noCatalog
  | scopeRequired
  | tableName (name : String)
  | filterFile (path : String) (error : FileError)
  | filterText (error : FilterError)
  | compilation (error : FilterError)
  | count (error : DataError)
  | ids (error : DataError)

namespace Failure

/-- The texts of the failure and of what caused it, outermost first. -/
def causes : Failure → List String
  | settings error => error.causes
  | databaseRequired => ["This command needs a MySQL URL (--mysql-url or database.url)"]
  | connection error => "Failed to initialize MySQL" :: error.causes
  | catalogFile path error => ("Failed to load field catalog: " ++ path) :: error.causes
  | noCatalog => ["No field catalog available: pass --catalog <file> or configure a MySQL URL"]
  | scopeRequired => ["This command needs --scope (or EVENTADMIN_SCOPE)"]
  | tableName name => ["--from must be a plain table name, got '" ++ name ++ "'"]
  | filterFile path error => ["Failed to read filter file: " ++ path, error.message]
  | filterText error => "Invalid filter JSON" :: error.causes
  | compilation error => "Failed to compile filter" :: error.causes
  | count error => "Count query failed" :: error.causes
  | ids error => "Id query failed" :: error.causes

def message (failure : Failure) : String :=
  "Error: " ++ String.intercalate ": " failure.causes

end Failure

end FieldFilter.CommandLine
