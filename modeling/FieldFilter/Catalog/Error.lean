/-! What can go wrong with data from outside: files, catalogs and databases.
-/

namespace FieldFilter

/-- Why a file could not be read. -/
inductive FileError
  | notFound
  | notADirectory
  | isADirectory
  | nameTooLong
  /-- The path has a character that ends texts in the operating system. -/
  | nulInPath
  | other (message : String)
  deriving DecidableEq, Repr

namespace FileError

/-- The wording of the error, which is mostly that of the operating system. -/
def message : FileError → String
  | notFound => "No such file or directory (os error 2)"
  | notADirectory => "Not a directory (os error 20)"
  | isADirectory => "Is a directory (os error 21)"
  | nameTooLong => "File name too long (os error 36)"
  | nulInPath => "file name contained an unexpected NUL byte"
  | other message => message

/-- There can be nothing at the path. -/
def isMissing : FileError → Bool
  | notFound | notADirectory | nameTooLong | nulInPath => true
  | isADirectory | other _ => false

end FileError

/-- Why catalog data or a database answer is missing. -/
inductive DataError
  /-- The server refused a statement, or the connection to it broke. -/
  | statement (reason : String) (connectionLost : Bool)
  /-- A setting makes no sense. -/
  | config (reason : String)
  /-- A file could not be read. -/
  | io (error : FileError)
  /-- A catalog file is no list of field records. -/
  | invalidCatalog
  /-- There is no connection to the backend. -/
  | unavailable (backend reason : String)
  deriving DecidableEq, Repr

namespace DataError

def message : DataError → String
  | statement reason _ => "MySQL error: " ++ reason
  | config reason => "Configuration error: " ++ reason
  | io error => "IO error: " ++ error.message
  | invalidCatalog => "Invalid catalog data: not a list of field records"
  | unavailable backend reason => "Backend " ++ backend ++ " is not available: " ++ reason

/-- The texts of the error and of what caused it, outermost first. -/
def causes (e : DataError) : List String :=
  match e with
  | io error => [e.message, error.message]
  | statement reason _ => [e.message, reason]
  | config _ | invalidCatalog | unavailable _ _ => [e.message]

/-- The same call may succeed later. -/
def isTransient : DataError → Bool
  | unavailable _ _ => true
  | statement _ connectionLost => connectionLost
  | config _ | io _ | invalidCatalog => false

end DataError

end FieldFilter
