import FieldFilter.Calendar.Zone
import FieldFilter.Catalog.Error
import FieldFilter.Database.Connection
import FieldFilter.Host.Path

/-! The surroundings of the program: its home directory, files, variables, time zones, the present
instant and the database servers in reach. All effects of the program go through here.
-/

namespace FieldFilter

/-- The surroundings of a program. -/
structure Host (m : Type → Type) where
  home : Option String
  lookupVariable : String → Option String
  zones : Calendar.ZoneDatabase
  read : (path : String) → m (Except FileError String)
  now : m Int
  connect : (url : String) → PoolSettings → m (Except String (Connection m))

namespace Host

variable {m : Type → Type} [Monad m]

def path (host : Host m) (text : String) : String :=
  Path.expand host.home text

/-- The text of a file, or nothing when there is no file at the path. -/
def read? (host : Host m) (path : String) : m (Option (Except FileError String)) := do
  match ← host.read path with
  | .error e => return if e.isMissing then none else some (.error e)
  | .ok text => return some (.ok text)

/-- A connection, after a check of its settings. -/
def open? (host : Host m) (settings : DatabaseSettings) : m (Except DataError (Connection m)) :=
  match settings.check with
  | .error e => pure (.error e)
  | .ok pool => do
    match ← host.connect settings.url pool with
    | .error reason => return .error (.unavailable DatabaseSettings.backendName reason)
    | .ok connection => return .ok connection

def readListing (host : Host m) (path : String) : m (Logged (Except DataError Listing)) := do
  match ← host.read path with
  | .error e => return .quiet (.error (.io e))
  | .ok text => return Listing.read text

end Host

end FieldFilter
