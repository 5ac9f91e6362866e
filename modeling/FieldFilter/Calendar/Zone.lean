import FieldFilter.Text.Blank
import FieldFilter.Calendar.Zone.Africa
import FieldFilter.Calendar.Zone.America
import FieldFilter.Calendar.Zone.Asia
import FieldFilter.Calendar.Zone.Europe
import FieldFilter.Calendar.Zone.Oceania

/-! Time zones. A zone is a name of a time zone database with the history of its clock there. The
databases differ from edition to edition, so one is given to whatever reads names; the one that is
carried here has some zones only, and a name that it lacks is no zone to it.
-/

namespace FieldFilter.Calendar

/-- A named clock. -/
structure Zone where
  name : String
  history : History
  deriving DecidableEq, Repr

namespace Zone

def utc : Zone :=
  { name := "UTC", history := .constant 0 }

/-- What is said of a text that names no zone. -/
def unknownMessage (text : String) : String :=
  "Invalid time zone '" ++ text ++ "'. Use an IANA name such as Asia/Tokyo"

end Zone

/-- A time zone database: the clock of each name that it has. Universal time is among them. -/
structure ZoneDatabase where
  history? : String → Option History
  universal : history? Zone.utc.name = some Zone.utc.history

namespace ZoneDatabase

/-- The zone with a name, if the database has it. -/
def find? (zones : ZoneDatabase) (name : String) : Option Zone :=
  (zones.history? name).map fun history => { name, history }

/-- The zone that a text names, with blanks around the name allowed. -/
def read? (zones : ZoneDatabase) (text : String) : Option Zone :=
  zones.find? (Text.trimmed text)

/-- Universal time is known under its name in every database. -/
theorem read?_utc (zones : ZoneDatabase) : zones.read? Zone.utc.name = some .utc := by
  have bare : Text.trimmed Zone.utc.name = Zone.utc.name := by decide +kernel
  rw [read?, bare, find?, zones.universal]
  rfl

/-- The clocks that change, each with all of its names. -/
def changing : List (List String × History) :=
  [ (["Africa/Monrovia"], .monrovia),
    (["America/Havana", "Cuba"], .havana),
    (["America/New_York", "US/Eastern"], .newYork),
    (["America/Sao_Paulo", "Brazil/East"], .saoPaulo),
    (["America/St_Johns", "Canada/Newfoundland"], .stJohns),
    (["Asia/Beirut"], .beirut),
    (["Asia/Kathmandu", "Asia/Katmandu"], .kathmandu),
    (["Asia/Kolkata", "Asia/Calcutta"], .kolkata),
    (["Asia/Tokyo", "Japan"], .tokyo),
    (["Australia/Lord_Howe", "Australia/LHI"], .lordHowe),
    (["Europe/London", "Europe/Belfast", "GB", "GB-Eire"], .london),
    (["Pacific/Apia"], .apia),
    (["Pacific/Kiritimati"], .kiritimati) ]

/-- The names of universal time. -/
def universalNames : List String :=
  [ "UTC", "UCT", "Universal", "Zulu", "GMT", "GMT+0", "GMT-0", "GMT0", "Greenwich", "Etc/UTC",
    "Etc/UCT", "Etc/Universal", "Etc/Zulu", "Etc/GMT", "Etc/GMT+0", "Etc/GMT-0", "Etc/GMT0",
    "Etc/Greenwich" ]

/-- The clocks at a whole number of hours. The sign in such a name is that of the way from the
place to universal time, the opposite of an offset's. -/
def wholeHours : List (List String × History) :=
  ((List.range' 1 12).map fun n => (["Etc/GMT+" ++ toString n], .constant (-3600 * n)))
    ++ (List.range' 1 14).map fun n => (["Etc/GMT-" ++ toString n], .constant (3600 * n))

/-- The clocks that are carried here, each with all of its names. -/
def clocks : List (List String × History) :=
  (universalNames, .constant 0) :: (changing ++ wholeHours)

/-- The database of the clocks that are carried here. -/
def carried : ZoneDatabase where
  history? name := (clocks.find? fun (names, _) => names.contains name).map (·.2)
  universal := by decide +kernel

end ZoneDatabase

end FieldFilter.Calendar
