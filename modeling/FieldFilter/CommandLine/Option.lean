import FieldFilter.Calendar.Zone
import FieldFilter.Settings.Resolve

/-! The options of the command line. Options that set something for every command may stand before
the command or after it, and each has an environment variable that stands in for it.
-/

namespace FieldFilter.CommandLine

/-- Options that every command has. -/
inductive CommonOption
  | config | url | catalog | scope | zone
  deriving DecidableEq, Repr

/-- Options of single commands. -/
inductive CommandOption
  | filter | source | limit
  deriving DecidableEq, Repr

/-- An option that takes a value. -/
inductive ValueOption
  | common (option : CommonOption)
  | command (option : CommandOption)
  deriving DecidableEq, Repr

/-- The commands. -/
inductive Verb
  | compile | count | ids
  deriving DecidableEq, Repr

namespace CommonOption

def all : List CommonOption :=
  [config, url, catalog, scope, zone]

def name : CommonOption → String
  | config => "config"
  | url => "mysql-url"
  | catalog => "catalog"
  | scope => "scope"
  | zone => "time-zone"

def letter? : CommonOption → Option Char
  | config => some 'c'
  | scope => some 's'
  | url | catalog | zone => none

/-- The environment variable that stands in for an option. -/
def variableName : CommonOption → String
  | config => "EVENTADMIN_CONFIG"
  | url => "EVENTADMIN_MYSQL_URL"
  | catalog => "EVENTADMIN_CATALOG_FILE"
  | scope => "EVENTADMIN_SCOPE"
  | zone => "EVENTADMIN_TIME_ZONE"

/-- A value that makes sense for an option. -/
def accepts (zones : Calendar.ZoneDatabase) (value : String) : CommonOption → Bool
  | config | catalog => value != ""
  | url => true
  | scope => (Text.readWord? value.toList).isSome
  | zone => (zones.read? value).isSome

end CommonOption

namespace CommandOption

def all : List CommandOption :=
  [filter, source, limit]

def name : CommandOption → String
  | filter => "filter"
  | source => "from"
  | limit => "limit"

def letter? : CommandOption → Option Char
  | filter => some 'f'
  | source | limit => none

def greatestLimit : Nat := 4294967295

def limit? (value : String) : Option Nat :=
  (Text.readWord? value.toList).bind fun n =>
    if 0 ≤ n ∧ n ≤ greatestLimit then some n.toNat else none

/-- A value that makes sense for an option. -/
def accepts (value : String) : CommandOption → Bool
  | filter | source => true
  | limit => (limit? value).isSome

end CommandOption

namespace Verb

def all : List Verb :=
  [compile, count, ids]

def name : Verb → String
  | compile => "compile"
  | count => "count"
  | ids => "ids"

def ofName? (name : String) : Option Verb :=
  all.find? (·.name == name)

def options : Verb → List CommandOption
  | compile => [.filter]
  | count => [.filter, .source]
  | ids => [.filter, .source, .limit]

end Verb

namespace ValueOption

def name : ValueOption → String
  | common option => option.name
  | command option => option.name

def letter? : ValueOption → Option Char
  | common option => option.letter?
  | command option => option.letter?

/-- A value that makes sense for an option. -/
def accepts (zones : Calendar.ZoneDatabase) (value : String) : ValueOption → Bool
  | common option => option.accepts zones value
  | command option => option.accepts value

/-- The options before the command, or those after a command. -/
def available : Option Verb → List ValueOption
  | none => CommonOption.all.map common
  | some verb => CommonOption.all.map common ++ verb.options.map command

end ValueOption

end FieldFilter.CommandLine
