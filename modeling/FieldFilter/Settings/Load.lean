import FieldFilter.Host
import FieldFilter.Settings.File
import FieldFilter.Settings.Resolve
import FieldFilter.Warning

/-! Where settings come from. The profile file in the home directory is the lowest layer. Over it
lies the file that the command line names, or else the local file; only a file that is named has
to exist.
-/

namespace FieldFilter

namespace Settings

def fileName : String := "eventadmin.json"

def profileDirectory : String := ".eventadmin"

def profilePath (home : String) : String :=
  Path.join (Path.join home profileDirectory) fileName

/-- The warning about unknown keys, if there are any. -/
def unknownWarnings (unknown : List String) : List Warning :=
  if unknown.isEmpty then [] else [.unknownSettings unknown]

/-- The layer of a file at a path, by the text that was found there. -/
def layerOfFile (path : String) (text : Except FileError String)
    : Logged (Except SettingsError Layer) :=
  match text with
  | .error e => .quiet (.error (.unreadable path e))
  | .ok text =>
    match SettingsFile.read? text with
    | none => .quiet (.error (.unparsable path))
    | some file =>
      { value := .ok file.layer, warnings := unknownWarnings file.unknown }

/-- A file that may be missing, with its path. -/
structure Source where
  path : String
  text : Except FileError String

/-- The layer of a source, which is empty without one. -/
def layerOf : Option Source → Logged (Except SettingsError Layer)
  | none => .quiet (.ok {})
  | some source => layerOfFile source.path source.text

/-- The settings of a profile and of an overlay, each of which may be missing. -/
def ofSources (zones : Calendar.ZoneDatabase) (home : Option String) (overrides : Overrides)
    (profile : Option Source) (overlay : Except SettingsError (Option Source))
    : Logged (Except SettingsError Settings) :=
  let lower := layerOf profile
  match lower.value with
  | .error e => { value := .error e, warnings := lower.warnings }
  | .ok lowerLayer =>
    match overlay with
    | .error e => { value := .error e, warnings := lower.warnings }
    | .ok overlay =>
      let upper := layerOf overlay
      { value := upper.value.bind fun upperLayer =>
          resolve zones home overrides (upperLayer.over lowerLayer)
        warnings := lower.warnings ++ upper.warnings }

variable {m : Type → Type} [Monad m]

/-- The source at a path, if there is a file. -/
def source? (host : Host m) (path : String) : m (Option Source) := do
  return (← host.read? path).map fun text => { path, text }

def profile? (host : Host m) : m (Option Source) :=
  match host.home with
  | none => pure none
  | some home => source? host (profilePath home)

/-- The file that is named, or the local one. -/
def overlay? (host : Host m) (named : Option String)
    : m (Except SettingsError (Option Source)) :=
  match named with
  | none => .ok <$> source? host fileName
  | some name => do
    let path := host.path name
    match ← source? host path with
    | none => return .error (.fileNotFound path)
    | some source => return .ok (some source)

def load (host : Host m) (overrides : Overrides) : m (Logged (Except SettingsError Settings)) := do
  let profile ← profile? host
  let overlay ← overlay? host overrides.config
  return ofSources host.zones host.home overrides profile overlay

end Settings

end FieldFilter
