import FieldFilter.Proofs.Settings.FileSettings
import FieldFilter.Proofs.Settings.Resolution

/-! Settings are layered one by one. Each setting has the value of the first layer that sets it, of the
command line, the overlay and the profile, or else the standard value, whatever else the layers set.
-/

namespace FieldFilter

open Json (Tree)

-----------------------------------------------------------------------------------------
-- What layers keep
-----------------------------------------------------------------------------------------

namespace Setting

variable (upper lower : Layer)

/-- A layer over another one has a name from the upper one, or else from the lower one. -/
theorem get_over_of_mem_names
    : ∀ n ∈ names, n.1.get (upper.over lower) = (n.1.get upper).or (n.1.get lower) := by
  simp [names, text, Layer.over, CatalogLayer.over, ValueTableLayer.over, EntityLayer.over]

theorem get_over_of_mem_pool
    : ∀ n ∈ pool, n.1.get (upper.over lower) = (n.1.get upper).or (n.1.get lower) := by
  simp [pool, number, Layer.over, DatabaseLayer.over]

end Setting

theorem Layer.Keeps.empty : ({} : Layer).Keeps (.ofFile none) :=
  { names := by simp [Setting.names, Setting.text, Sayings.ofFile]
    pool := by simp [Setting.pool, Setting.number, Sayings.ofFile]
    url := rfl
    catalogFile := rfl
    zoneName := rfl }

/-- A layer over another one keeps what is said above, or else what is said below. -/
theorem Layer.Keeps.over {upper lower : Layer} {above below : Sayings} (hu : upper.Keeps above)
    (hl : lower.Keeps below)
    : (upper.over lower).Keeps (above.over below) where
  names n member := by
    rw [Setting.get_over_of_mem_names upper lower n member]
    exact Sayings.about_over (hu.names n member) (hl.names n member)
  pool n member := by
    rw [Setting.get_over_of_mem_pool upper lower n member]
    exact Sayings.about_over (hu.pool n member) (hl.pool n member)
  url := Sayings.about_over hu.url hl.url
  catalogFile := Sayings.about_over hu.catalogFile hl.catalogFile
  zoneName := Sayings.about_over hu.zoneName hl.zoneName

-----------------------------------------------------------------------------------------
-- Settings that follow what is said
-----------------------------------------------------------------------------------------

namespace Settings

/-- The settings of the program when nothing is set. -/
def standard : Settings :=
  { database := none
    catalog := { table := standardCatalogTable, file := none }
    valueTable := .standard
    entity := .standard
    zone := .utc }

/-- Settings have, one by one, what the command line sets, or else what is said about them, or else
the standard value; the zone is the one that has its name in a database of zones. There is a database
exactly when its address is chosen so and is not blank, the names that are spliced into SQL are plain,
and a pool does not keep more connections than it allows.
-/
structure Follows (zones : Calendar.ZoneDatabase) (s : Settings) (home : Option String)
    (overrides : Overrides) (said : Sayings)
    : Prop where
  names : ∀ n ∈ Setting.names, (said.about n.1).getD (some (n.2 standard)) = some (n.2 s)
  catalogFile
    : ((overrides.catalog.map some).or (said.about Setting.catalogFile)).map
          (Option.map (Path.expand home))
      = s.catalog.file.map some
  zone
    : ((overrides.zone.map some).or
          ((said.about Setting.zoneName).map fun name => name.bind zones.read?)).getD
          (some standard.zone)
      = some s.zone
  database
    : ∀ url,
        (∃ database, s.database = some database ∧ database.url = url)
        ↔ (overrides.url.map some).or (said.about Setting.url) = some (some url)
          ∧ Text.trimmed url ≠ ""
  pool
    : ∀ database,
        s.database = some database
        → ∀ n ∈ Setting.pool,
            (said.about n.1).getD (some (n.2 PoolSettings.standard)) = some (n.2 database.pool)
  isPlain : ∀ n ∈ Setting.names, Identifier.isPlain (n.2 s) = true
  minConnections_le
    : ∀ database,
        s.database = some database → database.pool.minConnections ≤ database.pool.maxConnections

/-- A value in place of the standard one is the one that is said, if one is said. -/
theorem getD_said {α : Type} (kept : Option α) (standard : α)
    : (kept.map some).getD (some standard) = some (kept.getD standard) := by
  cases kept <;> rfl

/-- The place of a name in the settings has what the layer keeps, or else the standard name. -/
theorem names_of_resolve {zones : Calendar.ZoneDatabase} {home : Option String}
    {overrides : Overrides} {layer : Layer} {s : Settings}
    (h : resolve zones home overrides layer = .ok s)
    : ∀ n ∈ Setting.names, n.2 s = (n.1.get layer).getD (n.2 standard) := by
  obtain ⟨zone, _, _, rfl⟩ := resolve_eq_ok h
  simp [Setting.names, Setting.text, catalogOf, valueTableOf, entityOf, standard]

/-- The names of the settings are among the identifiers that are checked. -/
theorem isPlain_names {s : Settings} (h : s.fault? = none)
    : ∀ n ∈ Setting.names, Identifier.isPlain (n.2 s) = true := by
  intro n member
  have subset : n.2 s ∈ s.identifiers.map Prod.snd :=
    List.mem_map_of_mem (f := fun n : Setting String × (Settings → String) => n.2 s) member
  obtain ⟨entry, known, same⟩ := List.mem_map.mp subset
  exact same ▸ isPlain_of_fault? h entry known

theorem pool_of_layer (layer : Layer)
    : ∀ n ∈ Setting.pool,
        n.2 (poolOf layer.database) = (n.1.get layer).getD (n.2 PoolSettings.standard) := by
  simp [Setting.pool, Setting.number, poolOf]

/-- There is a database when its address is set and is not blank. -/
theorem databaseOf_eq_some_iff {overrides : Overrides} {layer : DatabaseLayer}
    {database : DatabaseSettings}
    : databaseOf overrides layer = some database
      ↔ ∃ url,
          overrides.url.or layer.url = some url
          ∧ Text.trimmed url ≠ ""
          ∧ { url, pool := poolOf layer } = database := by
  simp only [databaseOf, Option.map_eq_some_iff, Option.filter_eq_some_iff, decide_eq_true_eq,
    and_assoc]

/-- The zone is the one of the command line, or else the one that is named, or else universal time. By
cases on which of them there is.
-/
theorem zone_of_zoneOf {zones : Calendar.ZoneDatabase} {overrides : Overrides}
    {layer : CompilerLayer} {zone : Calendar.Zone} (h : zoneOf zones overrides layer = .ok zone)
    : ((overrides.zone.map some).or
          ((layer.zone.map some).map fun name => name.bind zones.read?)).getD
          (some standard.zone)
      = some zone := by
  unfold zoneOf at h
  cases given : overrides.zone with
  | some own =>
      rw [given] at h
      exact congrArg some (Except.ok.inj h)
  | none =>
      simp only [given] at h
      split at h
      · next own read =>
          obtain rfl := Except.ok.inj h
          cases named : layer.zone with
          | some name => simpa [named] using read
          | none =>
              rw [named, Option.getD_none, zones.read?_utc] at read
              exact read
      · cases h

/-- Settings that are resolved follow what their layer keeps. -/
theorem follows_of_resolve {zones : Calendar.ZoneDatabase} {home : Option String}
    {overrides : Overrides} {layer : Layer} {s : Settings} {said : Sayings}
    (keeps : layer.Keeps said) (h : resolve zones home overrides layer = .ok s)
    : s.Follows zones home overrides said := by
  obtain ⟨zone, read, sound, rfl⟩ := resolve_eq_ok h
  refine {
    names := fun n member => ?names
    catalogFile := ?catalogFile
    zone := ?zone
    database := fun url => ?database
    pool := fun database has n member => ?pool
    isPlain := isPlain_names sound
    minConnections_le := fun database has => minConnections_le_of_fault? sound has
  }
  case names =>
    rw [keeps.names n member, getD_said, names_of_resolve h n member]
  case catalogFile =>
    rw [keeps.catalogFile, ← Option.map_or]
    simp only [catalogOf, Option.map_map, Function.comp_def, Option.map_some]
  case zone =>
    rw [keeps.zoneName]
    exact zone_of_zoneOf read
  case database =>
    rw [keeps.url, ← Option.map_or, Option.map_eq_some_iff]
    constructor
    · rintro ⟨database, has, rfl⟩
      obtain ⟨address, chosen, filled, rfl⟩ := databaseOf_eq_some_iff.mp has
      exact ⟨⟨address, chosen, rfl⟩, filled⟩
    · rintro ⟨⟨address, chosen, same⟩, filled⟩
      obtain rfl := Option.some.inj same
      exact ⟨_, databaseOf_eq_some_iff.mpr ⟨address, chosen, filled, rfl⟩, rfl⟩
  case pool =>
    obtain ⟨url, _, _, rfl⟩ := databaseOf_eq_some_iff.mp has
    rw [keeps.pool n member, getD_said, pool_of_layer layer n member]

-----------------------------------------------------------------------------------------
-- Settings that are loaded
-----------------------------------------------------------------------------------------

/-- The tree of a file at a path, if there is one. -/
def treeAt? (host : Host Id) (path : String) : Option Tree :=
  match host.read path with
  | .error _ => none
  | .ok text => Tree.read? text

/-- What the files of a host say: the overlay, which is the file that is named or else the local one,
over the profile.
-/
def sayings (host : Host Id) (named : Option String) : Sayings :=
  (Sayings.ofFile (treeAt? host (named.elim fileName host.path))).over
    (.ofFile (host.home.bind fun home => treeAt? host (profilePath home)))

/-- The tree of a source. -/
def Source.tree? (source : Source) : Option Tree :=
  match source.text with
  | .error _ => none
  | .ok text => Tree.read? text

/-- The layer of a source that can be read keeps what is said there. -/
theorem keeps_layerOf {source : Option Source} {layer : Layer}
    (h : (layerOf source).value = .ok layer)
    : layer.Keeps (.ofFile (source.bind Source.tree?)) := by
  cases source with
  | none =>
      obtain rfl := Except.ok.inj h
      exact Layer.Keeps.empty
  | some source =>
      simp only [layerOf, layerOfFile] at h
      split at h
      · cases h
      · next text found =>
          split at h
          · cases h
          · next file read =>
              obtain rfl := Except.ok.inj h
              obtain ⟨tree, parsed, built⟩ := Option.bind_eq_some_iff.mp read
              have own : Source.tree? source = some tree := by simp [Source.tree?, found, parsed]
              simpa only [Option.bind_some, own] using SettingsFile.keeps_layer built

/-- The source at a path has the tree of the file there, if there is a file. -/
theorem tree?_source? (host : Host Id) (path : String)
    : (Id.run (source? host path)).bind Source.tree? = treeAt? host path := by
  simp only [source?, Host.read?, treeAt?]
  cases host.read path with
  | error e =>
      cases missing : e.isMissing <;>
        simp [bind, pure, Id.run, missing, Source.tree?]
  | ok text => rfl

theorem tree?_profile? (host : Host Id)
    : (Id.run (profile? host)).bind Source.tree?
      = host.home.bind fun home => treeAt? host (profilePath home) := by
  cases home : host.home with
  | none => simp [profile?, home, pure, Id.run]
  | some directory => simpa [profile?, home] using tree?_source? host (profilePath directory)

/-- An overlay that is found, or is not asked for, has the tree of its file. -/
theorem tree?_overlay? {host : Host Id} {named : Option String} {overlay : Option Source}
    (h : Id.run (overlay? host named) = .ok overlay)
    : overlay.bind Source.tree? = treeAt? host (named.elim fileName host.path) := by
  cases named with
  | none =>
      obtain rfl := Except.ok.inj h
      exact tree?_source? host fileName
  | some name =>
      have own := tree?_source? host (host.path name)
      simp only [overlay?, bind, pure, Id.run] at h own
      split at h
      · cases h
      · next source there =>
          obtain rfl := Except.ok.inj h
          rwa [there] at own

/-- Settings that are loaded are resolved from a layer that keeps what the files say. -/
theorem resolve_of_load {host : Host Id} {overrides : Overrides} {s : Settings}
    (h : (Id.run (load host overrides)).value = .ok s)
    : ∃ layer : Layer,
        layer.Keeps (sayings host overrides.config)
        ∧ resolve host.zones host.home overrides layer = .ok s := by
  simp only [load, ofSources, bind, pure, Id.run] at h
  split at h
  · cases h
  · next lower hl =>
      split at h
      · cases h
      · next overlay found =>
          cases hu : (layerOf overlay).value with
          | error e =>
              rw [hu] at h
              cases h
          | ok upper =>
              rw [hu] at h
              have above := keeps_layerOf hu
              have below := keeps_layerOf hl
              rw [tree?_overlay? found] at above
              refine ⟨upper.over lower, above.over ?_, h⟩
              exact tree?_profile? host ▸ below

/-- Settings are layered one by one. Settings that are loaded, on any host and with any command
line, have each setting from the first of the command line, the overlay and the profile that sets it,
or else the standard one. Laying layers over each other is associative, and the empty layer is neutral
on both sides.
-/
theorem load_follows_layers
    : (∀ (host : Host Id) (overrides : Overrides) (s : Settings),
          (Id.run (load host overrides)).value = .ok s
          → s.Follows host.zones host.home overrides (sayings host overrides.config))
      ∧ (∀ a b c : Layer, (a.over b).over c = a.over (b.over c))
      ∧ ∀ layer : Layer, ({} : Layer).over layer = layer ∧ layer.over {} = layer := by
  refine ⟨fun host overrides s loaded => ?_, Layer.over_assoc, fun layer => ?_⟩
  · obtain ⟨layer, keeps, resolved⟩ := resolve_of_load loaded
    exact follows_of_resolve keeps resolved
  · exact ⟨layer.empty_over, layer.over_empty⟩

/-- A host with a profile that sets a database and a name, and with a local file that sets another
number of connections and a zone.
-/
def layeredHost : Host Id :=
  { home := some "/home/ea"
    lookupVariable := fun _ => none
    zones := .carried
    read := fun path =>
      if path = "/home/ea/.eventadmin/eventadmin.json" then
        .ok ("\x7b\"database\":\x7b\"url\":\"mysql://db/ea\",\"max_connections\":5\x7d,"
          ++ "\"entity\":\x7b\"table\":\"stays\"\x7d\x7d")
      else if path = "eventadmin.json" then
        .ok ("\x7b\"database\":\x7b\"url\":null,\"max_connections\":8\x7d,"
          ++ "\"compiler\":\x7b\"time_zone\":\"Asia/Tokyo\"\x7d\x7d")
      else .error .notFound
    now := (0 : Int)
    connect := fun _ _ => .error "" }

def layeredOverrides : Overrides :=
  { catalog := some "~/fields.json" }

def layeredSettings : Settings :=
  { database :=
      some { url := "mysql://db/ea", pool := { PoolSettings.standard with maxConnections := 8 } }
    catalog := { table := "fields", file := some "/home/ea/fields.json" }
    valueTable := .standard
    entity := { Entity.standard with table := "stays" }
    zone := { name := "Asia/Tokyo", history := .tokyo } }

/-- The overlay sets the number of connections alone of the pool, and its null address lets the one
of the profile through.
-/
theorem load_follows_layers_layeredHost
    : (Id.run (load layeredHost layeredOverrides)).value = .ok layeredSettings
      ∧ layeredSettings.Follows .carried (some "/home/ea") layeredOverrides
          (sayings layeredHost none) := by
  have loaded : (Id.run (load layeredHost layeredOverrides)).value = .ok layeredSettings := by
    decide +kernel
  exact ⟨loaded, load_follows_layers.1 layeredHost layeredOverrides layeredSettings loaded⟩

end Settings

end FieldFilter
