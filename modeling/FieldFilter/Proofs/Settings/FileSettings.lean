import FieldFilter.Proofs.Catalog.Records
import FieldFilter.Proofs.Json.RecordParts
import FieldFilter.Settings.Load

/-! Which settings a file has. Each setting stands under a key of a section and is kept at one place
of a layer; the layer of a file keeps there what stands under the key, whatever else the file says.
-/

namespace FieldFilter

open Json (Tree)

-----------------------------------------------------------------------------------------
-- The settings
-----------------------------------------------------------------------------------------

/-- A setting of files: the key and the section that it stands under, how it is read, and where a
layer keeps it.
-/
structure Setting (α : Type) where
  sectionName : String
  key : String
  read : Tree → Option α
  get : Layer → Option α

namespace Setting

def text (sectionName key : String) (get : Layer → Option String) : Setting String :=
  { sectionName, key, read := Tree.text?, get }

/-- A number of the pool, which is at most as large as its type has room for. -/
def number (key : String) (greatest : Nat) (get : DatabaseLayer → Option Nat) : Setting Nat :=
  { sectionName := "database", key, get := fun layer => get layer.database
    read := fun tree => (tree.integer? 0 greatest).map Int.toNat }

def url : Setting String :=
  text "database" "url" (·.database.url)

def catalogFile : Setting String :=
  text "catalog" "file" (·.catalog.file)

def zoneName : Setting String :=
  text "compiler" "time_zone" (·.compiler.zone)

/-- The names that are spliced into SQL, each with its place in the settings of the program. -/
def names : List (Setting String × (Settings → String)) :=
  [ (text "catalog" "table" (·.catalog.table), (·.catalog.table)),
    (text "custom_fields" "table" (·.valueTable.table), (·.valueTable.table)),
    (text "custom_fields" "parent_key" (·.valueTable.parentKey), (·.valueTable.parentKey)),
    (text "custom_fields" "key_column" (·.valueTable.keyColumn), (·.valueTable.keyColumn)),
    (text "custom_fields" "field_column" (·.valueTable.fieldColumn), (·.valueTable.fieldColumn)),
    (text "custom_fields" "text_column" (·.valueTable.textColumn), (·.valueTable.textColumn)),
    (text "custom_fields" "list_column" (·.valueTable.listColumn), (·.valueTable.listColumn)),
    (text "custom_fields" "boolean_column" (·.valueTable.booleanColumn),
      (·.valueTable.booleanColumn)),
    (text "custom_fields" "numeric_column" (·.valueTable.numericColumn),
      (·.valueTable.numericColumn)),
    (text "entity" "table" (·.entity.table), (·.entity.table)),
    (text "entity" "scope_column" (·.entity.scopeColumn), (·.entity.scopeColumn)),
    (text "entity" "id_column" (·.entity.idColumn), (·.entity.idColumn)) ]

/-- The numbers of the pool, each with its place in the pool. -/
def pool : List (Setting Nat × (PoolSettings → Nat)) :=
  [ (number "max_connections" DatabaseLayer.greatestCount (·.maxConnections), (·.maxConnections)),
    (number "min_connections" DatabaseLayer.greatestCount (·.minConnections), (·.minConnections)),
    (number "acquire_timeout_secs" DatabaseLayer.greatestTime (·.acquireTimeout),
      (·.acquireTimeout)),
    (number "idle_timeout_secs" DatabaseLayer.greatestTime (·.idleTimeout), (·.idleTimeout)) ]

end Setting

-----------------------------------------------------------------------------------------
-- What a file says
-----------------------------------------------------------------------------------------

/-- The keys of a section, in the order in which an array lists what stands under them. -/
def SettingsFile.keysOf : String → List String
  | "database" => DatabaseLayer.keys
  | "catalog" => CatalogLayer.keys
  | "custom_fields" => ValueTableLayer.keys
  | "entity" => EntityLayer.keys
  | "compiler" => CompilerLayer.keys
  | _ => []

/-- What is there; null is nothing. -/
def notNull? : Tree → Option Tree
  | .null => none
  | tree => some tree

/-- What stands in a file for a setting. A missing section, a missing key and null set nothing. -/
def Setting.part? {α : Type} (setting : Setting α) : Tree → Option Tree
  | .object sections =>
    ((Tree.member? setting.sectionName sections).bind
        (Tree.part? (SettingsFile.keysOf setting.sectionName) setting.key)).bind notNull?
  | _ => none

/-- What is said about each setting: nothing, or what sets it, as a value if it can be read as one. -/
structure Sayings where
  about : {α : Type} → Setting α → Option (Option α)

/-- What a file says, if there is one. -/
def Sayings.ofFile (file : Option Tree) : Sayings :=
  { about := fun setting => (file.bind setting.part?).map setting.read }

/-- What is said above counts, and below it what is said about the other settings. -/
def Sayings.over (upper lower : Sayings) : Sayings :=
  { about := fun setting => (upper.about setting).or (lower.about setting) }

/-- Values that are said above or below are said when one is laid over the other. -/
theorem Sayings.about_over {upper lower : Sayings} {α : Type} {setting : Setting α}
    {above below : Option α} (hu : upper.about setting = above.map some)
    (hl : lower.about setting = below.map some)
    : (upper.over lower).about setting = (above.or below).map some := by
  rw [Option.map_or, ← hu, ← hl, Sayings.over]

/-- An optional part is read when it is not there, or when what is there is read. -/
theorem optional?_eq_some_iff {α : Type} {read : Tree → Option α} {part : Option Tree}
    {said : Option α}
    : Tree.optional? read part = some said ↔ (part.bind notNull?).map read = said.map some := by
  rcases part with _ | tree
  · cases said <;> simp [Tree.optional?]
  · cases tree <;> cases said <;> simp [Tree.optional?, notNull?]

namespace SettingsFile

/-- What a section holds under one of its keys. -/
def under (keys : List String) (tree : Option Tree) (key : String) : Option Tree :=
  tree.bind (Tree.part? keys key)

/-- A section is built from what it holds under its keys, by cases on whether it is there. -/
theorem sectionOf?_eq_some {α : Type} {keys : List String} (distinct : keys.Nodup)
    {ofParts? : List (Option Tree) → Option α} {tree : Option Tree} {a : α}
    (h : sectionOf? keys ofParts? tree = some a)
    : ofParts? (keys.map (under keys tree)) = some a := by
  unfold sectionOf? at h
  split at h
  · exact h
  · exact h
  · obtain ⟨parts, taken, h⟩ := Option.bind_eq_some_iff.mp h
    rwa [Tree.parts?_eq_some distinct taken] at h

/-- A section of texts keeps what stands under its keys. -/
theorem textSection?_eq_some {α : Type} {keys : List String} (distinct : keys.Nodup)
    {ofTexts? : List (Option String) → Option α} {texts : α → List (Option String)}
    (kept : ∀ {said a}, ofTexts? said = some a → said = texts a) {tree : Option Tree} {a : α}
    (h : textSection? keys ofTexts? tree = some a)
    : List.Forall₂
        (fun key said => ((under keys tree key).bind notNull?).map Tree.text? = said.map some) keys
        (texts a) := by
  obtain ⟨said, read, built⟩ := Option.bind_eq_some_iff.mp (sectionOf?_eq_some distinct h)
  obtain rfl := kept built
  have each := mapM_eq_some_iff.mp read
  rw [List.forall₂_map_left_iff] at each
  exact each.imp fun _ _ => optional?_eq_some_iff.mp

end SettingsFile

-----------------------------------------------------------------------------------------
-- What the layer of a file keeps
-----------------------------------------------------------------------------------------

def CatalogLayer.texts (layer : CatalogLayer) : List (Option String) :=
  [layer.table, layer.file]

def ValueTableLayer.texts (layer : ValueTableLayer) : List (Option String) :=
  [ layer.table, layer.parentKey, layer.keyColumn, layer.fieldColumn, layer.textColumn,
    layer.listColumn, layer.booleanColumn, layer.numericColumn ]

def EntityLayer.texts (layer : EntityLayer) : List (Option String) :=
  [layer.table, layer.scopeColumn, layer.idColumn]

def CompilerLayer.texts (layer : CompilerLayer) : List (Option String) :=
  [layer.zone]

theorem CatalogLayer.texts_ofTexts? {said : List (Option String)} {layer : CatalogLayer}
    (h : ofTexts? said = some layer)
    : said = layer.texts := by
  unfold ofTexts? at h
  split at h <;> cases h
  rfl

theorem ValueTableLayer.texts_ofTexts? {said : List (Option String)} {layer : ValueTableLayer}
    (h : ofTexts? said = some layer)
    : said = layer.texts := by
  unfold ofTexts? at h
  split at h <;> cases h
  rfl

theorem EntityLayer.texts_ofTexts? {said : List (Option String)} {layer : EntityLayer}
    (h : ofTexts? said = some layer)
    : said = layer.texts := by
  unfold ofTexts? at h
  split at h <;> cases h
  rfl

theorem CompilerLayer.texts_ofTexts? {said : List (Option String)} {layer : CompilerLayer}
    (h : ofTexts? said = some layer)
    : said = layer.texts := by
  unfold ofTexts? at h
  split at h <;> cases h
  rfl

/-- A layer keeps at the place of each setting what is said about it. -/
structure Layer.Keeps (layer : Layer) (said : Sayings) : Prop where
  names : ∀ n ∈ Setting.names, said.about n.1 = (n.1.get layer).map some
  pool : ∀ n ∈ Setting.pool, said.about n.1 = (n.1.get layer).map some
  url : said.about Setting.url = layer.database.url.map some
  catalogFile : said.about Setting.catalogFile = layer.catalog.file.map some
  zoneName : said.about Setting.zoneName = layer.compiler.zone.map some

namespace SettingsFile

/-- A file is an object, and its layer is built from what stands under the names of the sections. -/
theorem ofTree?_eq_some {tree : Tree} {file : SettingsFile} (h : ofTree? tree = some file)
    : ∃ members,
        tree = .object members
        ∧ layer? (sections.map fun name => Tree.member? name members) = some file.layer := by
  cases tree with
  | object members =>
      obtain ⟨_, _, h⟩ := Option.bind_eq_some_iff.mp h
      obtain ⟨parts, taken, h⟩ := Option.bind_eq_some_iff.mp h
      obtain ⟨layer, built, h⟩ := Option.bind_eq_some_iff.mp h
      obtain rfl := Option.some.inj h
      obtain rfl := Tree.parts?_eq_some (by decide) taken
      exact ⟨members, rfl, built⟩
  | _ => cases h

/-- The section of the database keeps what stands under its keys, part by part. -/
theorem databaseSection?_eq_some {tree : Option Tree} {layer : DatabaseLayer}
    (h : sectionOf? DatabaseLayer.keys DatabaseLayer.ofParts? tree = some layer)
    : ((under DatabaseLayer.keys tree "url").bind notNull?).map Tree.text? = layer.url.map some
      ∧ ∀ n ∈ Setting.pool,
          ((under DatabaseLayer.keys tree n.1.key).bind notNull?).map n.1.read
          = (n.1.get { database := layer }).map some := by
  have built := sectionOf?_eq_some (by decide) h
  obtain ⟨url, readUrl, built⟩ := Option.bind_eq_some_iff.mp built
  obtain ⟨greatest, readGreatest, built⟩ := Option.bind_eq_some_iff.mp built
  obtain ⟨least, readLeast, built⟩ := Option.bind_eq_some_iff.mp built
  obtain ⟨acquire, readAcquire, built⟩ := Option.bind_eq_some_iff.mp built
  obtain ⟨idle, readIdle, built⟩ := Option.bind_eq_some_iff.mp built
  rw [← Option.some.inj built]
  refine ⟨optional?_eq_some_iff.mp readUrl, ?_⟩
  simp only [Setting.pool, List.forall_mem_cons]
  exact ⟨optional?_eq_some_iff.mp readGreatest, optional?_eq_some_iff.mp readLeast,
    optional?_eq_some_iff.mp readAcquire, optional?_eq_some_iff.mp readIdle, by simp⟩

/-- The layer of a file keeps what the file says, section by section. -/
theorem keeps_layer {tree : Tree} {file : SettingsFile} (h : ofTree? tree = some file)
    : file.layer.Keeps (.ofFile (some tree)) := by
  obtain ⟨members, rfl, built⟩ := ofTree?_eq_some h
  obtain ⟨database, readDatabase, built⟩ := Option.bind_eq_some_iff.mp built
  obtain ⟨catalog, readCatalog, built⟩ := Option.bind_eq_some_iff.mp built
  obtain ⟨valueTable, readValueTable, built⟩ := Option.bind_eq_some_iff.mp built
  obtain ⟨entity, readEntity, built⟩ := Option.bind_eq_some_iff.mp built
  obtain ⟨compiler, readCompiler, built⟩ := Option.bind_eq_some_iff.mp built
  rw [← Option.some.inj built]
  obtain ⟨url, pool⟩ := databaseSection?_eq_some readDatabase
  have inCatalog := textSection?_eq_some (by decide) CatalogLayer.texts_ofTexts? readCatalog
  have inValueTable :=
    textSection?_eq_some (by decide) ValueTableLayer.texts_ofTexts? readValueTable
  have inEntity := textSection?_eq_some (by decide) EntityLayer.texts_ofTexts? readEntity
  have inCompiler := textSection?_eq_some (by decide) CompilerLayer.texts_ofTexts? readCompiler
  -- each section has its places in the order of its keys
  rcases inCatalog with _ | ⟨fields, _ | ⟨catalogFile, _⟩⟩
  rcases inValueTable with
    _ | ⟨values, _ | ⟨parentKey, _ | ⟨keyColumn, _ | ⟨fieldColumn, _ | ⟨textColumn, _ | ⟨listColumn,
      _ | ⟨booleanColumn, _ | ⟨numericColumn, _⟩⟩⟩⟩⟩⟩⟩⟩
  rcases inEntity with _ | ⟨entities, _ | ⟨scopeColumn, _ | ⟨idColumn, _⟩⟩⟩
  rcases inCompiler with _ | ⟨zoneName, _⟩
  refine { names := ?names, pool := ?pool, url, catalogFile, zoneName }
  case names =>
    simp only [Setting.names, List.forall_mem_cons]
    exact ⟨fields, values, parentKey, keyColumn, fieldColumn, textColumn, listColumn, booleanColumn,
      numericColumn, entities, scopeColumn, idColumn, by simp⟩
  case pool =>
    simp only [Setting.pool, List.forall_mem_cons] at pool ⊢
    obtain ⟨greatest, least, acquire, idle, _⟩ := pool
    exact ⟨greatest, least, acquire, idle, by simp⟩

end SettingsFile

end FieldFilter
