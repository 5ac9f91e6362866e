import FieldFilter.Proofs.Compile.ConditionRun
import FieldFilter.Settings.Resolve

/-! Layers of settings and what is resolved from them. A layer over another one is again a layer, and
settings are resolved only when nothing is wrong with them.
-/

namespace FieldFilter

-----------------------------------------------------------------------------------------
-- Layers over each other
-----------------------------------------------------------------------------------------

namespace Layer

/-- How three layers are laid over each other does not matter as long as their order is kept. -/
theorem over_assoc (a b c : Layer) : (a.over b).over c = a.over (b.over c) := by
  simp only [Layer.over, DatabaseLayer.over, CatalogLayer.over, ValueTableLayer.over,
    EntityLayer.over, CompilerLayer.over, Option.or_assoc]

/-- The empty layer lets everything through. -/
theorem empty_over (layer : Layer) : ({} : Layer).over layer = layer := by
  simp only [Layer.over, DatabaseLayer.over, CatalogLayer.over, ValueTableLayer.over,
    EntityLayer.over, CompilerLayer.over, Option.none_or]

/-- Nothing shows through to the empty layer. -/
theorem over_empty (layer : Layer) : layer.over {} = layer := by
  simp only [Layer.over, DatabaseLayer.over, CatalogLayer.over, ValueTableLayer.over,
    EntityLayer.over, CompilerLayer.over, Option.or_none]

end Layer

-----------------------------------------------------------------------------------------
-- Resolved settings
-----------------------------------------------------------------------------------------

namespace Settings

/-- Settings without a fault have plain names wherever a name is spliced into SQL. -/
theorem isPlain_of_fault? {s : Settings} (h : s.fault? = none)
    : ∀ entry ∈ s.identifiers, Identifier.isPlain entry.2 = true := by
  unfold fault? at h
  split at h
  · cases h
  · next sound =>
      intro entry member
      simpa using List.find?_eq_none.mp sound entry member

/-- Settings without a fault keep no more connections than they allow. -/
theorem minConnections_le_of_fault? {s : Settings} (h : s.fault? = none)
    {database : DatabaseSettings} (has : s.database = some database)
    : database.pool.minConnections ≤ database.pool.maxConnections := by
  unfold fault? at h
  split at h
  · cases h
  · simp only [has] at h
    split at h
    · cases h
    · next fits => exact Nat.le_of_not_lt fits

/-- Settings are resolved when the zone is read and nothing is wrong with what the layer and the
command line come to.
-/
theorem resolve_eq_ok {zones : Calendar.ZoneDatabase} {home : Option String}
    {overrides : Overrides} {layer : Layer} {settings : Settings}
    (h : resolve zones home overrides layer = .ok settings)
    : ∃ zone,
        zoneOf zones overrides layer.compiler = .ok zone
        ∧ settings.fault? = none
        ∧ settings
          = { database := databaseOf overrides layer.database
              catalog := catalogOf home overrides layer.catalog
              valueTable := valueTableOf layer.valueTable ValueTable.standard
              entity := entityOf layer.entity Entity.standard
              zone } := by
  obtain ⟨zone, read, built⟩ := bind_eq_ok_iff.mp h
  simp only at built
  split at built
  · cases built
  · next sound =>
      obtain rfl := Except.ok.inj built
      exact ⟨zone, read, sound, rfl⟩

/-- Settings that are resolved have no fault. -/
theorem fault?_of_resolve {zones : Calendar.ZoneDatabase} {home : Option String}
    {overrides : Overrides} {layer : Layer} {settings : Settings}
    (h : resolve zones home overrides layer = .ok settings)
    : settings.fault? = none := by
  obtain ⟨_, _, sound, _⟩ := resolve_eq_ok h
  exact sound

end Settings

end FieldFilter
