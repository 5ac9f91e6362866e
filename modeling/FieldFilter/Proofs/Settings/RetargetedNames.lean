import FieldFilter.CommandLine.Program
import FieldFilter.Proofs.SafeQuery
import FieldFilter.Proofs.Sql.Requalification

/-! The names of entities that a command moves to a table of its own. Settings and the table are
checked, but the names that follow from both are not. All their parts are sound; what can go wrong
is that a name gets more parts than a plain one has, since a column keeps its rest behind all the
parts of the table.
-/

namespace FieldFilter

-----------------------------------------------------------------------------------------
-- The parts of a name
-----------------------------------------------------------------------------------------

namespace Identifier

theorem pieces_ne_nil (cs : List Char) : pieces cs ≠ [] := by
  cases cs with
  | nil => simp [pieces]
  | cons c cs =>
      rw [pieces]
      split
      · exact List.cons_ne_nil _ _
      · split <;> exact List.cons_ne_nil _ _

/-- A point between two texts cuts them apart, by induction on the first. -/
theorem pieces_append_point (left right : List Char)
    : pieces (left ++ '.' :: right) = pieces left ++ pieces right := by
  induction left with
  | nil => simp [pieces]
  | cons c left ih =>
      by_cases point : c = '.'
      · simp [pieces, point, ih]
      · obtain ⟨piece, rest, cut⟩ := List.exists_cons_of_ne_nil (pieces_ne_nil left)
        simp [pieces, point, ih, cut]

/-- The number of parts of a name, which is one more than that of its qualifiers. -/
def partCount (name : String) : Nat :=
  (pieces name.toList).length

/-- Each part of the name may stand in a plain one. -/
def HasSoundParts (name : String) : Prop :=
  ∀ piece ∈ pieces name.toList, isPart piece = true

theorem isPlain_iff {name : String}
    : isPlain name = true ↔ HasSoundParts name ∧ partCount name ≤ 3 := by
  simp [isPlain, HasSoundParts, partCount, and_comm]

theorem pieces_qualified (table rest : String)
    : pieces (table ++ "." ++ rest).toList = pieces table.toList ++ pieces rest.toList := by
  have point : (table ++ "." ++ rest).toList = table.toList ++ '.' :: rest.toList := by simp
  rw [point, pieces_append_point]

theorem partCount_qualified (table rest : String)
    : partCount (table ++ "." ++ rest) = partCount table + partCount rest := by
  rw [partCount, pieces_qualified, List.length_append, partCount, partCount]

theorem hasSoundParts_qualified_iff {table rest : String}
    : HasSoundParts (table ++ "." ++ rest) ↔ HasSoundParts table ∧ HasSoundParts rest := by
  simp only [HasSoundParts, pieces_qualified, List.forall_mem_append]

/-- A column that moves keeps sound parts, by cases on whether it moves. -/
theorem hasSoundParts_requalify {column target : String} (source : String)
    (own : HasSoundParts column) (table : HasSoundParts target)
    : HasSoundParts (requalify column source target) := by
  by_cases moves : IsQualifiedBy source column
  · obtain ⟨rest, rfl⟩ := moves
    rw [requalify_append]
    exact hasSoundParts_qualified_iff.mpr ⟨table, (hasSoundParts_qualified_iff.mp own).2⟩
  · rw [requalify_of_not_isQualifiedBy moves]
    exact own

/-- A plain column stays plain unless it moves to a table with too many parts, by cases on whether
it moves.
-/
theorem isPlain_requalify_iff {column target : String} (source : String)
    (plain : isPlain column = true) (table : isPlain target = true)
    : isPlain (requalify column source target) = true
      ↔ (IsQualifiedBy source column
          → partCount column + partCount target ≤ partCount source + 3) := by
  have own := (isPlain_iff.mp plain).1
  have sound := hasSoundParts_requalify source own (isPlain_iff.mp table).1
  rw [isPlain_iff, and_iff_right sound]
  by_cases moves : IsQualifiedBy source column
  · rw [imp_iff_right moves]
    obtain ⟨rest, rfl⟩ := moves
    rw [requalify_append, partCount_qualified, partCount_qualified]
    omega
  · rw [requalify_of_not_isQualifiedBy moves]
    exact iff_of_true (isPlain_iff.mp plain).2 fun there => absurd there moves

end Identifier

-----------------------------------------------------------------------------------------
-- Entities on another table
-----------------------------------------------------------------------------------------

open Identifier
open Service (standardSettings)

namespace Settings

/-- Nothing is wrong with settings when all names that are spliced into SQL are plain and no more
connections are kept than there may be.
-/
theorem fault?_eq_none_iff {s : Settings}
    : s.fault? = none
      ↔ (∀ entry ∈ s.identifiers, isPlain entry.2 = true)
        ∧ ∀ database,
            s.database = some database
            → database.pool.minConnections ≤ database.pool.maxConnections := by
  constructor
  · intro sound
    exact ⟨isPlain_of_fault? sound, fun _ => minConnections_le_of_fault? sound⟩
  · rintro ⟨plain, kept⟩
    unfold fault?
    split
    · next name value found =>
        have refused := List.find?_some found
        have accepted := plain _ (List.mem_of_find?_eq_some found)
        simp [accepted] at refused
    · cases has : s.database with
      | none => rfl
      | some database => exact if_neg (Nat.not_lt.mpr (kept database has))

/-- The settings for entities of another table. -/
def moved (s : Settings) (entity : Entity) (layout : ValueTable) : Settings :=
  { s with entity, valueTable := layout }

/-- No column gets too many parts when it moves from the entities' own table to another. -/
def HasRoomOn (s : Settings) (table : String) : Prop :=
  ∀ column ∈ movableColumns s.entity s.valueTable,
    IsQualifiedBy s.entity.table column
    → partCount column + partCount table ≤ partCount s.entity.table + 3

/-- The settings that a command works with are those on a plain table: the one that it names, or
the entities' own. By cases on whether it names another one.
-/
theorem exists_table_of_retargeted {s : Settings} (own : isPlain s.entity.table = true)
    {source : Option String} {entity : Entity} {layout : ValueTable}
    (accepted : CommandLine.retargeted s source = .ok (entity, layout))
    : ∃ table,
        isPlain table = true
        ∧ entity = s.entity.retarget table
        ∧ layout = s.valueTable.retarget s.entity.table table := by
  unfold CommandLine.retargeted at accepted
  split at accepted
  · obtain ⟨rfl, rfl⟩ := Prod.mk.inj (Except.ok.inj accepted)
    refine ⟨s.entity.table, own, ?_, ?_⟩
    · rw [Entity.retarget, requalify_self, requalify_self]
    · rw [ValueTable.retarget, requalify_self]
  · next table _ =>
      split at accepted
      · next plain =>
          obtain ⟨rfl, rfl⟩ := Prod.mk.inj (Except.ok.inj accepted)
          exact ⟨table, plain, rfl, rfl⟩
      · cases accepted

/-- The columns of the settings are plain, as nothing is wrong with them. -/
theorem isPlain_of_mem_movableColumns {s : Settings} (sound : s.fault? = none)
    : ∀ column ∈ movableColumns s.entity s.valueTable, isPlain column = true := by
  intro column member
  have subset : movableColumns s.entity s.valueTable ⊆ s.identifiers.map Prod.snd := by
    simp [movableColumns, identifiers]
  obtain ⟨entry, checked, rfl⟩ := List.mem_map.mp (subset member)
  exact isPlain_of_fault? sound entry checked

/-- The columns on another table are plain exactly when it leaves room for them, by what happens to
each of them.
-/
theorem isPlain_movableColumns_retarget_iff {s : Settings} (sound : s.fault? = none)
    {table : String} (plain : isPlain table = true)
    : (∀ name ∈
          movableColumns (s.entity.retarget table) (s.valueTable.retarget s.entity.table table),
          isPlain name = true)
      ↔ s.HasRoomOn table := by
  rw [movableColumns_retarget, List.forall_mem_map]
  refine forall₂_congr fun column member => ?_
  have own := isPlain_of_mem_movableColumns sound column member
  exact isPlain_requalify_iff s.entity.table own plain

/-- Nothing is wrong with settings on another table when its name and the columns that it may take
over are plain: the other names are checked already, and they do not change.
-/
theorem fault?_moved_eq_none_iff {s : Settings} (sound : s.fault? = none) {table : String}
    : (s.moved (s.entity.retarget table)
          (s.valueTable.retarget s.entity.table table)).fault? = none
      ↔ ∀ name ∈
          table
          :: movableColumns (s.entity.retarget table)
              (s.valueTable.retarget s.entity.table table),
          isPlain name = true := by
  obtain ⟨plain, kept⟩ := fault?_eq_none_iff.mp sound
  rw [fault?_eq_none_iff]
  refine (and_iff_left kept).trans ?_
  simp only [identifiers, List.forall_mem_cons] at plain
  obtain ⟨catalog, values, _, key, field, text, list, boolean, numeric, _⟩ := plain
  simp only [identifiers, moved, movableColumns, Entity.retarget, ValueTable.retarget,
    List.forall_mem_cons, List.not_mem_nil, false_implies, implies_true, and_true]
  constructor
  · rintro ⟨_, _, parentKey, _, _, _, _, _, _, own, scopeColumn, idColumn⟩
    exact ⟨own, scopeColumn, idColumn, parentKey⟩
  · rintro ⟨own, scopeColumn, idColumn, parentKey⟩
    exact ⟨catalog, values, parentKey, key, field, text, list, boolean, numeric, own, scopeColumn,
      idColumn⟩

/-- A table with no more parts than the entities' own leaves room for all columns. -/
theorem hasRoomOn_of_partCount_le {s : Settings} (sound : s.fault? = none) {table : String}
    (short : partCount table ≤ partCount s.entity.table)
    : s.HasRoomOn table := by
  intro column member _
  have bound := (isPlain_iff.mp (isPlain_of_mem_movableColumns sound column member)).2
  omega

/-- What a command makes of resolved settings for the table that it names. All parts of the new
names are sound, so that nothing foreign gets into SQL. The names are plain exactly when the table
leaves room for the columns that move to it, and exactly then the new settings are as good as the
ones that were checked. A table with no more qualifiers than the entities' own always leaves room.
-/
theorem retargeted_isPlain_iff {zones : Calendar.ZoneDatabase} {home : Option String}
    {overrides : Overrides} {layer : Layer} {settings : Settings}
    (resolved : resolve zones home overrides layer = .ok settings)
    {source : Option String} {entity : Entity} {layout : ValueTable}
    (accepted : CommandLine.retargeted settings source = .ok (entity, layout))
    : (∀ name ∈ entity.table :: movableColumns entity layout, HasSoundParts name)
      ∧ ((∀ name ∈ entity.table :: movableColumns entity layout, isPlain name = true)
          ↔ settings.HasRoomOn entity.table)
      ∧ ((settings.moved entity layout).fault? = none ↔ settings.HasRoomOn entity.table)
      ∧ (partCount entity.table ≤ partCount settings.entity.table
          → settings.HasRoomOn entity.table) := by
  have sound := fault?_of_resolve resolved
  have own : isPlain settings.entity.table = true := by
    exact isPlain_of_fault? sound ("entity.table", settings.entity.table) (by simp [identifiers])
  obtain ⟨table, plain, rfl, rfl⟩ := exists_table_of_retargeted own accepted
  have names
      : (∀ name ∈
            table
            :: movableColumns (settings.entity.retarget table)
                (settings.valueTable.retarget settings.entity.table table),
            isPlain name = true)
        ↔ settings.HasRoomOn table := by
    rw [List.forall_mem_cons, and_iff_right plain]
    exact isPlain_movableColumns_retarget_iff sound plain
  refine ⟨?_, names, ?_, hasRoomOn_of_partCount_le sound⟩
  · have parts := (isPlain_iff.mp plain).1
    rw [List.forall_mem_cons, movableColumns_retarget, List.forall_mem_map]
    refine ⟨parts, fun column member => ?_⟩
    have whole := (isPlain_iff.mp (isPlain_of_mem_movableColumns sound column member)).1
    exact hasSoundParts_requalify settings.entity.table whole parts
  · exact (fault?_moved_eq_none_iff sound).trans names

/-- The entities of the standard settings on a table, and the layout for them. -/
def standardOn (table : String) : Entity × ValueTable :=
  (Entity.standard.retarget table, ValueTable.standard.retarget Entity.standard.table table)

/-- A schema may stand before the name of the table. -/
theorem retargeted_isPlain_iff_waitlist
    : resolve .carried none { zone := some .utc } {} = .ok standardSettings
      ∧ CommandLine.retargeted standardSettings (some "archive.waitlist")
        = .ok (standardOn "archive.waitlist")
      ∧ (standardOn "archive.waitlist").1.scopeColumn = "archive.waitlist.project_id"
      ∧ (standardSettings.moved (standardOn "archive.waitlist").1
            (standardOn "archive.waitlist").2).fault?
        = none := by
  have resolved : resolve .carried none { zone := some .utc } {} = .ok standardSettings := by rfl
  have accepted
      : CommandLine.retargeted standardSettings (some "archive.waitlist")
        = .ok (standardOn "archive.waitlist") := by
    rfl
  have room : standardSettings.HasRoomOn "archive.waitlist" := by
    intro column member _
    have counts
        : ∀ column ∈ movableColumns Entity.standard ValueTable.standard,
            partCount column + partCount "archive.waitlist" ≤ 4 := by
      decide
    exact counts column member
  obtain ⟨_, _, checked, _⟩ := retargeted_isPlain_iff resolved accepted
  exact ⟨resolved, accepted, rfl, checked.mpr room⟩

/-- A table with two qualifiers is accepted although it leaves no room: a column that moves to it
has four parts, and the check that the settings have passed would refuse it.
-/
theorem not_isPlain_retargeted_twice_qualified
    : resolve .carried none { zone := some .utc } {} = .ok standardSettings
      ∧ CommandLine.retargeted standardSettings (some "events.archive.waitlist")
        = .ok (standardOn "events.archive.waitlist")
      ∧ (standardOn "events.archive.waitlist").1.scopeColumn = "events.archive.waitlist.project_id"
      ∧ isPlain "events.archive.waitlist.project_id" = false
      ∧ (standardSettings.moved (standardOn "events.archive.waitlist").1
            (standardOn "events.archive.waitlist").2).fault?
        = some
            (.notPlain "custom_fields.parent_key" "events.archive.waitlist.reservation_id") := by
  refine ⟨by rfl, by rfl, by rfl, ?_, ?_⟩
  · decide
  · decide

end Settings

end FieldFilter
