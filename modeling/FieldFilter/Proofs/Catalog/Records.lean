import FieldFilter.Database.Row
import FieldFilter.Proofs.Catalog.LookupResolution
import Mathlib.Data.List.DropRight
import Mathlib.Data.List.Forall2

/-! Records, which catalogs make fields of. A catalog in JSON and a catalog table hold records in
different forms; the column of a field is chosen from its record alike in both.
-/

namespace FieldFilter

/-- Items give results together when each of them does, by induction on the items. -/
theorem mapM_eq_some_iff {α β : Type} {f : α → Option β} {items : List α} {results : List β}
    : items.mapM f = some results ↔ List.Forall₂ (fun x y => f x = some y) items results := by
  induction items generalizing results with
  | nil => simp [eq_comm]
  | cons item items ih =>
      simp only [List.mapM_cons, Option.bind_eq_bind, Option.bind_eq_some_iff, Option.pure_def,
        Option.some.injEq, List.forall₂_cons_left_iff, ih]
      constructor
      · rintro ⟨first, hf, later, hl, rfl⟩
        exact ⟨first, later, hf, hl, rfl⟩
      · rintro ⟨first, later, hf, hl, rfl⟩
        exact ⟨first, hf, later, hl, rfl⟩

/-- Trimming leaves nothing of a text that is blank throughout, and of no other. -/
theorem Text.trimmed_eq_empty_iff {s : String}
    : trimmed s = "" ↔ ∀ c ∈ s.toList, isBlank c = true := by
  have start (cs : List Char) : trimStart cs = [] ↔ ∀ c ∈ cs, isBlank c = true :=
    List.dropWhile_eq_nil_iff
  calc
    trimmed s = "" ↔ trimStart (trimStart s.toList).reverse = [] := by
      simp [trimmed, trim, trimEnd]
    _ ↔ trimStart (trimStart s.toList) = [] := by simp only [start, List.mem_reverse]
    _ ↔ trimStart s.toList = [] := by rw [trimStart, trimStart, List.dropWhile_idempotent]
    _ ↔ ∀ c ∈ s.toList, isBlank c = true := start s.toList

/-- What a catalog holds of a field, before a place is chosen for its values. -/
structure FieldRecord where
  id : Int
  code : String
  type : FieldType
  column : Option String
  scope : Int
  style : Option Json.Value

namespace FieldRecord

def field (r : FieldRecord) : Field :=
  .ofRecord r.id r.code r.type r.column r.scope r.style

/-- The record has no name for a column, or one of blanks alone. -/
def NamesNoColumn (r : FieldRecord) : Prop :=
  ∀ name ∈ r.column, ∀ c ∈ name.toList, Text.isBlank c = true

instance (r : FieldRecord) : Decidable r.NamesNoColumn :=
  inferInstanceAs (Decidable (∀ name ∈ r.column, ∀ c ∈ name.toList, Text.isBlank c = true))

/-- The values of a field stand in the value table when its record belongs to one scope and names no
column, and in a column of their own otherwise. By cases on the name of the column.
-/
theorem placement_field_eq_custom_iff {r : FieldRecord}
    : r.field.placement = .custom ↔ r.scope ≠ 0 ∧ r.NamesNoColumn := by
  have placed : r.field.placement = .ofRecord r.column r.scope r.code := rfl
  rw [placed, NamesNoColumn, Placement.ofRecord]
  cases r.column with
  | none => by_cases shared : r.scope = 0 <;> simp [shared]
  | some name =>
      have blank := Text.trimmed_eq_empty_iff (s := name)
      by_cases empty : Text.trimmed name = ""
      · by_cases shared : r.scope = 0 <;>
          simp [Option.filter_some, empty, shared, ← blank]
      · simp [Option.filter_some, empty, ← blank]

-----------------------------------------------------------------------------------------
-- Records in JSON
-----------------------------------------------------------------------------------------

/-- The tree is the record in JSON: an object or an array whose parts are read as what the record
holds.
-/
def ReadsFrom (r : FieldRecord) (tree : Json.Tree) : Prop :=
  ∃ id code type column scope style,
    tree.parts? Field.recordKeys Field.requiredKeys
      = some [some id, some code, some type, column, scope, style]
    ∧ id.word? = some r.id
    ∧ code.text? = some r.code
    ∧ FieldType.ofTree? type = some r.type
    ∧ Json.Tree.optional? Json.Tree.text? column = some r.column
    ∧ Field.scopeOfTree? scope = some r.scope
    ∧ Json.Tree.optional? (Json.Tree.value? Field.styleDepth) style = some r.style

/-- The text is a list of the records in JSON, in order. -/
def AreListedIn (records : List FieldRecord) (text : String) : Prop :=
  ∃ trees : List Json.Tree,
    Json.Tree.read? text = some (.array trees) ∧ List.Forall₂ ReadsFrom records trees

end FieldRecord

namespace Field

/-- A tree is read as the field of the record that it is. -/
theorem ofTree?_eq_some_iff {tree : Json.Tree} {f : Field}
    : ofTree? tree = some f ↔ ∃ r : FieldRecord, r.ReadsFrom tree ∧ r.field = f := by
  constructor
  · intro read
    obtain ⟨parts, whole, read⟩ := Option.bind_eq_some_iff.mp read
    split at read
    · next id code type column scope style =>
        simp only [Option.bind_eq_bind, Option.bind_eq_some_iff, Option.pure_def,
          Option.some.injEq] at read
        obtain ⟨i, hi, c, hc, t, ht, n, hn, s, hs, st, hst, rfl⟩ := read
        exact ⟨⟨i, c, t, n, s, st⟩, ⟨id, code, type, column, scope, style, whole, hi, hc, ht, hn,
          hs, hst⟩, rfl⟩
    · cases read
  · rintro ⟨r, ⟨id, code, type, column, scope, style, whole, hi, hc, ht, hn, hs, hst⟩, rfl⟩
    simp [ofTree?, whole, hi, hc, ht, hn, hs, hst, FieldRecord.field]

/-- Trees are read as the fields of the records that they are, by induction on the trees. -/
theorem mapM_ofTree?_eq_some_iff {trees : List Json.Tree} {fields : List Field}
    : trees.mapM ofTree? = some fields
      ↔ ∃ records : List FieldRecord,
          List.Forall₂ FieldRecord.ReadsFrom records trees
          ∧ records.map FieldRecord.field = fields := by
  rw [mapM_eq_some_iff]
  constructor
  · intro read
    induction read with
    | nil => exact ⟨[], .nil, rfl⟩
    | cons first _ ih =>
        obtain ⟨r, reads, rfl⟩ := ofTree?_eq_some_iff.mp first
        obtain ⟨records, later, rfl⟩ := ih
        exact ⟨r :: records, .cons reads later, rfl⟩
  · rintro ⟨records, reads, rfl⟩
    rw [List.forall₂_map_right_iff]
    exact reads.flip.imp fun tree r reads => ofTree?_eq_some_iff.mpr ⟨r, reads, rfl⟩

/-- A catalog text is read as the fields of the records that it lists, in order. -/
theorem readAll_eq_ok_iff {text : String} {fields : List Field}
    : readAll text = .ok fields
      ↔ ∃ records : List FieldRecord,
          FieldRecord.AreListedIn records text ∧ records.map FieldRecord.field = fields := by
  have listed {tree : Json.Tree}
      : ofTrees? tree = some fields
        ↔ ∃ trees : List Json.Tree, tree = .array trees ∧ trees.mapM ofTree? = some fields := by
    cases tree <;> simp [ofTrees?]
  have read : readAll text = .ok fields ↔ (Json.Tree.read? text).bind ofTrees? = some fields := by
    unfold readAll
    cases (Json.Tree.read? text).bind ofTrees? <;> simp
  rw [read, Option.bind_eq_some_iff]
  constructor
  · rintro ⟨tree, grammar, own⟩
    obtain ⟨trees, rfl, mapped⟩ := listed.mp own
    obtain ⟨records, reads, made⟩ := mapM_ofTree?_eq_some_iff.mp mapped
    exact ⟨records, ⟨trees, grammar, reads⟩, made⟩
  · rintro ⟨records, ⟨trees, grammar, reads⟩, made⟩
    exact ⟨_, grammar, listed.mpr ⟨trees, rfl, mapM_ofTree?_eq_some_iff.mpr ⟨records, reads, made⟩⟩⟩

end Field

-----------------------------------------------------------------------------------------
-- Records in a table
-----------------------------------------------------------------------------------------

namespace CatalogRow

/-- The record of a row, unless no type has its number. -/
def record? (row : CatalogRow) : Option FieldRecord :=
  (FieldType.ofCode? row.type).map fun type =>
    { id := row.id, code := row.code, type, column := row.column, scope := row.scope,
      style := row.styleValue.value }

/-- A row becomes the field of its record, if that can be used, by cases on its type. -/
theorem value_field?_eq (row : CatalogRow)
    : row.field?.value = (row.record?.map FieldRecord.field).filter (·.hasPlainColumn) := by
  unfold field? record?
  cases FieldType.ofCode? row.type with
  | none => rfl
  | some type =>
      simp only [Option.map_some, Option.filter_some, FieldRecord.field, Field.plain?]
      split <;> simp_all [Logged.quiet]

end CatalogRow

end FieldFilter
