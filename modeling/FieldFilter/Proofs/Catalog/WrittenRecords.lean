import FieldFilter.Proofs.Catalog.Records
import FieldFilter.Proofs.Json.WrittenText

/-! Records can be written down. Every list of records without styles, whose numbers have 64 bits,
is listed in a catalog text.
-/

namespace FieldFilter

open Json

namespace FieldRecord

/-- The record as a JSON object, but for its style. -/
def json (r : FieldRecord) : Json.Value :=
  .object [("field_id", .number (.integer r.id)), ("field_code", .string r.code),
    ("field_type", .string r.type.name), ("column_name", r.column.elim .null .string),
    ("scope_id", .number (.integer r.scope))]

/-- The catalog text of some records. -/
def listing (records : List FieldRecord) : String :=
  (Json.Value.array (records.map json)).compact

/-- What the object of the record is read as. -/
def tree (r : FieldRecord) : Json.Tree :=
  .object [(StringUnit.ofText "field_id", .number (.ofInt r.id)),
    (StringUnit.ofText "field_code", .string (StringUnit.ofText r.code)),
    (StringUnit.ofText "field_type", .string (StringUnit.ofText r.type.name)),
    (StringUnit.ofText "column_name", r.column.elim .null fun name =>
      .string (StringUnit.ofText name)),
    (StringUnit.ofText "scope_id", .number (.ofInt r.scope))]

/-- The text of the record's object writes its tree. -/
theorem isWritten_tree (r : FieldRecord) : r.tree.IsWritten r.json.compact := by
  have column
      : (r.column.elim Json.Tree.null fun name => .string (StringUnit.ofText name)).IsWritten
          (r.column.elim Json.Value.null .string).compact := by
    cases r.column with
    | none => exact Tree.isWritten_null
    | some name => exact Tree.isWritten_string name
  exact Tree.Container.object.isWritten
    (.cons ((Tree.isWritten_integer r.id).member "field_id")
    (.cons ((Tree.isWritten_string r.code).member "field_code")
    (.cons ((Tree.isWritten_string r.type.name).member "field_type")
    (.cons (column.member "column_name")
    (.cons ((Tree.isWritten_integer r.scope).member "scope_id") .nil)))))

/-- The tree of a record is read as the record, by cases on whether it names a column. -/
theorem readsFrom_tree {r : FieldRecord} (unstyled : r.style = none) (id : Word.Fits r.id)
    (scope : Word.Fits r.scope)
    : r.ReadsFrom r.tree := by
  have type : FieldType.ofTree? (.string (StringUnit.ofText r.type.name)) = some r.type := by
    rw [FieldType.ofTree?, StringUnit.text?_ofText]
    exact FieldType.ofName?_name r.type
  have column
      : Tree.optional? Tree.text?
            (some (r.column.elim .null fun name => .string (StringUnit.ofText name)))
          = some r.column := by
    cases r.column with
    | none => rfl
    | some name => simp [Tree.optional?, Tree.text?, StringUnit.text?_ofText]
  have parts
      : r.tree.parts? Field.recordKeys Field.requiredKeys
        = some [some (.number (.ofInt r.id)), some (.string (StringUnit.ofText r.code)),
            some (.string (StringUnit.ofText r.type.name)),
            some (r.column.elim .null fun name => .string (StringUnit.ofText name)),
            some (.number (.ofInt r.scope)), none] := by
    rfl
  exact ⟨_, _, _, _, _, _, parts, Tree.word?_ofInt id, StringUnit.text?_ofText r.code, type, column,
    Tree.word?_ofInt scope, by rw [unstyled]; rfl⟩

/-- Records without styles and with numbers of 64 bits are listed in their catalog text. -/
theorem areListedIn_listing {records : List FieldRecord} (unstyled : ∀ r ∈ records, r.style = none)
    (words : ∀ r ∈ records, Word.Fits r.id ∧ Word.Fits r.scope)
    : AreListedIn records (listing records) := by
  refine ⟨records.map tree, ?_, ?_⟩
  · have each
        : List.Forall₂ Tree.Container.array.Writes (records.map tree)
            (records.map fun r => r.json.compact) := by
      rw [List.forall₂_map_left_iff, List.forall₂_map_right_iff, List.forall₂_same]
      exact fun r _ => (isWritten_tree r).item
    rw [listing, Json.Value.compact, Json.Value.compactItems_eq_map, List.map_map]
    exact (Tree.Container.array.isWritten each).read?
  · refine List.forall₂_map_right_iff.mpr (List.forall₂_same.mpr fun r member => ?_)
    obtain ⟨id, scope⟩ := words r member
    exact readsFrom_tree (unstyled r member) id scope

end FieldRecord

end FieldFilter
