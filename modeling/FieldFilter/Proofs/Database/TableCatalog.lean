import FieldFilter.Database.Connection
import FieldFilter.Proofs.Catalog.ScopeOrder
import FieldFilter.Proofs.Catalog.WrittenRecords
import FieldFilter.Proofs.Database.StatementBinding
import FieldFilter.Proofs.ScopeIsolation

/-! A catalog in a table and a listed catalog of the same records compile alike. A server orders the
rows that it selects by the place of their code first; among the rows with one code that is the
order of their scopes, which a listed catalog keeps too.
-/

namespace FieldFilter

-----------------------------------------------------------------------------------------
-- What a server answers
-----------------------------------------------------------------------------------------

namespace CatalogRow

/-- Where the code of the row stands among some codes, counted from one; zero when it does not. -/
def place (order : List String) (row : CatalogRow) : Nat :=
  if row.code ∈ order then order.idxOf row.code + 1 else 0

/-- The row does not come after another one: the places of their codes decide, and for one place
their scopes.
-/
def precedes (order : List String) (row other : CatalogRow) : Bool :=
  row.place order < other.place order
    ∨ row.place order = other.place order ∧ row.scope ≤ other.scope

/-- The rows with one of the codes `asked` that are of a scope or of all scopes, by the places of
their codes in `order` and then by their scopes. Rows that neither tells apart stay as they were.
-/
def selected (rows : List CatalogRow) (asked : List String) (scope : Int) (order : List String)
    : List CatalogRow :=
  (rows.filter fun row => row.code ∈ asked ∧ (row.scope = 0 ∨ row.scope = scope)).mergeSort
    (precedes order)

theorem precedes_trans (order : List String) (a b c : CatalogRow) (ab : precedes order a b)
    (bc : precedes order b c)
    : precedes order a c := by
  simp only [precedes, decide_eq_true_eq] at ab bc ⊢
  omega

theorem precedes_total (order : List String) (a b : CatalogRow)
    : (precedes order a b || precedes order b a) = true := by
  simp only [precedes, Bool.or_eq_true, decide_eq_true_eq]
  omega

end CatalogRow

/-- The server behind a connection holds some rows in a table, and answers a lookup by its text: the
values for the placeholders are some codes, a scope and as many codes again. The first codes and the
scope select rows, and the places of the rows among the last codes order them.
-/
def Connection.Serves (connection : Connection Id) (table : String) (rows : List CatalogRow)
    : Prop :=
  ∀ asked scope order,
    asked ≠ []
    → asked.length = order.length
    → connection.rows
          { text := (Statement.fields table scope asked).text
            params := asked.map .text ++ .int scope :: order.map .text }
        = .ok (CatalogRow.selected rows asked scope order)

/-- What a lookup of some codes is answered with. -/
theorem Connection.Serves.rows_fields {connection : Connection Id} {table : String}
    {rows : List CatalogRow} (served : connection.Serves table rows) (scope : Int)
    {codes : List String} (given : codes ≠ [])
    : connection.rows (.fields table scope codes)
      = .ok (CatalogRow.selected rows codes scope codes) :=
  served codes scope codes given rfl

namespace Parameter

/-- The texts that some values begin with, and the values behind them. -/
def leadingTexts : List Parameter → List String × List Parameter
  | .text s :: values => ((leadingTexts values).1.cons s, (leadingTexts values).2)
  | values => ([], values)

/-- Texts end where a value that is none follows them or nothing does, by induction on the texts. -/
theorem leadingTexts_append (texts : List String) {rest : List Parameter}
    (ends : leadingTexts rest = ([], rest))
    : leadingTexts (texts.map .text ++ rest) = (texts, rest) := by
  induction texts with
  | nil => exact ends
  | cons s texts ih => rw [List.map_cons, List.cons_append, leadingTexts, ih]

end Parameter

namespace Connection

/-- A server with rows in a table that knows lookups alone. It takes the codes and the scope from
the values of a statement, whose text has to be that of a lookup with as many codes.
-/
def serving (table : String) (rows : List CatalogRow) : Connection Id :=
  { bare with
    rows := fun st =>
      match Parameter.leadingTexts st.params with
      | (asked, .int scope :: values) =>
        if st.text = (Statement.fields table scope asked).text then
          .ok (CatalogRow.selected rows asked scope (Parameter.leadingTexts values).1)
        else .error (.statement "unknown statement" false)
      | _ => .error (.statement "unknown statement" false) }

/-- Every table of rows can be served. -/
theorem serving_serves (table : String) (rows : List CatalogRow)
    : (serving table rows).Serves table rows := by
  intro asked scope order _ _
  have first
      : Parameter.leadingTexts (asked.map .text ++ .int scope :: order.map .text)
        = (asked, .int scope :: order.map .text) :=
    Parameter.leadingTexts_append asked rfl
  have second : Parameter.leadingTexts (order.map .text) = (order, []) := by
    have ends : Parameter.leadingTexts [] = ([], []) := rfl
    simpa using Parameter.leadingTexts_append order ends
  simp only [serving, first, second, if_true]

end Connection

-----------------------------------------------------------------------------------------
-- Records of rows
-----------------------------------------------------------------------------------------

/-- The record is that of a row, except for its style, which does not matter to compilations. -/
structure FieldRecord.IsOf (r : FieldRecord) (row : CatalogRow) : Prop where
  id : r.id = row.id
  code : r.code = row.code
  type : r.type.code = row.type
  column : r.column = row.column
  scope : r.scope = row.scope

namespace CatalogRow

/-- The field of the row without its style; a type that has no meaning is taken for text. -/
def bareField (row : CatalogRow) : Field :=
  .ofRecord row.id row.code ((FieldType.ofCode? row.type).getD .text) row.column row.scope none

/-- The type of the row has a meaning. -/
def IsTyped (row : CatalogRow) : Prop :=
  0 ≤ row.type ∧ row.type ≤ 7

/-- Every type number between those of the first and the last type is that of a type. -/
theorem IsTyped.exists_type {row : CatalogRow} (typed : row.IsTyped)
    : ∃ type : FieldType, type.code = row.type := by
  obtain ⟨least, greatest⟩ := typed
  obtain ⟨n, known⟩ := Int.eq_ofNat_of_zero_le least
  rw [known] at greatest ⊢
  have bound : n < 8 := by omega
  have listed : ∀ n < 8, ∃ type ∈ FieldType.all, type.code = Int.ofNat n := by decide
  obtain ⟨type, _, same⟩ := listed n bound
  exact ⟨type, same⟩

/-- Rows whose types have a meaning are those of records, by induction on the rows. -/
theorem exists_records {rows : List CatalogRow} (typed : ∀ row ∈ rows, row.IsTyped)
    (words : ∀ row ∈ rows, Word.Fits row.id ∧ Word.Fits row.scope)
    : ∃ records,
        List.Forall₂ FieldRecord.IsOf records rows
        ∧ (∀ r ∈ records, r.style = none)
        ∧ ∀ r ∈ records, Word.Fits r.id ∧ Word.Fits r.scope := by
  induction rows with
  | nil => exact ⟨[], .nil, by simp, by simp⟩
  | cons row rows ih =>
      obtain ⟨own, later⟩ := List.forall_mem_cons.mp typed
      obtain ⟨fits, laterFit⟩ := List.forall_mem_cons.mp words
      obtain ⟨type, known⟩ := own.exists_type
      obtain ⟨records, same, unstyled, allFit⟩ := ih later laterFit
      let r : FieldRecord := ⟨row.id, row.code, type, row.column, row.scope, none⟩
      exact ⟨r :: records, .cons ⟨rfl, rfl, known, rfl, rfl⟩ same,
        List.forall_mem_cons.mpr ⟨rfl, unstyled⟩, List.forall_mem_cons.mpr ⟨fits, allFit⟩⟩

/-- The field of a record of a row is that of the row, but for the style. -/
theorem withoutStyle_field {r : FieldRecord} {row : CatalogRow} (same : r.IsOf row)
    : r.field.withoutStyle = row.bareField := by
  obtain ⟨id, code, type, column, scope, style⟩ := r
  obtain ⟨rfl, rfl, known, rfl, rfl⟩ := same
  simp only [bareField, ← known, FieldType.ofCode?_code, Option.getD_some]
  rfl

/-- A row with a type becomes its field, but for the style, if that can be used. -/
theorem IsTyped.map_withoutStyle_field? {row : CatalogRow} (typed : row.IsTyped)
    : row.field?.value.map Field.withoutStyle
      = Option.guard (·.hasPlainColumn) row.bareField := by
  obtain ⟨type, known⟩ := typed.exists_type
  let r : FieldRecord :=
    ⟨row.id, row.code, type, row.column, row.scope, row.styleValue.value⟩
  have record : row.record? = some r := by
    rw [record?, ← known, FieldType.ofCode?_code]
    rfl
  have bare : r.field.withoutStyle = row.bareField :=
    withoutStyle_field ⟨rfl, rfl, known, rfl, rfl⟩
  have plain : r.field.hasPlainColumn = row.bareField.hasPlainColumn := by
    rw [← bare]
    rfl
  rw [value_field?_eq, record, Option.map_some, Option.filter_some, Option.guard, plain, ← bare]
  split
  · rfl
  · rfl

/-- The fields of rows with types, but for their styles, are those whose column can be used. -/
theorem map_withoutStyle_fields {rows : List CatalogRow} (typed : ∀ row ∈ rows, row.IsTyped)
    : (fields rows).value.map Field.withoutStyle
      = (rows.map bareField).filter (·.hasPlainColumn) := by
  calc
    (fields rows).value.map Field.withoutStyle
        = rows.filterMap fun row => row.field?.value.map Field.withoutStyle :=
      List.map_filterMap
    _ = rows.filterMap fun row => Option.guard (·.hasPlainColumn) row.bareField :=
      List.filterMap_congr fun row member => (typed row member).map_withoutStyle_field?
    _ = (rows.map bareField).filter (·.hasPlainColumn) := by
      rw [← List.filterMap_eq_filter, List.filterMap_map]
      rfl

end CatalogRow

-----------------------------------------------------------------------------------------
-- Resolving codes
-----------------------------------------------------------------------------------------

namespace Field

/-- Fields that are the same but for their styles resolve a code alike. -/
theorem ResolveAlike.of_map_withoutStyle {fields others : List Field} {code : String}
    (same
      : (fields.map withoutStyle).filter (·.code == code)
        = (others.map withoutStyle).filter (·.code == code))
    : ResolveAlike fields others code := by
  have kept (l : List Field)
      : (resolve? l code).map withoutStyle
        = ((l.map withoutStyle).filter (·.code == code)).getLast? := by
    rw [resolve?, List.filter_map, List.getLast?_map]
    rfl
  rw [ResolveAlike, kept, kept, same]

/-- What of some fields can be used in a scope does not depend on their styles. -/
theorem map_withoutStyle_usableIn (scope : Int) (fields : List Field)
    : (usableIn scope fields).map withoutStyle = usableIn scope (fields.map withoutStyle) := by
  have sorted (l : List Field) : (byScope l).map withoutStyle = byScope (l.map withoutStyle) :=
    List.map_mergeSort fun _ _ _ _ => rfl
  rw [usableIn, sorted, usableIn, List.filter_map, List.filter_map]
  rfl

end Field

namespace CatalogRow

/-- The rows of a scope and of all scopes with a code, whose column can be used. -/
def usableWith (scope : Int) (code : String) (row : CatalogRow) : Bool :=
  row.bareField.code == code && row.bareField.isVisibleIn scope && row.bareField.hasPlainColumn

/-- Among the rows that are selected for some codes, those with one of the codes are in the order of
their scopes.
-/
theorem map_filter_selected (rows : List CatalogRow) (scope : Int) {codes : List String}
    {code : String} (asked : code ∈ codes)
    : ((selected rows codes scope codes).filter (usableWith scope code)).map bareField
      = Field.byScope ((rows.filter (usableWith scope code)).map bareField) := by
  have own {row : CatalogRow} (usable : usableWith scope code row = true)
      : row.code = code ∧ (row.scope = 0 ∨ row.scope = scope) := by
    simp only [usableWith, Bool.and_eq_true, beq_iff_eq] at usable
    obtain ⟨⟨same, visible⟩, _⟩ := usable
    simp only [Field.isVisibleIn, Bool.or_eq_true, beq_iff_eq] at visible
    exact ⟨same, visible⟩
  have chosen
      : (rows.filter fun row => row.code ∈ codes ∧ (row.scope = 0 ∨ row.scope = scope)).filter
            (usableWith scope code)
        = rows.filter (usableWith scope code) := by
    rw [List.filter_filter]
    refine List.filter_congr fun row _ => ?_
    rw [Bool.eq_iff_iff, Bool.and_eq_true, decide_eq_true_eq]
    refine ⟨And.left, fun usable => ⟨usable, ?_⟩⟩
    obtain ⟨rfl, visible⟩ := own usable
    exact ⟨asked, visible⟩
  -- Rows with one code have one place, so their scopes alone decide.
  have byScope (row other : CatalogRow) (hr : row.code = code) (ho : other.code = code)
      : precedes codes row other = decide (row.scope ≤ other.scope) := by
    simp [precedes, place, hr, ho]
  rw [selected, filter_mergeSort (precedes_trans codes) (precedes_total codes), chosen,
    Field.byScope]
  refine List.map_mergeSort fun row hr other ho => ?_
  exact byScope row other (own (List.mem_filter.mp hr).2).1 (own (List.mem_filter.mp ho).2).1

/-- The answer of a table resolves each code that was asked for like all fields of the table that
can be used in the scope.
-/
theorem resolveAlike_selected {rows : List CatalogRow} {fields : List Field}
    (typed : ∀ row ∈ rows, row.IsTyped)
    (bare : fields.map Field.withoutStyle = rows.map bareField) (scope : Int) {codes : List String}
    {code : String} (asked : code ∈ codes)
    : Field.ResolveAlike
        ((CatalogRow.fields (selected rows codes scope codes)).value.filter (·.isVisibleIn scope))
        (Field.usableIn scope fields) code := by
  have known : ∀ row ∈ selected rows codes scope codes, row.IsTyped := fun row member =>
    typed row (List.mem_filter.mp (List.mem_mergeSort.mp member)).1
  have visible (l : List Field)
      : (l.filter (·.isVisibleIn scope)).map Field.withoutStyle
        = (l.map Field.withoutStyle).filter (·.isVisibleIn scope) := by
    rw [List.filter_map]
    rfl
  have usable (l : List CatalogRow)
      : (((l.map bareField).filter (·.hasPlainColumn)).filter (·.isVisibleIn scope)).filter
            (·.code == code)
        = (l.filter (usableWith scope code)).map bareField := by
    rw [List.filter_filter, List.filter_filter, List.filter_map]
    rfl
  refine .of_map_withoutStyle ?_
  rw [visible, map_withoutStyle_fields known, usable, map_filter_selected rows scope asked,
    Field.map_withoutStyle_usableIn, bare, Field.usableIn, Field.filter_byScope, usable]

end CatalogRow

-----------------------------------------------------------------------------------------
-- Compilations
-----------------------------------------------------------------------------------------

/-- Records of some rows make the fields of the rows, but for the styles, by induction on both. -/
theorem FieldRecord.map_withoutStyle_field {records : List FieldRecord} {rows : List CatalogRow}
    (same : List.Forall₂ IsOf records rows)
    : (records.map field).map Field.withoutStyle = rows.map CatalogRow.bareField := by
  induction same with
  | nil => rfl
  | cons first _ ih =>
      simp only [List.map_cons, CatalogRow.withoutStyle_field first, ih]

/-- A table answers a lookup, and resolves what it was asked for like all fields of the table, by
cases on whether anything is looked up.
-/
theorem Connection.Serves.exists_answer {connection : Connection Id} {table : String}
    {rows : List CatalogRow} {listed : List Field} (served : connection.Serves table rows)
    (typed : ∀ row ∈ rows, row.IsTyped)
    (bare : listed.map Field.withoutStyle = rows.map CatalogRow.bareField) (scope : Int)
    (codes : List String)
    : ∃ fields,
        ((connection.backend table).lookup scope codes).value = .ok fields
        ∧ ∀ code ∈ codes,
            Field.ResolveAlike (fields.filter (·.isVisibleIn scope))
              (Field.usableIn scope listed) code := by
  cases codes with
  | nil => exact ⟨[], rfl, by simp⟩
  | cons first rest =>
      refine ⟨_, ?_, fun code => CatalogRow.resolveAlike_selected typed bare scope⟩
      have answered := served.rows_fields scope (List.cons_ne_nil first rest)
      simp only [backend, lookup, List.isEmpty_cons, Bool.false_eq_true, if_false, bind, pure,
        answered]

namespace Service

/-- Over a table a filter compiles as over all fields of its rows, by cases on how the filter is
read.
-/
theorem compileAt_table (service : Service) {connection : Connection Id} {table : String}
    {rows : List CatalogRow} {listed : List Field} (served : connection.Serves table rows)
    (typed : ∀ row ∈ rows, row.IsTyped)
    (bare : listed.map Field.withoutStyle = rows.map CatalogRow.bareField) (scope now : Int)
    (filter : Json.Value)
    : (service.compileAt (connection.backend table) scope now filter).value
      = service.compileOverAll scope now filter listed := by
  unfold compileAt compileOverAll
  cases read : FilterExpr.ofFilter filter with
  | error e => rfl
  | ok expression =>
      cases expression with
      | none => rfl
      | some e =>
          obtain ⟨fields, answered, alike⟩ :=
            served.exists_answer typed bare scope (fieldCodes filter)
          simp only [bind, pure, conclude, answered, compileOver]
          refine FilterExpr.compile_congr fun code member => ?_
          exact alike code (FilterExpr.references_subset_fieldCodes read member)

/-- The two catalogs agree. A server holds rows of the known types in a table and answers lookups by
their text. Whatever catalog text lists records of the rows in their order, it is loaded as a
catalog over which every filter compiles, in every scope, zone and layout and at every instant, to
the query or to the error that it compiles to over the table; and there is such a text for rows with
numbers of 64 bits.
-/
theorem compileAt_table_eq_compileAt_listing {connection : Connection Id} {table : String}
    {rows : List CatalogRow} (typed : ∀ row ∈ rows, row.IsTyped)
    (served : connection.Serves table rows)
    : (∀ text records,
          List.Forall₂ FieldRecord.IsOf records rows
          → FieldRecord.AreListedIn records text
          → ∃ catalog,
              (Listing.read text).value = .ok catalog
              ∧ ∀ (service : Service) scope now filter,
                  (service.compileAt (connection.backend table) scope now filter).value
                  = (service.compileAt (m := Id) catalog.backend scope now filter).value)
      ∧ ((∀ row ∈ rows, Word.Fits row.id ∧ Word.Fits row.scope)
          → ∃ text records,
              List.Forall₂ FieldRecord.IsOf records rows
              ∧ FieldRecord.AreListedIn records text) := by
  refine ⟨fun text records same listed => ?_, fun words => ?_⟩
  · have bare := FieldRecord.map_withoutStyle_field same
    have read : Field.readAll text = .ok (records.map FieldRecord.field) :=
      Field.readAll_eq_ok_iff.mpr ⟨records, listed, rfl⟩
    refine ⟨(Listing.ofFields (records.map FieldRecord.field)).value, ?_, ?_⟩
    · rw [Listing.read, read]
    · intro service scope now filter
      rw [compileAt_ofFields]
      exact service.compileAt_table served typed bare scope now filter
  · obtain ⟨records, same, unstyled, fits⟩ := CatalogRow.exists_records typed words
    exact ⟨_, records, same, FieldRecord.areListedIn_listing unstyled fits⟩

/-- Two rows for the age, the first of scope 7 and the second of all scopes. -/
def tableRows : List CatalogRow :=
  [{ id := 12, code := "age", type := 7, column := none, scope := 7, style := some "no JSON" },
    { id := 1, code := "age", type := 7, column := some "reservations.age", scope := 0,
      style := none }]

/-- The row of scope 7 comes last from the server too, and is joined over both catalogs. -/
theorem compileAt_table_eq_compileAt_listing_tableRows
    : (∀ row ∈ tableRows, row.IsTyped)
      ∧ (Connection.serving "fields" tableRows).Serves "fields" tableRows
      ∧ ∃ text catalog,
          (Listing.read text).value = .ok catalog
          ∧ ((⟨.standard, .utc⟩ : Service).compileAt
                ((Connection.serving "fields" tableRows).backend "fields") 7 0
                Listing.ageCondition).value
              = .ok ageQuery
          ∧ ((⟨.standard, .utc⟩ : Service).compileAt (m := Id) catalog.backend 7 0
                Listing.ageCondition).value
              = .ok ageQuery := by
  have typed : ∀ row ∈ tableRows, row.IsTyped := by
    unfold CatalogRow.IsTyped
    decide
  have served := Connection.serving_serves "fields" tableRows
  obtain ⟨agree, written⟩ := compileAt_table_eq_compileAt_listing typed served
  obtain ⟨text, records, same, listed⟩ := written (by decide)
  obtain ⟨catalog, loaded, alike⟩ := agree text records same listed
  have query
      : ((⟨.standard, .utc⟩ : Service).compileAt
            ((Connection.serving "fields" tableRows).backend "fields") 7 0
            Listing.ageCondition).value
          = .ok ageQuery := by
    let listed : List Field := [Listing.scopedAge 12 7, Listing.sharedAge]
    have parts : Field.usableIn 7 listed = Field.usableOf 0 listed ++ Field.usableOf 7 listed :=
      Listing.usableIn_eq_append (by decide) (.inl ⟨rfl, rfl⟩) listed
    have bare : listed.map Field.withoutStyle = tableRows.map CatalogRow.bareField := by rfl
    rw [compileAt_table _ served typed bare, compileOverAll, parts]
    rfl
  refine ⟨typed, served, text, catalog, loaded, query, ?_⟩
  rw [← alike]
  exact query

end Service

end FieldFilter
