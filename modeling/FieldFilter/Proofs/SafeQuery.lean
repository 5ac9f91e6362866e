import FieldFilter.Proofs.Catalog.LookupResolution
import FieldFilter.Proofs.Compile.ShapeFromText
import FieldFilter.Proofs.Settings.Resolution
import FieldFilter.Proofs.Sql.SafePredicate
import FieldFilter.Service

/-! Only safe text reaches SQL. Settings are checked when they are resolved, and catalogs leave out
the fields whose column has no plain name; so whatever a service compiles over them is safe.
-/

namespace FieldFilter

-----------------------------------------------------------------------------------------
-- Safe queries
-----------------------------------------------------------------------------------------

/-- Marks that end a statement, start a comment, quote a name or a text, or escape a mark. -/
def foreignMarks : List Char := ";#/*`\\\"".toList

/-- The texts of the query are spelled in their alphabets, quotes stand around fixed literals
alone, and nothing in the texts starts a comment or is foreign in another way.
-/
structure CompiledQuery.IsSafe (q : CompiledQuery) : Prop where
  joins : ∀ join ∈ q.joins, MadeOf joinMarks join.toList
  predicate : MadeOf predicateMarks q.predicate.toList
  literals : ∃ found, stringLiterals q.predicate = some found ∧ found ⊆ fixedLiterals
  noComment : ∀ text ∈ q.predicate :: q.joins, ¬ "--".toList <:+: text.toList
  noForeign
    : ∀ text ∈ q.predicate :: q.joins, ∀ x ∈ text.toList, x.toNat < 128 ∧ x ∉ foreignMarks

/-- Letters and digits are of ASCII, by the ranges that they lie in. -/
theorem toNat_lt_of_isAlphanum {x : Char} (h : x.isAlphanum = true) : x.toNat < 128 := by
  have bound {last : Char} (small : last.toNat < 128) (below : x ≤ last) : x.toNat < 128 :=
    Nat.lt_of_le_of_lt (UInt32.le_iff_toNat_le.mp (Char.le_def.mp below)) small
  rcases isAlphanum_iff.mp h with (upper | lower) | digit
  · exact bound (by decide) upper.2
  · exact bound (by decide) lower.2
  · exact bound (by decide) digit.2

/-- A text has no foreign character when its marks are not foreign: letters and digits never
are.
-/
theorem MadeOf.noForeign {marks w : List Char} (h : MadeOf marks w)
    (known : marks.all (fun x => x.toNat < 128 && !foreignMarks.contains x) = true)
    : ∀ x ∈ w, x.toNat < 128 ∧ x ∉ foreignMarks := by
  intro x member
  rcases h x member with letter | mark
  · have others : foreignMarks.all (fun y => !y.isAlphanum) = true := by decide
    refine ⟨toNat_lt_of_isAlphanum letter, fun foreign => ?_⟩
    have other := List.all_eq_true.mp others x foreign
    rw [letter] at other
    cases other
  · simpa using List.all_eq_true.mp known x mark

/-- A query is safe when its predicate is and its joins are spelled without a comment. -/
theorem CompiledQuery.IsSafe.of_texts {q : CompiledQuery} (predicate : SafeText q.predicate.toList)
    (joins
      : ∀ join ∈ q.joins, MadeOf joinMarks join.toList ∧ ¬ "--".toList <:+: join.toList)
    : q.IsSafe where
  joins join member := (joins join member).1
  predicate := predicate.madeOf
  literals := predicate.literalsFrom_outside
  noComment := by
    intro text member
    rcases List.mem_cons.mp member with rfl | join
    · exact predicate.no_comment
    · exact (joins text join).2
  noForeign := by
    intro text member
    rcases List.mem_cons.mp member with rfl | join
    · exact predicate.madeOf.noForeign (by decide)
    · exact (joins text join).1.noForeign (by decide)

/-- Over a plain layout and fields with plain columns, whatever compiles is a safe query: its
predicate reads no columns but names, and its joins bring names of the layout.
-/
theorem FilterExpr.compile_isSafe {table : ValueTable} {clock : Clock} {fields : List Field}
    {expression : Option FilterExpr} {query : CompiledQuery} (layout : table.IsPlain)
    (columns : ∀ f ∈ fields, f.hasPlainColumn = true)
    (compiled : compile table clock fields expression = .ok query)
    : query.IsSafe := by
  cases expression with
  | none =>
      obtain rfl := Except.ok.inj compiled
      have always : SafeText CompiledQuery.trueText.toList := .of_word (by decide)
      exact .of_texts always fun join member => absurd member List.not_mem_nil
  | some e =>
      obtain ⟨p, planned, rfl⟩ := compile_some_eq_ok_iff.mp compiled
      have fixed : e.FixedColumnsSatisfy (fun name => Identifier.isPlain name = true) fields := by
        refine .of_fields (fun f member name place => ?_) e
        simpa [Field.hasPlainColumn, place, Placement.isPlain] using columns f member
      have plain : e.HasPlainNames table fields :=
        { fixed, storage := fun storage => layout _ (table.storageColumn_mem_names storage) }
      refine .of_texts (Predicate.safeText fun test member c own => ?_) fun join member => ?_
      · exact plain.isName (plan_columns planned test member c own)
      · obtain ⟨j, _, rfl⟩ := List.mem_map.mp member
        exact ⟨j.madeOf layout, j.no_comment layout⟩

-----------------------------------------------------------------------------------------
-- What is plain
-----------------------------------------------------------------------------------------

namespace Settings

/-- The layout of resolved settings is plain: all of its names are among those that are checked. -/
theorem isPlain_valueTable {zones : Calendar.ZoneDatabase} {home : Option String}
    {overrides : Overrides} {layer : Layer} {settings : Settings}
    (h : resolve zones home overrides layer = .ok settings)
    : settings.valueTable.IsPlain := by
  have checked := isPlain_of_fault? (fault?_of_resolve h)
  intro name member
  have subset : settings.valueTable.names ⊆ settings.identifiers.map Prod.snd := by
    simp [ValueTable.names, identifiers]
  obtain ⟨entry, known, rfl⟩ := List.mem_map.mp (subset member)
  exact checked entry known

end Settings

theorem Field.hasPlainColumn_of_plain? {f g : Field} (h : f.plain?.value = some g)
    : g.hasPlainColumn = true := by
  unfold plain? at h
  split at h
  · next plain =>
      obtain rfl := Option.some.inj h
      exact plain
  · cases h

/-- A catalog that was read lists plain columns alone. -/
theorem Listing.hasPlainColumn_of_read {text : String} {catalog : Listing}
    (h : (read text).value = .ok catalog)
    : ∀ f ∈ catalog.fields, f.hasPlainColumn = true := by
  unfold read at h
  split at h
  · cases h
  · next fields _ =>
      obtain rfl := Except.ok.inj h
      intro f member
      rw [fields_ofFields] at member
      exact (List.mem_filter.mp member).2

/-- Rows of a table that become fields have plain columns, by cases on what is made of a row. -/
theorem CatalogRow.hasPlainColumn_of_fields {rows : List CatalogRow}
    : ∀ f ∈ (fields rows).value, f.hasPlainColumn = true := by
  intro f member
  obtain ⟨row, _, made⟩ := List.mem_filterMap.mp member
  unfold field? at made
  split at made
  · cases made
  · exact Field.hasPlainColumn_of_plain? made

/-- A catalog table is answered with plain columns alone, whatever the connection returns. -/
theorem Connection.hasPlainColumn_of_lookup {connection : Connection Id} {table : String}
    {scope : Int} {codes : List String} {fields : List Field}
    (h : (connection.lookup table scope codes).value = .ok fields)
    : ∀ f ∈ fields, f.hasPlainColumn = true := by
  unfold lookup at h
  split at h
  · obtain rfl := Except.ok.inj h
    exact fun f member => absurd member List.not_mem_nil
  · cases answer : connection.rows (.fields table scope codes) with
    | error e =>
        simp only [bind, answer, pure, Logged.quiet] at h
        cases h
    | ok rows =>
        simp only [bind, answer, pure] at h
        obtain rfl := Except.ok.inj h
        exact CatalogRow.hasPlainColumn_of_fields

-----------------------------------------------------------------------------------------
-- Services
-----------------------------------------------------------------------------------------

namespace Service

/-- A service with a plain layout compiles safe queries over every backend that answers with plain
columns, by cases on how the filter is read.
-/
theorem isSafe_of_compileAt {service : Service} {backend : Backend Id} {scope now : Int}
    {filter : Json.Value} {query : CompiledQuery} (layout : service.valueTable.IsPlain)
    (columns
      : ∀ fields,
          (backend.lookup scope (fieldCodes filter)).value = .ok fields
          → ∀ f ∈ fields, f.hasPlainColumn = true)
    (h : (service.compileAt backend scope now filter).value = .ok query)
    : query.IsSafe := by
  unfold compileAt at h
  split at h
  · cases h
  · obtain rfl := Except.ok.inj h
    exact FilterExpr.compile_isSafe layout (fun f member => absurd member List.not_mem_nil)
      (rfl : FilterExpr.compile service.valueTable (service.clock now) [] none = _)
  · next e _ =>
      cases answer : (backend.lookup scope (fieldCodes filter)).value with
      | error error =>
          simp only [bind, pure, conclude, answer] at h
          cases h
      | ok fields =>
          simp only [bind, pure, conclude, answer, compileOver] at h
          refine FilterExpr.compile_isSafe layout (fun f member => ?_) h
          exact columns fields answer f (List.mem_filter.mp member).1

/-- Only safe text reaches SQL. Over settings that were resolved, with a catalog that was read from
a text or with a table behind any connection, whatever compiles is a safe query: for every zone,
scope, instant and filter, its texts are spelled in their alphabets, its quotes stand around the
fixed literals, and no comment starts in it.
-/
theorem compileAt_isSafe {zones : Calendar.ZoneDatabase} {home : Option String}
    {overrides : Overrides} {layer : Layer} {settings : Settings}
    (resolved : Settings.resolve zones home overrides layer = .ok settings)
    (zone : Calendar.Zone) (scope now : Int) (filter : Json.Value) (query : CompiledQuery)
    : (∀ text catalog,
          (Listing.read text).value = .ok catalog
          → ((⟨settings.valueTable, zone⟩ : Service).compileAt (m := Id) catalog.backend scope now
                filter).value
            = .ok query
          → query.IsSafe)
      ∧ ∀ (connection : Connection Id) (table : String),
          ((⟨settings.valueTable, zone⟩ : Service).compileAt (connection.backend table) scope now
                filter).value
            = .ok query
          → query.IsSafe := by
  have layout := Settings.isPlain_valueTable resolved
  constructor
  · intro text catalog read compiled
    refine isSafe_of_compileAt layout (fun fields answer f member => ?_) compiled
    obtain rfl := Except.ok.inj answer
    obtain ⟨code, _, found⟩ := List.mem_flatMap.mp member
    have listed := ((Listing.mem_fieldsWith catalog scope).mp found).1
    exact Listing.hasPlainColumn_of_read read f listed
  · intro connection table compiled
    refine isSafe_of_compileAt layout (fun fields answer => ?_) compiled
    exact Connection.hasPlainColumn_of_lookup answer

def standardSettings : Settings :=
  { database := none
    catalog := { table := Settings.standardCatalogTable, file := none }
    valueTable := .standard
    entity := .standard
    zone := .utc }

/-- A table with a field whose code would be its column, were it a name, and with a field of the
value table.
-/
def tamperedTable : Connection Id :=
  { rows := fun _ => .ok
      [ { id := 1, code := "1=1; --", type := 0, column := none, scope := 0, style := none },
        { id := -5, code := "note", type := 0, column := none, scope := 7, style := none } ]
    count := fun _ => .ok 0
    ids := fun _ => .ok [] }

/-- Entities whose note is a text that tries to leave its place, or is blank. -/
def leavingFilter : Json.Value :=
  .array
    [ .array [.string "x'; --.note", .string "=", .string "'; DROP TABLE reservations; --"],
      .string "or",
      .array [.string "note", .string "isblank", .null] ]

def leavingQuery : CompiledQuery :=
  { predicate := "((f1.value_text = ?) or (f2.value_text IS NULL OR f2.value_text = ''))"
    joins := [1, 2].map fun n => Join.text .standard { number := n, fieldId := -5 }
    params := [.text "'; DROP TABLE reservations; --"] }

/-- The text stays a parameter, and the sign of the field id does not start a comment. -/
theorem compileAt_isSafe_leavingFilter
    : Settings.resolve .carried none { zone := some .utc } {} = .ok standardSettings
      ∧ ((⟨.standard, .utc⟩ : Service).compileAt (tamperedTable.backend "fields") 7 0
            leavingFilter).value
        = .ok leavingQuery
      ∧ leavingQuery.IsSafe := by
  have resolved
      : Settings.resolve .carried none { zone := some .utc } {} = .ok standardSettings := by
    rfl
  have compiled
      : ((⟨standardSettings.valueTable, .utc⟩ : Service).compileAt
            (tamperedTable.backend "fields") 7 0 leavingFilter).value
        = .ok leavingQuery := by
    rfl
  have safe := (compileAt_isSafe resolved .utc 7 0 leavingFilter leavingQuery).2
    tamperedTable "fields" compiled
  exact ⟨resolved, compiled, safe⟩

end Service

end FieldFilter
