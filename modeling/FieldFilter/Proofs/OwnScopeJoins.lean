import FieldFilter.Database.Connection
import FieldFilter.Proofs.Catalog.Records
import FieldFilter.Proofs.Catalog.ScopeOrder
import FieldFilter.Proofs.Compile.AliasNumbering
import FieldFilter.Proofs.ScopeIsolation

/-! Joins of the value table reach the own scope alone. The fields that stand in the value table are
made of records of one scope, and a filter refers to fields of its own scope and of all scopes; so
no join attaches the values of another scope.
-/

namespace FieldFilter

-----------------------------------------------------------------------------------------
-- Backends that answer with records
-----------------------------------------------------------------------------------------

/-- The fields of an answer; a lookup that failed has none. -/
def Answer.rows (answer : Answer) : List Field :=
  match answer.value with
  | .ok fields => fields
  | .error _ => []

/-- Each field that the backend answers a lookup with is made of one of the records. -/
def Backend.AnswersFrom (backend : Backend Id) (scope : Int) (codes : List String)
    (records : List FieldRecord)
    : Prop :=
  ∀ f ∈ Answer.rows (backend.lookup scope codes), ∃ r ∈ records, r.field = f

/-- A backend that answers with all fields of a catalog text, unchecked, has them from the records
of the text.
-/
theorem Backend.careless_answersFrom {text : String} {fields : List Field}
    (read : Field.readAll text = .ok fields)
    : ∃ records,
        FieldRecord.AreListedIn records text
        ∧ ∀ scope codes, (Service.careless fields).AnswersFrom scope codes records := by
  obtain ⟨records, listed, rfl⟩ := Field.readAll_eq_ok_iff.mp read
  exact ⟨records, listed, fun _ _ _ member => List.mem_map.mp member⟩

/-- A catalog that is read from a text answers with fields of the records of the text. -/
theorem Listing.answersFrom {text : String} {catalog : Listing}
    (loaded : (read text).value = .ok catalog)
    : ∃ records,
        FieldRecord.AreListedIn records text
        ∧ ∀ scope codes, catalog.backend.AnswersFrom scope codes records := by
  unfold read at loaded
  split at loaded
  · cases loaded
  · next fields read =>
      obtain rfl := Except.ok.inj loaded
      obtain ⟨records, listed, rfl⟩ := Field.readAll_eq_ok_iff.mp read
      refine ⟨records, listed, fun scope codes f member => ?_⟩
      obtain ⟨code, _, found⟩ := List.mem_flatMap.mp member
      have known := ((mem_fieldsWith _ scope).mp found).1
      rw [fields_ofFields] at known
      exact List.mem_map.mp (List.mem_filter.mp known).1

/-- A catalog table answers with fields of the records of the rows that its server returns, by cases
on whether anything is looked up.
-/
theorem Connection.answersFrom {connection : Connection Id} {table : String} {scope : Int}
    {codes : List String} {rows : List CatalogRow}
    (returned : connection.rows (.fields table scope codes) = .ok rows)
    : (connection.backend table).AnswersFrom scope codes (rows.filterMap CatalogRow.record?) := by
  intro f member
  simp only [backend, lookup] at member
  split at member
  · cases member
  · simp only [bind, returned, pure] at member
    obtain ⟨row, known, made⟩ := List.mem_filterMap.mp member
    rw [CatalogRow.value_field?_eq] at made
    obtain ⟨r, own, made⟩ := Option.map_eq_some_iff.mp (Option.filter_eq_some_iff.mp made).1
    exact ⟨r, List.mem_filterMap.mpr ⟨row, known, own⟩, made⟩

-----------------------------------------------------------------------------------------
-- Joins
-----------------------------------------------------------------------------------------

/-- Fields that are made of some records are made of a list of them, by induction on the fields. -/
theorem FieldRecord.exists_map_field_eq {records : List FieldRecord} {fields : List Field}
    (made : ∀ f ∈ fields, ∃ r ∈ records, r.field = f)
    : ∃ chosen : List FieldRecord, (∀ r ∈ chosen, r ∈ records) ∧ chosen.map field = fields := by
  induction fields with
  | nil => exact ⟨[], by simp, rfl⟩
  | cons f fields ih =>
      obtain ⟨r, known, rfl⟩ := made f List.mem_cons_self
      obtain ⟨chosen, later, rfl⟩ := ih fun g among => made g (List.mem_cons_of_mem _ among)
      exact ⟨r :: chosen, List.forall_mem_cons.mpr ⟨known, later⟩, rfl⟩

namespace Service

/-- A query in a scope has the joins of its own scope. The codes that a filter refers to resolve to
fields of the records `referred`, in order; the joins are those of the custom fields among them, and
their records are of the scope, which is not that of all, and name no column.
-/
structure JoinsOwnScope (table : ValueTable) (scope : Int) (codes : List String) (rows : List Field)
    (records : List FieldRecord) (query : CompiledQuery) (referred : List FieldRecord)
    : Prop where
  answered : ∀ r ∈ referred, r ∈ records ∧ r.field ∈ rows
  resolved : codes.map (Field.lastIn? scope rows) = referred.map fun r => some r.field
  joins
    : query.joins
      = (referred.filter (·.field.isCustom)).mapIdx
          fun i r => table.joinText (aliasText (i + 1)) r.id
  own : ∀ r ∈ referred, r.field.isCustom → r.scope = scope ∧ scope ≠ 0 ∧ r.NamesNoColumn
  shared : ∀ r ∈ referred, r.scope = 0 → r.field.isCustom = false
  unscoped : scope = 0 → query.joins = []

/-- Fields that codes resolve to in a scope are among the rows, and of the scope or of all scopes.
-/
theorem mem_of_map_lastIn? {scope : Int} {codes : List String} {rows fields : List Field}
    (resolved : codes.map (Field.lastIn? scope rows) = fields.map some)
    : ∀ f ∈ fields, f ∈ rows ∧ (f.scope = 0 ∨ f.scope = scope) := by
  intro f member
  have listed : some f ∈ codes.map (Field.lastIn? scope rows) := by
    rw [resolved]
    exact List.mem_map_of_mem member
  obtain ⟨code, _, last⟩ := List.mem_map.mp listed
  obtain ⟨known, visible⟩ := List.mem_filter.mp (List.mem_of_getLast? last)
  exact ⟨known, (of_decide_eq_true visible).2⟩

/-- References that resolve to fields of records bring the joins of their own scope: what a scope
sees beside its own fields belongs to all scopes, and such a field is not in the value table.
-/
theorem JoinsOwnScope.of_resolved {table : ValueTable} {scope : Int} {codes : List String}
    {rows : List Field} {records : List FieldRecord} {query : CompiledQuery}
    {referred : List FieldRecord} (known : ∀ r ∈ referred, r ∈ records)
    (resolved : codes.map (Field.lastIn? scope rows) = (referred.map FieldRecord.field).map some)
    (joins
      : query.joins
        = ((referred.map FieldRecord.field).filter Field.isCustom).mapIdx
            fun i f => table.joinText (aliasText (i + 1)) f.id)
    : JoinsOwnScope table scope codes rows records query referred := by
  have seen (r : FieldRecord) (member : r ∈ referred)
      : r.field ∈ rows ∧ (r.scope = 0 ∨ r.scope = scope) :=
    mem_of_map_lastIn? resolved r.field (List.mem_map_of_mem member)
  have apart (r : FieldRecord) (custom : r.field.isCustom) : r.scope ≠ 0 ∧ r.NamesNoColumn :=
    FieldRecord.placement_field_eq_custom_iff.mp (eq_of_beq custom)
  have own (r : FieldRecord) (member : r ∈ referred) (custom : r.field.isCustom)
      : r.scope = scope ∧ scope ≠ 0 ∧ r.NamesNoColumn := by
    obtain ⟨single, unnamed⟩ := apart r custom
    obtain rfl := (seen r member).2.resolve_left single
    exact ⟨rfl, single, unnamed⟩
  have brought
      : query.joins
        = (referred.filter (·.field.isCustom)).mapIdx
            fun i r => table.joinText (aliasText (i + 1)) r.id := by
    rw [joins, List.filter_map]
    refine List.ext_getElem? fun i => ?_
    simp [FieldRecord.field, Field.ofRecord, Function.comp_def]
  refine ⟨fun r member => ⟨known r member, (seen r member).1⟩, ?_, brought, own, ?_, fun zero => ?_⟩
  · rw [resolved, List.map_map]
    rfl
  · intro r _ zero
    exact Bool.eq_false_iff.mpr fun custom => (apart r custom).1 zero
  · have unjoined : referred.filter (·.field.isCustom) = [] :=
      List.filter_eq_nil_iff.mpr fun r member custom => (own r member custom).2.1 zero
    rw [brought, unjoined, List.mapIdx_nil]

/-- Over an answer that is made of records, whatever compiles has the joins of its own scope, by
cases on how the filter is read.
-/
theorem exists_joinsOwnScope {service : Service} {backend : Backend Id} {scope now : Int}
    {filter : Json.Value} {query : CompiledQuery} {records : List FieldRecord}
    (made : backend.AnswersFrom scope (fieldCodes filter) records)
    (compiled : (service.compileAt backend scope now filter).value = .ok query)
    : ∃ referred,
        JoinsOwnScope service.valueTable scope (referencedCodes filter)
          (Answer.rows (backend.lookup scope (fieldCodes filter))) records query referred := by
  unfold compileAt at compiled
  unfold referencedCodes
  cases read : FilterExpr.ofFilter filter with
  | error e =>
      rw [read] at compiled
      cases compiled
  | ok expression =>
      rw [read] at compiled
      cases expression with
      | none =>
          obtain rfl := Except.ok.inj compiled
          exact ⟨[], .of_resolved (by simp) rfl rfl⟩
      | some e =>
          cases answer : (backend.lookup scope (fieldCodes filter)).value with
          | error error =>
              simp only [bind, pure, conclude, answer] at compiled
              cases compiled
          | ok fields =>
              have rows : Answer.rows (backend.lookup scope (fieldCodes filter)) = fields := by
                rw [Answer.rows, answer]
              simp only [bind, pure, conclude, answer, compileOver] at compiled
              obtain ⟨referred, resolved, joins⟩ := FilterExpr.compile_joins compiled
              rw [funext fun code => Field.resolve?_filter_isVisibleIn scope fields code, ← rows]
                at resolved
              obtain ⟨chosen, known, rfl⟩ := FieldRecord.exists_map_field_eq fun f member =>
                made f (mem_of_map_lastIn? resolved f member).1
              exact ⟨chosen, .of_resolved known resolved joins⟩

/-- Custom fields of other scopes are never joined. A catalog that is read from a text, one that
answers with all of its fields whatever it is asked for, and one in a table answer with fields of
records; and over every backend that answers with fields of records, whatever the answer is, a
query in a scope has the joins of that scope alone.
-/
theorem compileAt_joins_own_scope (service : Service) (scope now : Int) (filter : Json.Value)
    : (∀ text catalog,
          (Listing.read text).value = .ok catalog
          → ∃ records,
              FieldRecord.AreListedIn records text
              ∧ ∀ scope codes, catalog.backend.AnswersFrom scope codes records)
      ∧ (∀ text fields,
          Field.readAll text = .ok fields
          → ∃ records,
              FieldRecord.AreListedIn records text
              ∧ ∀ scope codes, (careless fields).AnswersFrom scope codes records)
      ∧ (∀ (connection : Connection Id) table codes rows,
          connection.rows (.fields table scope codes) = .ok rows
          → (connection.backend table).AnswersFrom scope codes (rows.filterMap CatalogRow.record?))
      ∧ ∀ (backend : Backend Id) records query,
          backend.AnswersFrom scope (fieldCodes filter) records
          → (service.compileAt backend scope now filter).value = .ok query
          → ∃ referred,
              JoinsOwnScope service.valueTable scope (referencedCodes filter)
                (Answer.rows (backend.lookup scope (fieldCodes filter))) records query referred :=
  ⟨fun _ _ loaded => Listing.answersFrom loaded, fun _ _ read => Backend.careless_answersFrom read,
    fun _ _ _ _ returned => Connection.answersFrom returned,
    fun _ _ _ made compiled => exists_joinsOwnScope made compiled⟩

/-- Of three rows for the age, scope 7 joins its own one and scope 0 joins none, although the
backend answers with all of them.
-/
theorem compileAt_joins_own_scope_ageText
    : ((⟨.standard, .utc⟩ : Service).compileAt (careless Listing.ageRows) 7 0
            Listing.ageCondition).value
          = .ok ageQuery
      ∧ ageQuery.joins = [ValueTable.standard.joinText "f1" 12]
      ∧ (∃ records referred,
          FieldRecord.AreListedIn records Listing.ageText
          ∧ JoinsOwnScope .standard 7 ["age"] Listing.ageRows records ageQuery referred)
      ∧ ((⟨.standard, .utc⟩ : Service).compileAt (careless Listing.ageRows) 0 0
            Listing.ageCondition).value
          = .ok { predicate := "(reservations.age = ?)", joins := [], params := [.int 3] } := by
  obtain ⟨_, unchecked, _, joined⟩ :=
    compileAt_joins_own_scope ⟨.standard, .utc⟩ 7 0 Listing.ageCondition
  obtain ⟨records, listed, made⟩ := unchecked _ _ Listing.readAll_ageText
  obtain ⟨referred, own⟩ := joined _ records ageQuery (made 7 _) rfl
  exact ⟨rfl, rfl, ⟨records, referred, listed, own⟩, rfl⟩

end Service

end FieldFilter
