import FieldFilter.Proofs.Calls
import FieldFilter.Proofs.Compile.ParameterAlignment

/-! Statements bind their values to the placeholders that these are for. A statement falls into
parts, each with as many placeholders as values, so the value with the number of a placeholder is
one of the part that the placeholder stands in.
-/

namespace FieldFilter

namespace Statement

-----------------------------------------------------------------------------------------
-- Parts
-----------------------------------------------------------------------------------------

/-- A stretch of a statement and the values for the placeholders in it. -/
structure Part where
  text : String
  values : List Parameter

namespace Part

/-- A stretch without values. -/
def plain (text : String) : Part :=
  { text, values := [] }

/-- A placeholder alone, with its value. -/
def mark (value : Parameter) : Part :=
  { text := "?", values := [value] }

/-- The stretch has a placeholder for each of its values. -/
def IsFilled (part : Part) : Prop :=
  FieldFilter.placeholders part.text = part.values.length

theorem isFilled_plain_iff {text : String}
    : (plain text).IsFilled ↔ FieldFilter.placeholders text = 0 :=
  Iff.rfl

theorem isFilled_mark (value : Parameter) : (mark value).IsFilled := by
  have one : FieldFilter.placeholders "?" = 1 := by decide
  exact one

end Part

/-- A statement binds the values of some parts. Its text is that of the parts one after the other
and its values are theirs, and each part has a placeholder for each of its values. So each
placeholder of the statement stands in the part whose value has its number, as it has in the part.
-/
structure Binds (st : Statement) (parts : List Part) : Prop where
  text : st.text = String.join (parts.map Part.text)
  params : st.params = parts.flatMap Part.values
  filled : ∀ part ∈ parts, part.IsFilled
  owner
    : ∀ before after,
        st.text.toList = before ++ '?' :: after
        → ∃ left part right inner rest,
            parts = left ++ part :: right
            ∧ part.text.toList = inner ++ '?' :: rest
            ∧ before = (String.join (left.map Part.text)).toList ++ inner
            ∧ inner.count '?' < part.values.length
            ∧ st.params[before.count '?']? = part.values[inner.count '?']?

/-- Parts with a placeholder for each value have as many of both together, by induction on the
parts.
-/
theorem placeholders_join {parts : List Part}
    (filled : ∀ part ∈ parts, part.IsFilled)
    : FieldFilter.placeholders (String.join (parts.map Part.text))
      = (parts.flatMap Part.values).length := by
  induction parts with
  | nil => rfl
  | cons part parts ih =>
      have head : FieldFilter.placeholders part.text = part.values.length :=
        filled part List.mem_cons_self
      have tail := ih fun other later => filled other (List.mem_cons_of_mem part later)
      simp only [List.map_cons, String.join_cons, placeholders_append, head, tail,
        List.flatMap_cons, List.length_append]

/-- A placeholder in one of some parts has the number of a value of that part, by induction on the
parts.
-/
theorem exists_owner {parts : List Part}
    (filled : ∀ part ∈ parts, part.IsFilled)
    {before after : List Char}
    (found : (String.join (parts.map Part.text)).toList = before ++ '?' :: after)
    : ∃ left part right inner rest,
        parts = left ++ part :: right
        ∧ part.text.toList = inner ++ '?' :: rest
        ∧ before = (String.join (left.map Part.text)).toList ++ inner
        ∧ inner.count '?' < part.values.length
        ∧ (parts.flatMap Part.values)[before.count '?']? = part.values[inner.count '?']? := by
  induction parts generalizing before with
  | nil => simp at found
  | cons part parts ih =>
      have count : part.text.toList.count '?' = part.values.length :=
        filled part List.mem_cons_self
      rw [List.map_cons, String.join_cons, String.toList_append] at found
      rcases Segment.found_in_append found with ⟨rest, inside⟩ | ⟨middle, rfl, later⟩
      · have bound : before.count '?' < part.values.length := by
          rw [← count, inside]
          simp
        refine ⟨[], part, parts, before, rest, rfl, inside, by simp, bound, ?_⟩
        rw [List.flatMap_cons]
        exact List.getElem?_append_left bound
      · obtain ⟨left, owner, right, inner, rest, rfl, inside, rfl, bound, same⟩ :=
          ih (fun other member => filled other (List.mem_cons_of_mem part member)) later
        refine ⟨part :: left, owner, right, inner, rest, rfl, inside, by simp, bound, ?_⟩
        rw [← same, List.flatMap_cons, List.count_append, count,
          List.getElem?_append_right (Nat.le_add_right _ _), Nat.add_sub_cancel_left]

/-- Parts that make up a statement are bound in it once each has a placeholder for each value. -/
theorem Binds.of_parts {st : Statement} {parts : List Part}
    (text : st.text = String.join (parts.map Part.text))
    (params : st.params = parts.flatMap Part.values)
    (filled : ∀ part ∈ parts, part.IsFilled)
    : st.Binds parts := by
  refine ⟨text, params, filled, fun before after found => ?_⟩
  rw [text] at found
  rw [params]
  exact exists_owner filled found

/-- A statement that binds some parts has as many placeholders as values. -/
theorem Binds.placeholders_eq {st : Statement} {parts : List Part} (bound : st.Binds parts)
    : FieldFilter.placeholders st.text = st.params.length := by
  rw [bound.text, bound.params]
  exact placeholders_join bound.filled

-----------------------------------------------------------------------------------------
-- Statements about entities
-----------------------------------------------------------------------------------------

/-- A statement about entities up to its condition: what is selected, the table and the joins. -/
def selection (q : CompiledQuery) (select source : String) : String :=
  "SELECT " ++ select ++ " FROM " ++ source
    ++ (if q.joins.isEmpty then "" else " " ++ q.joinClause)
    ++ " WHERE "

/-- The parts of a statement that selects what meets a query in a scope. -/
def entityParts (entity : Entity) (scope : Int) (q : CompiledQuery) (select : String) : List Part :=
  [.plain (selection q select entity.table),
    { text := scopeCondition entity, values := [.int scope] },
    .plain " AND (", { text := q.predicate, values := q.params }, .plain ")"]

def countParts (entity : Entity) (scope : Int) (q : CompiledQuery) : List Part :=
  entityParts entity scope q "COUNT(*)"

def idsParts (entity : Entity) (scope : Int) (q : CompiledQuery) (limit : Nat) : List Part :=
  entityParts entity scope q ("DISTINCT CAST(" ++ entity.idColumn ++ " AS SIGNED)")
    ++ [.plain " ORDER BY 1 LIMIT ", .mark (.int limit)]

/-- A query selects by its parts. -/
theorem apply_eq_join (entity : Entity) (scope : Int) (q : CompiledQuery) (select : String)
    : q.apply select entity.table (scopeCondition entity)
      = String.join ((entityParts entity scope q select).map Part.text) := by
  have opening : " AND (" = " " ++ "AND (" := by rfl
  -- An equation lemma of a definition that appends this many texts is slow to make.
  delta CompiledQuery.apply
  simp only [CompiledQuery.whereClause, entityParts, Part.plain, selection, opening,
    List.map_cons, List.map_nil, String.join_cons, String.join_nil, String.append_assoc,
    String.append_empty]

/-- No name in the layout of the entities has a question mark. -/
structure NamesQuietly (entity : Entity) : Prop where
  table : '?' ∉ entity.table.toList
  scopeColumn : '?' ∉ entity.scopeColumn.toList
  idColumn : '?' ∉ entity.idColumn.toList

/-- The joins stand before the condition, and bring no placeholder. -/
theorem placeholders_selection {q : CompiledQuery} {select source : String}
    (joins : ∀ join ∈ q.joins, FieldFilter.placeholders join = 0)
    (quiet : FieldFilter.placeholders select = 0) (table : '?' ∉ source.toList)
    : FieldFilter.placeholders (selection q select source) = 0 := by
  have joined : FieldFilter.placeholders q.joinClause = 0 := by
    calc
      FieldFilter.placeholders q.joinClause
          = FieldFilter.placeholders (String.intercalate " " (q.joins.map id)) := by
        rw [List.map_id, CompiledQuery.joinClause]
      _ = (q.joins.flatMap fun _ => []).length := placeholders_intercalate (by decide) joins
      _ = 0 := List.length_eq_zero_iff.mpr (List.flatMap_eq_nil_iff.mpr fun _ _ => rfl)
  have middle
      : FieldFilter.placeholders (if q.joins.isEmpty then "" else " " ++ q.joinClause) = 0 := by
    split
    · decide
    · rw [placeholders_append, joined]
      decide
  simp only [selection, placeholders_append, quiet, placeholders_eq_zero_iff.mpr table, middle]
  decide

/-- Each part of a statement about entities has a placeholder for each value. -/
theorem placeholders_entityParts {entity : Entity} {q : CompiledQuery} {select : String}
    (scope : Int) (names : NamesQuietly entity)
    (joins : ∀ join ∈ q.joins, FieldFilter.placeholders join = 0)
    (predicate : FieldFilter.placeholders q.predicate = q.params.length)
    (quiet : FieldFilter.placeholders select = 0)
    : ∀ part ∈ entityParts entity scope q select, part.IsFilled := by
  have condition : FieldFilter.placeholders (scopeCondition entity) = 1 := by
    rw [scopeCondition, placeholders_append, placeholders_eq_zero_iff.mpr names.scopeColumn]
    decide
  simp only [entityParts, List.forall_mem_cons, List.not_mem_nil, false_implies, implies_true,
    and_true, Part.isFilled_plain_iff]
  exact ⟨placeholders_selection joins quiet names.table, condition, by decide, predicate, by decide⟩

/-- The number of matches is asked for with the scope and the values of the query. -/
theorem count_binds {entity : Entity} {q : CompiledQuery} (scope : Int)
    (names : NamesQuietly entity) (joins : ∀ join ∈ q.joins, FieldFilter.placeholders join = 0)
    (predicate : FieldFilter.placeholders q.predicate = q.params.length)
    : (count entity scope q).Binds (countParts entity scope q) := by
  refine .of_parts (apply_eq_join entity scope q _) ?_
    (placeholders_entityParts scope names joins predicate (by decide))
  simp [count, countParts, entityParts, Part.plain]

/-- The ids of the matches are asked for with the same values, and the limit behind them. -/
theorem ids_binds {entity : Entity} {q : CompiledQuery} (scope : Int) (limit : Nat)
    (names : NamesQuietly entity) (joins : ∀ join ∈ q.joins, FieldFilter.placeholders join = 0)
    (predicate : FieldFilter.placeholders q.predicate = q.params.length)
    : (ids entity scope q limit).Binds (idsParts entity scope q limit) := by
  have quiet
      : FieldFilter.placeholders ("DISTINCT CAST(" ++ entity.idColumn ++ " AS SIGNED)") = 0 := by
    simp only [placeholders_append, placeholders_eq_zero_iff.mpr names.idColumn]
    decide
  refine .of_parts ?_ ?_ ?_
  · rw [ids, apply_eq_join, idsParts, List.map_append, String.join_append]
    rfl
  · simp [ids, idsParts, entityParts, Part.plain, Part.mark]
  · intro part member
    rcases List.mem_append.mp member with entity | limited
    · exact placeholders_entityParts scope names joins predicate quiet part entity
    · simp only [List.mem_cons, List.not_mem_nil, or_false] at limited
      rcases limited with rfl | rfl
      · exact Part.isFilled_plain_iff.mpr (by decide)
      · exact Part.isFilled_mark _

-----------------------------------------------------------------------------------------
-- Statements about fields
-----------------------------------------------------------------------------------------

/-- The parts of a statement that looks fields up: the codes stand in it twice. -/
def fieldsParts (table : String) (scope : Int) (codes : List String) : List Part :=
  let list : Part := { text := placeholders codes.length, values := codes.map .text }
  [.plain ("SELECT " ++ fieldColumns ++ " FROM " ++ table ++ " WHERE field_code IN ("), list,
    .plain ") AND (scope_id = 0 OR scope_id = ", .mark (.int scope),
    .plain ") ORDER BY FIELD(field_code, ", list, .plain "), scope_id"]

/-- A list of placeholders has as many as asked for. -/
theorem placeholders_placeholders (count : Nat)
    : FieldFilter.placeholders (placeholders count) = count := by
  calc
    FieldFilter.placeholders (placeholders count)
        = FieldFilter.placeholders
            (String.intercalate ", " ((List.replicate count ()).map fun _ => "?")) := by
      rw [List.map_replicate, placeholders]
    _ = ((List.replicate count ()).flatMap fun _ => [Parameter.int 0]).length :=
      placeholders_intercalate (by decide) fun _ _ => by decide
    _ = count := by simp

theorem params_fields (table : String) (scope : Int) (codes : List String)
    : (fields table scope codes).params = codes.map .text ++ .int scope :: codes.map .text :=
  rfl

/-- A lookup of fields binds the codes, the scope and the codes again. -/
theorem fields_binds {table : String} (quiet : '?' ∉ table.toList) (scope : Int)
    (codes : List String)
    : (fields table scope codes).Binds (fieldsParts table scope codes) := by
  have compared
      : ") AND (scope_id = 0 OR scope_id = ?) ORDER BY FIELD(field_code, "
        = ") AND (scope_id = 0 OR scope_id = " ++ ("?" ++ ") ORDER BY FIELD(field_code, ") := by
    rfl
  delta fields
  refine .of_parts ?_ ?_ ?_
  · simp only [fieldsParts, Part.plain, Part.mark, List.map_cons, List.map_nil, String.join_cons,
      String.join_nil, compared, String.append_assoc, String.append_empty]
  · simp only [fieldsParts, Part.plain, Part.mark, List.flatMap_cons, List.flatMap_nil,
      List.nil_append, List.append_nil, List.singleton_append]
  · have lead
        : FieldFilter.placeholders
            ("SELECT " ++ fieldColumns ++ " FROM " ++ table ++ " WHERE field_code IN (") = 0 := by
      have columns : FieldFilter.placeholders fieldColumns = 0 := by
        delta fieldColumns
        rw [placeholders_append]
        decide +kernel
      simp only [placeholders_append, columns, placeholders_eq_zero_iff.mpr quiet]
      decide
    have list
        : FieldFilter.placeholders (placeholders codes.length)
          = (codes.map Parameter.text).length := by
      rw [placeholders_placeholders, List.length_map]
    simp only [fieldsParts, List.forall_mem_cons, List.not_mem_nil, false_implies, implies_true,
      and_true, Part.isFilled_plain_iff]
    exact ⟨lead, list, by decide, Part.isFilled_mark _, by decide, list, by decide⟩

end Statement

-----------------------------------------------------------------------------------------
-- Statements that are sent
-----------------------------------------------------------------------------------------

namespace Connection

variable {m : Type → Type} [Monad m]

/-- A call that notes its statements sends one, and its answer is that of the call without notes.
The statement binds the values of some parts, which are these values, and has so many placeholders.
-/
structure Sends {α : Type} (noted : StateT (List Statement) m α) (call : m α) (st : Statement)
    (parts : List Statement.Part) (values : List Parameter) (count : Nat)
    : Prop where
  sent : ∀ before, noted.run before = (fun answer => (answer, before ++ [st])) <$> call
  bound : st.Binds parts
  values : st.params = values
  count : placeholders st.text = count

/-- Every statement that is sent binds its placeholders in order. Over names without a question
mark, the number of the entities that match a compiled query is asked for with the scope and then
the values of the query; their ids, with the same and then the limit; and the fields with some
codes, with the codes, the scope and the codes again. For no codes nothing is sent.
-/
theorem sends_bound_statements [LawfulMonad m] (connection : Connection m)
    {valueTable : ValueTable} {clock : Clock} {fields : List Field}
    {expression : Option FilterExpr} {query : CompiledQuery} {entity : Entity} {table : String}
    (layout : ∀ name ∈ valueTable.names, '?' ∉ name.toList)
    (columns
      : ∀ e ∈ expression, e.FixedColumnsSatisfy (fun name => '?' ∉ name.toList) fields)
    (compiled : FilterExpr.compile valueTable clock fields expression = .ok query)
    (names : Statement.NamesQuietly entity) (quiet : '?' ∉ table.toList) (scope : Int) (limit : Nat)
    : Sends (connection.noted.countMatches entity scope query)
          (connection.countMatches entity scope query) (.count entity scope query)
          (Statement.countParts entity scope query) (.int scope :: query.params)
          (1 + query.params.length)
      ∧ Sends (connection.noted.listMatches entity scope query limit)
          (connection.listMatches entity scope query limit) (.ids entity scope query limit)
          (Statement.idsParts entity scope query limit)
          (.int scope :: query.params ++ [.int limit]) (query.params.length + 2)
      ∧ (∀ codes : List String,
          codes ≠ []
          → Sends (connection.noted.lookup table scope codes) (connection.lookup table scope codes)
              (.fields table scope codes) (Statement.fieldsParts table scope codes)
              (codes.map .text ++ .int scope :: codes.map .text) (2 * codes.length + 1))
      ∧ ∀ before,
          (connection.noted.lookup table scope []).run before = pure (.quiet (.ok []), before) := by
  obtain ⟨joins, predicate⟩ := FilterExpr.compile_placeholders layout columns compiled
  have counted := Statement.count_binds scope names joins predicate
  have listed := Statement.ids_binds scope limit names joins predicate
  refine ⟨⟨fun _ => rfl, counted, rfl, ?_⟩, ⟨fun _ => rfl, listed, rfl, ?_⟩, fun codes given => ?_,
    connection.run_lookup_noted_nil table scope⟩
  · rw [counted.placeholders_eq, Statement.count, List.length_cons, Nat.add_comm]
  · rw [listed.placeholders_eq]
    simp [Statement.ids]
  · have bound := Statement.fields_binds quiet scope codes
    have values := Statement.params_fields table scope codes
    refine ⟨connection.run_lookup_noted table scope given, bound, values, ?_⟩
    rw [bound.placeholders_eq, values, List.length_append, List.length_cons, List.length_map]
    omega

/-- A connection to a server that has nothing. -/
def bare : Connection Id :=
  { rows := fun _ => .ok [], count := fun _ => .ok 0, ids := fun _ => .ok [] }

/-- Two joins and three values stand between the scope and the limit. -/
theorem sends_bound_statements_dietQuery
    : (bare.noted.listMatches .standard 7 FilterExpr.dietQuery 20).run []
        = (.ok [], [Statement.ids .standard 7 FilterExpr.dietQuery 20])
      ∧ (Statement.ids .standard 7 FilterExpr.dietQuery 20).params
        = [.int 7, .text "5", .text "\x7b\"id\":5\x7d", .text "x", .int 20]
      ∧ placeholders (Statement.ids .standard 7 FilterExpr.dietQuery 20).text = 5
      ∧ placeholders (Statement.count .standard 7 FilterExpr.dietQuery).text = 4
      ∧ placeholders (Statement.fields "fields" 7 ["diet"]).text = 3 := by
  have compiled
      : FilterExpr.compile .standard ⟨.utc, 0⟩ [FilterExpr.dietField] (some FilterExpr.dietFilter)
        = .ok FilterExpr.dietQuery := by
    rfl
  have columns
      : ∀ e ∈ some FilterExpr.dietFilter,
          e.FixedColumnsSatisfy (fun name => '?' ∉ name.toList) [FilterExpr.dietField] :=
    fun e _ => .of_fields (by simp [FilterExpr.dietField]) e
  have names : Statement.NamesQuietly .standard := ⟨by decide, by decide, by decide⟩
  have quiet : '?' ∉ "fields".toList := by decide
  obtain ⟨counted, listed, lookedUp, _⟩ :=
    sends_bound_statements bare (by decide) columns compiled names quiet 7 20
  exact ⟨listed.sent [], listed.values, listed.count, counted.count,
    (lookedUp ["diet"] (by simp)).count⟩

end Connection

end FieldFilter
