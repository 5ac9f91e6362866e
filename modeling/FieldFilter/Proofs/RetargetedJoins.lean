import FieldFilter.Proofs.ScopeIsolation
import FieldFilter.Proofs.Sql.Rendering
import FieldFilter.Proofs.Sql.Requalification

/-! What a compilation takes from the layout of the value table. Its predicate reads the columns for
the kinds of storage alone, and only its joins name the key of the entities; so on another table the
same filter selects by the same predicate, and nothing of its joins moves but that key.
-/

namespace FieldFilter

-----------------------------------------------------------------------------------------
-- Predicates over two layouts
-----------------------------------------------------------------------------------------

section

variable {t u : ValueTable}

theorem Column.text_congr (same : t.storageColumn = u.storageColumn) (c : Column)
    : c.text t = c.text u := by
  cases c with
  | fixed name => rfl
  | joined n storage => rw [text, text, same]

theorem Term.text_congr (same : t.storageColumn = u.storageColumn) (term : Term)
    : term.text t = term.text u := by
  cases term with
  | bound p | literal n | emptyText => rfl
  | column c | locate p c | length c | bytes c | date c offset =>
      simp only [text_column, text_locate, text_length, text_bytes, text_date,
        Column.text_congr same]

theorem Atom.text_congr (same : t.storageColumn = u.storageColumn) (atom : Atom)
    : atom.text t = atom.text u := by
  cases atom with
  | compare relation left right => simp only [text, Term.text_congr same]
  | isNull c | isNotNull c | like c pattern | regexp c pattern | between c least greatest
  | contains negated c documents => simp only [text, Column.text_congr same]

theorem Test.text_congr (same : t.storageColumn = u.storageColumn) (test : Test)
    : test.text t = test.text u := by
  have atoms : Atom.text t = Atom.text u := funext (Atom.text_congr same)
  cases test with
  | any parts | all parts => simp only [text, atoms]

namespace Predicate

mutual

/-- Layouts with the same columns for storage give a predicate the same text, by induction on the
predicate.
-/
theorem text_congr (same : t.storageColumn = u.storageColumn) (p : Predicate)
    : p.text t = p.text u := by
  cases p with
  | test test => rw [text, text, Test.text_congr same]
  | group first rest => rw [text, text, text_congr same first, restText_congr same rest]

theorem restText_congr (same : t.storageColumn = u.storageColumn)
    (rest : List (Conjunction × Predicate))
    : restText t rest = restText u rest := by
  cases rest with
  | nil => rfl
  | cons child rest =>
      obtain ⟨conjunction, p⟩ := child
      rw [restText, restText, text_congr same p, restText_congr same rest]

end

end Predicate

end

/-- On another table the layout has the same columns for storage, by cases on the kind. -/
theorem ValueTable.storageColumn_retarget (t : ValueTable) (source target : String)
    : (t.retarget source target).storageColumn = t.storageColumn := by
  funext storage
  cases storage <;> rfl

-----------------------------------------------------------------------------------------
-- Joins over two layouts
-----------------------------------------------------------------------------------------

/-- The text of a join of the value table to entities with a key. -/
def Join.textOn (t : ValueTable) (key : String) (j : Join) : String :=
  "LEFT OUTER JOIN " ++ t.table ++ " AS " ++ aliasText j.number ++ " ON " ++ key ++ " = "
    ++ aliasText j.number ++ "." ++ t.keyColumn ++ " AND " ++ aliasText j.number ++ "."
    ++ t.fieldColumn ++ " = " ++ toString j.fieldId

theorem Join.text_eq_textOn (t : ValueTable) (j : Join) : j.text t = j.textOn t t.parentKey :=
  rfl

theorem Join.text_retarget (t : ValueTable) (source target : String) (j : Join)
    : j.text (t.retarget source target)
      = j.textOn t (Identifier.requalify t.parentKey source target) :=
  rfl

/-- Two queries over a layout that select by the same predicate and the same parameters. They join
the same fields under the same names, the first to the key of the layout and the second to another.
-/
structure CompiledQuery.DiffersInKey (t : ValueTable) (key : String) (q r : CompiledQuery)
    : Prop where
  predicate : r.predicate = q.predicate
  params : r.params = q.params
  joins
    : ∃ uses : List Join,
        q.joins = uses.map (Join.textOn t t.parentKey) ∧ r.joins = uses.map (Join.textOn t key)

/-- A plan has such queries over a layout and over the same one on another table. -/
theorem Plan.query_differsInKey (t : ValueTable) (source target : String) (p : Plan)
    : (p.query t).DiffersInKey t (Identifier.requalify t.parentKey source target)
        (p.query (t.retarget source target)) where
  predicate := p.predicate.text_congr (t.storageColumn_retarget source target)
  params := rfl
  joins := by
    refine ⟨p.joins, ?_, ?_⟩
    · exact List.map_congr_left fun j _ => j.text_eq_textOn t
    · exact List.map_congr_left fun j _ => j.text_retarget t source target

-----------------------------------------------------------------------------------------
-- Compilations over two layouts
-----------------------------------------------------------------------------------------

namespace Service

/-- Two outcomes with the same warnings, which end alike without a query or are queries that differ in
the key of their joins.
-/
structure DiffersInKey (t : ValueTable) (key : String) (left right : Outcome) : Prop where
  warnings : right.warnings = left.warnings
  value
    : (∃ ending, left.value = .error ending ∧ right.value = .error ending)
      ∨ ∃ q r, left.value = .ok q ∧ right.value = .ok r ∧ q.DiffersInKey t key r

variable (t : ValueTable) (zone : Calendar.Zone) (source target : String)

/-- What is said before anything is planned does not depend on the layout. -/
theorem differsInKey_error (key : String) (ending : Ending FilterError) (warnings : List Warning)
    : DiffersInKey t key { value := .error ending, warnings } { value := .error ending, warnings }
  where
  warnings := rfl
  value := Or.inl ⟨ending, rfl, rfl⟩

theorem differsInKey_alwaysTrue (key : String)
    : DiffersInKey t key (.quiet (.ok .alwaysTrue)) (.quiet (.ok .alwaysTrue)) where
  warnings := rfl
  value := Or.inr ⟨.alwaysTrue, .alwaysTrue, rfl, rfl, rfl, rfl, [], rfl, rfl⟩

/-- Fields are compiled to outcomes that differ in the key alone, by cases on whether the expression
can be planned.
-/
theorem compileOver_differsInKey (now : Int) (e : FilterExpr) (fields : List Field)
    : DiffersInKey t (Identifier.requalify t.parentKey source target)
        ((⟨t, zone⟩ : Service).compileOver now e fields)
        ((⟨t.retarget source target, zone⟩ : Service).compileOver now e fields) := by
  refine { warnings := rfl, value := ?_ }
  simp only [compileOver, clock, FilterExpr.compile]
  cases e.plan fields ⟨zone, now⟩ 0 with
  | error ending => exact Or.inl ⟨ending, rfl, rfl⟩
  | ok p => exact Or.inr ⟨_, _, rfl, rfl, p.query_differsInKey t source target⟩

/-- So is what a backend answers, by cases on the answer. -/
theorem conclude_differsInKey (backend : String) (scope now : Int) (e : FilterExpr)
    (answer : Answer)
    : DiffersInKey t (Identifier.requalify t.parentKey source target)
        ((⟨t, zone⟩ : Service).conclude backend scope now e answer)
        ((⟨t.retarget source target, zone⟩ : Service).conclude backend scope now e answer) := by
  unfold conclude
  cases answer.value with
  | error error => exact differsInKey_error t _ _ _
  | ok fields =>
      obtain ⟨warnings, value⟩ := compileOver_differsInKey t zone source target now e
        (fields.filter (·.isVisibleIn scope))
      exact { warnings := congrArg (answer.warnings ++ ·) warnings, value }

/-- Another table for the entities moves the key of the joins and nothing else. Whatever a backend
does when it is asked, a compilation over the layout and one over the layout on another table are
two views of one run: both give the same error, or both give queries with the same predicate and the
same parameters, whose joins differ in the key alone. That of the second is the key of the layout,
requalified. By cases on how the filter is read.
-/
theorem compileAt_retarget {m : Type → Type} [Monad m] [LawfulMonad m] (backend : Backend m)
    (scope now : Int) (filter : Json.Value)
    : ∃ run :
          m { pair : Outcome × Outcome //
            DiffersInKey t (Identifier.requalify t.parentKey source target) pair.1 pair.2 },
        (fun pair => pair.val.1) <$> run
          = (⟨t, zone⟩ : Service).compileAt backend scope now filter
        ∧ (fun pair => pair.val.2) <$> run
          = (⟨t.retarget source target, zone⟩ : Service).compileAt backend scope now filter := by
  unfold compileAt
  cases FilterExpr.ofFilter filter with
  | error error =>
      refine ⟨pure ⟨(_, _), differsInKey_error t _ (.reported error) []⟩, ?_, ?_⟩
      · exact map_pure _ _
      · exact map_pure _ _
  | ok expression =>
      cases expression with
      | none =>
          refine ⟨pure ⟨(_, _), differsInKey_alwaysTrue t _⟩, ?_, ?_⟩
          · exact map_pure _ _
          · exact map_pure _ _
      | some e =>
          refine ⟨(fun answer => ⟨(_, _), conclude_differsInKey t zone source target backend.name
            scope now e answer⟩) <$> backend.lookup scope (fieldCodes filter), ?_, ?_⟩
          · rw [Functor.map_map]
            exact map_eq_pure_bind _ _
          · rw [Functor.map_map]
            exact map_eq_pure_bind _ _

/-- Entities with a memo that holds a text. -/
def memoFilter : Json.Value :=
  .array [.string "memo", .string "contains", .string "vip"]

def memoRow : Field :=
  { code := "memo", id := 9, type := .text, placement := .custom, scope := 7, style := none }

/-- What such a filter compiles to over the standard layout with a key for the entities. -/
def memoQuery (key : String) : CompiledQuery :=
  { predicate := "(LOCATE(?, f1.value_text) > 0)"
    joins := [Join.textOn .standard key { number := 1, fieldId := 9 }]
    params := [.text "vip"] }

/-- On the waiting list a memo is looked up by the key of the waiting list. -/
theorem compileAt_retarget_waitlist
    : ((⟨.standard, .utc⟩ : Service).compileAt (careless [memoRow]) 7 0 memoFilter).value
        = .ok (memoQuery "reservations.reservation_id")
      ∧ ((⟨ValueTable.standard.retarget "reservations" "waitlist", .utc⟩ : Service).compileAt
            (careless [memoRow]) 7 0 memoFilter).value
        = .ok (memoQuery "waitlist.reservation_id")
      ∧ (memoQuery "reservations.reservation_id").DiffersInKey .standard "waitlist.reservation_id"
          (memoQuery "waitlist.reservation_id") := by
  have own
      : ((⟨.standard, .utc⟩ : Service).compileAt (careless [memoRow]) 7 0 memoFilter).value
        = .ok (memoQuery "reservations.reservation_id") := by
    rfl
  have other
      : ((⟨ValueTable.standard.retarget "reservations" "waitlist", .utc⟩ : Service).compileAt
            (careless [memoRow]) 7 0 memoFilter).value
        = .ok (memoQuery "waitlist.reservation_id") := by
    rfl
  refine ⟨own, other, ?_⟩
  obtain ⟨⟨⟨_, _⟩, related⟩, rfl, rfl⟩ := compileAt_retarget .standard .utc "reservations"
    "waitlist" (careless [memoRow]) 7 0 memoFilter
  rcases related.value with ⟨error, failed, _⟩ | ⟨q, r, first, second, differs⟩
  · cases own.symm.trans failed
  · obtain rfl := Except.ok.inj (own.symm.trans first)
    obtain rfl := Except.ok.inj (other.symm.trans second)
    exact differs

end Service

end FieldFilter
