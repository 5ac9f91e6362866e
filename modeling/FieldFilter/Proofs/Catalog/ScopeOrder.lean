import FieldFilter.Proofs.BatchedLookup

/-! Which row a code stands for when it has rows in a scope and rows for all scopes. Fields are
ordered by the numbers of their scopes, so the own rows of a scope above zero come last and win,
and those of a scope below zero come first and lose.
-/

namespace FieldFilter

namespace Field

-----------------------------------------------------------------------------------------
-- Fields of two scopes
-----------------------------------------------------------------------------------------

/-- Fields of two scopes that are in order of them are those of the lower one and then those of
the upper one, by induction on the fields.
-/
theorem eq_append_of_sorted {fields : List Field} {lower upper : Int} (apart : lower < upper)
    (only : ∀ f ∈ fields, f.scope = lower ∨ f.scope = upper)
    (sorted : fields.Pairwise fun f g => f.scope ≤ g.scope)
    : fields = fields.filter (·.scope == lower) ++ fields.filter (·.scope == upper) := by
  induction fields with
  | nil => rfl
  | cons f fields ih =>
      obtain ⟨least, sorted⟩ := List.pairwise_cons.mp sorted
      have rest := ih (fun g member => only g (List.mem_cons_of_mem f member)) sorted
      rcases only f List.mem_cons_self with low | up
      · have other : f.scope ≠ upper := by omega
        rw [List.filter_cons_of_pos (by simpa using low),
          List.filter_cons_of_neg (by simpa using other), List.cons_append, ← rest]
      · -- The first field is of the upper scope, and so are all that follow it.
        have above (g : Field) (member : g ∈ f :: fields) : g.scope = upper := by
          rcases List.mem_cons.mp member with rfl | later
          · exact up
          · have bound := least g later
            rcases only g member with low | high
            · omega
            · exact high
        have noneBelow : (f :: fields).filter (·.scope == lower) = [] := by
          refine List.filter_eq_nil_iff.mpr fun g member => ?_
          have other : g.scope ≠ lower := by
            rw [above g member]
            omega
          simpa using other
        have allAbove : (f :: fields).filter (·.scope == upper) = f :: fields := by
          refine List.filter_eq_self.mpr fun g member => ?_
          simpa using above g member
        rw [noneBelow, allAbove, List.nil_append]

/-- Fields of one scope are in order of their scopes already. -/
theorem byScope_of_scope (scope : Int) {fields : List Field}
    (only : ∀ f ∈ fields, f.scope = scope)
    : byScope fields = fields := by
  refine List.mergeSort_of_pairwise (List.pairwise_of_forall_mem_list fun f hf g hg => ?_)
  have same : f.scope = g.scope := (only f hf).trans (only g hg).symm
  simp [same]

/-- Fields of two scopes in order of them: those of the lower scope as they were, and then those
of the upper one as they were.
-/
theorem byScope_eq_append {fields : List Field} {lower upper : Int} (apart : lower < upper)
    (only : ∀ f ∈ fields, f.scope = lower ∨ f.scope = upper)
    : byScope fields
      = fields.filter (·.scope == lower) ++ fields.filter (·.scope == upper) := by
  have sorted : (byScope fields).Pairwise fun f g => f.scope ≤ g.scope :=
    (List.pairwise_mergeSort scope_le_trans scope_le_total fields).imp fun le => by
      simpa using le
  have known : ∀ f ∈ byScope fields, f.scope = lower ∨ f.scope = upper := by
    intro f member
    exact only f (List.mem_mergeSort.mp member)
  have kept (scope : Int)
      : (byScope fields).filter (·.scope == scope) = fields.filter (·.scope == scope) := by
    rw [filter_byScope]
    refine byScope_of_scope scope fun f member => ?_
    simpa using (List.mem_filter.mp member).2
  rw [eq_append_of_sorted apart known sorted, kept, kept]

-----------------------------------------------------------------------------------------
-- The rows of a catalog
-----------------------------------------------------------------------------------------

/-- The rows of a scope that can be used, in the order of the catalog. -/
def usableOf (scope : Int) (rows : List Field) : List Field :=
  rows.filter fun f => f.hasPlainColumn && f.scope == scope

/-- Those of some fields that have a code, in order. -/
def withCode (code : String) (fields : List Field) : List Field :=
  fields.filter (·.code == code)

end Field

-----------------------------------------------------------------------------------------
-- Which rows win
-----------------------------------------------------------------------------------------

namespace Listing

/-- For a scope, a lookup of any codes gives the rows of the scope `first` before those of the
scope `last` with the same code. Whatever is compiled, a code stands for its last row in the scope
`last`, and when there is none, for its last row in the scope `first`.
-/
structure Prefers (catalog : Listing) (rows : List Field) (scope first last : Int) : Prop where
  lookup
    : ∀ codes,
        catalog.lookup scope codes
        = codes.flatMap fun code =>
            Field.withCode code (Field.usableOf first rows)
              ++ Field.withCode code (Field.usableOf last rows)
  compile
    : ∃ fields,
        (∀ code,
          Field.resolve? fields code
          = (Field.withCode code (Field.usableOf last rows)).getLast?.or
              (Field.withCode code (Field.usableOf first rows)).getLast?)
        ∧ ∀ (service : Service) now filter,
            (service.compileAt (m := Id) catalog.backend scope now filter).value
            = (Ending.reporting (FilterExpr.ofFilter filter)).bind
                (FilterExpr.compile service.valueTable (service.clock now) fields)

/-- The visible fields of a catalog in order of their scopes are those of the lower scope, of the
two that are visible, and then those of the upper one.
-/
theorem usableIn_eq_append {scope lower upper : Int} (apart : lower < upper)
    (visible : lower = 0 ∧ upper = scope ∨ lower = scope ∧ upper = 0) (rows : List Field)
    : Field.usableIn scope rows = Field.usableOf lower rows ++ Field.usableOf upper rows := by
  have only
      : ∀ f ∈ (rows.filter (·.hasPlainColumn)).filter (·.isVisibleIn scope),
          f.scope = lower ∨ f.scope = upper := by
    intro f member
    have seen : f.scope = 0 ∨ f.scope = scope := by
      simpa [Field.isVisibleIn] using (List.mem_filter.mp member).2
    omega
  have part (own : Int) (among : own = 0 ∨ own = scope)
      : ((rows.filter (·.hasPlainColumn)).filter (·.isVisibleIn scope)).filter (·.scope == own)
        = Field.usableOf own rows := by
    rw [Field.usableOf, List.filter_filter, List.filter_filter]
    refine List.filter_congr fun f _ => ?_
    rw [Bool.eq_iff_iff]
    simp only [Field.isVisibleIn, Bool.and_eq_true, Bool.or_eq_true, beq_iff_eq]
    constructor
    · rintro ⟨⟨same, _⟩, plain⟩
      exact ⟨plain, same⟩
    · rintro ⟨plain, rfl⟩
      exact ⟨⟨rfl, among⟩, plain⟩
  rw [Field.usableIn, Field.byScope_eq_append apart only, part lower (by omega),
    part upper (by omega)]

/-- A lookup gives the fields with a code that can be used in the scope, in their order. -/
theorem fieldsWith_ofFields (rows : List Field) (scope : Int) (code : String)
    : (ofFields rows).value.fieldsWith scope code
      = Field.withCode code (Field.usableIn scope rows) := by
  rw [Field.withCode, Field.usableIn, Field.filter_byScope, List.filter_filter, fieldsWith,
    fields_ofFields]
  rfl

/-- Of the two scopes that are visible in a scope, the catalog prefers the upper one. -/
theorem prefers_upper {scope lower upper : Int} (apart : lower < upper)
    (visible : lower = 0 ∧ upper = scope ∨ lower = scope ∧ upper = 0) (rows : List Field)
    : (ofFields rows).value.Prefers rows scope lower upper := by
  have parts := usableIn_eq_append apart visible rows
  refine { lookup := fun codes => ?_, compile := ⟨Field.usableIn scope rows, ?_, ?_⟩ }
  · rw [Listing.lookup]
    congr 1
    funext code
    rw [fieldsWith_ofFields, parts, Field.withCode, List.filter_append]
    rfl
  · intro code
    rw [parts, Field.resolve?_append]
    rfl
  · intro service now filter
    rw [Service.compileAt_ofFields]
    rfl

/-- The rows of a scope above zero override those of all scopes, for every code and in every
compilation; those of a scope below zero are overridden by them.
-/
theorem prefers_by_sign {text : String} {catalog : Listing}
    (loaded : (read text).value = .ok catalog)
    : ∃ rows,
        Field.readAll text = .ok rows
        ∧ ∀ scope,
            (0 < scope → catalog.Prefers rows scope 0 scope)
            ∧ (scope < 0 → catalog.Prefers rows scope scope 0) := by
  unfold read at loaded
  cases listed : Field.readAll text with
  | error e =>
      rw [listed] at loaded
      cases loaded
  | ok rows =>
      rw [listed] at loaded
      obtain rfl := Except.ok.inj loaded
      refine ⟨rows, rfl, fun scope => ⟨fun above => ?_, fun below => ?_⟩⟩
      · exact prefers_upper above (Or.inl ⟨rfl, rfl⟩) rows
      · exact prefers_upper below (Or.inr ⟨rfl, rfl⟩) rows

/-- A catalog with three rows for one code: of all scopes, of scope 7 and of scope -7. -/
def ageText : String :=
  "[[1,\"age\",\"number\",\"reservations.age\",0],[12,\"age\",\"number\",null,7],"
    ++ "[13,\"age\",\"number\",null,-7]]"

/-- The row of all scopes, which has a column of its own. -/
def sharedAge : Field :=
  { code := "age", id := 1, type := .number, placement := .fixed "reservations.age", scope := 0,
    style := none }

/-- The row of a scope, in the value table. -/
def scopedAge (id scope : Int) : Field :=
  { code := "age", id, type := .number, placement := .custom, scope, style := none }

def ageRows : List Field :=
  [sharedAge, scopedAge 12 7, scopedAge 13 (-7)]

theorem readAll_ageText : Field.readAll ageText = .ok ageRows := by
  rfl

theorem read_ageText : (read ageText).value = .ok (ofFields ageRows).value := by
  rw [read, readAll_ageText]

/-- In scope 7 the own row comes last, and in scope -7 that of all scopes. -/
theorem prefers_by_sign_ageText
    : (read ageText).value = .ok (ofFields ageRows).value
      ∧ (ofFields ageRows).value.lookup 7 ["age"] = [sharedAge, scopedAge 12 7]
      ∧ (ofFields ageRows).value.lookup (-7) ["age"] = [scopedAge 13 (-7), sharedAge] := by
  obtain ⟨rows, listed, signs⟩ := prefers_by_sign read_ageText
  obtain rfl := Except.ok.inj (listed.symm.trans readAll_ageText)
  refine ⟨read_ageText, ?_, ?_⟩
  · exact ((signs 7).1 (by decide)).lookup ["age"]
  · exact ((signs (-7)).2 (by decide)).lookup ["age"]

/-- The condition that the age is three. -/
def ageCondition : Json.Value :=
  .array [.string "age", .string "=", .number (.integer 3)]

/-- A scope below zero does not override: its own row comes first in a lookup, and a filter in the
scope reads the column that all scopes share.
-/
theorem not_prefers_own_scope_below_zero
    : ((read ageText).value = .ok (ofFields ageRows).value ∧ Field.readAll ageText = .ok ageRows)
      ∧ (ofFields ageRows).value.lookup (-7) ["age"] = [scopedAge 13 (-7), sharedAge]
      ∧ ((⟨.standard, .utc⟩ : Service).compileAt (m := Id) (ofFields ageRows).value.backend (-7) 0
            ageCondition).value
        = .ok { predicate := "(reservations.age = ?)", joins := [], params := [.int 3] }
      ∧ ¬ ∀ scope, scope ≠ 0 → (ofFields ageRows).value.Prefers ageRows scope 0 scope := by
  have lower : (ofFields ageRows).value.Prefers ageRows (-7) (-7) 0 :=
    prefers_upper (by decide) (Or.inr ⟨rfl, rfl⟩) ageRows
  refine ⟨⟨read_ageText, readAll_ageText⟩, lower.lookup ["age"], ?_, fun all => ?_⟩
  · have parts
        : Field.usableIn (-7) ageRows = Field.usableOf (-7) ageRows ++ Field.usableOf 0 ageRows :=
      usableIn_eq_append (by decide) (Or.inr ⟨rfl, rfl⟩) ageRows
    rw [Service.compileAt_ofFields, Service.compileOverAll, parts]
    rfl
  · have own := (all (-7) (by decide)).lookup ["age"]
    have order : [sharedAge, scopedAge 13 (-7)] = [scopedAge 13 (-7), sharedAge] :=
      own.symm.trans (lower.lookup ["age"])
    have ids := congrArg (List.map Field.id) order
    exact absurd ids (by decide)

end Listing

end FieldFilter
