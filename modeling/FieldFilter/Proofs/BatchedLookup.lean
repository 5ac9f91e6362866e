import FieldFilter.Proofs.Catalog.LookupResolution
import FieldFilter.Proofs.Compile.References
import FieldFilter.Service

/-! Asking a catalog once, for the codes that a filter mentions, is as good as having all its fields.
What the lookup leaves out is never resolved, and what it finds stands in the same order.
-/

namespace FieldFilter

namespace Service

/-- The query of a filter over all rows of a catalog that can be used in a scope, without asking
for any codes.
-/
def compileOverAll (service : Service) (scope now : Int) (filter : Json.Value)
    (rows : List Field)
    : Except (Ending FilterError) CompiledQuery := do
  let expression ← Ending.reporting (FilterExpr.ofFilter filter)
  FilterExpr.compile service.valueTable (service.clock now) (Field.usableIn scope rows) expression

/-- Over the answer of a listed catalog a filter's expression compiles as over all of its rows:
the codes of the filter include every reference, and each is resolved alike.
-/
theorem conclude_lookup (service : Service) (backend : String) (scope now : Int)
    {filter : Json.Value} {e : FilterExpr} (rows : List Field)
    (h : FilterExpr.ofFilter filter = .ok (some e))
    : (service.conclude backend scope now e
          (.quiet (.ok ((Listing.ofFields rows).value.lookup scope (fieldCodes filter))))).value
      = FilterExpr.compile service.valueTable (service.clock now) (Field.usableIn scope rows)
          (some e) := by
  have visible :=
    Listing.filter_isVisibleIn_lookup (Listing.ofFields rows).value scope (fieldCodes filter)
  simp only [conclude, Logged.quiet, visible, compileOver]
  refine FilterExpr.compile_congr fun code member => .of_eq ?_
  exact Listing.resolve?_lookup_ofFields scope rows
    (FilterExpr.references_subset_fieldCodes h member)

/-- A filter compiles over the backend of a listed catalog as it does over all of its rows, by
cases on how the filter is read.
-/
theorem compileAt_ofFields (service : Service) (scope now : Int) (filter : Json.Value)
    (rows : List Field)
    : (service.compileAt (m := Id) (Listing.ofFields rows).value.backend scope now filter).value
      = service.compileOverAll scope now filter rows := by
  unfold compileAt compileOverAll
  cases h : FilterExpr.ofFilter filter with
  | error e => rfl
  | ok expression =>
      cases expression with
      | none => rfl
      | some e => exact conclude_lookup service _ scope now rows h

/-- One lookup loses nothing. For every catalog text, filter, scope and instant, compiling over
the catalog that the text lists gives the query or the ending of compiling over all its usable
rows that are visible in the scope, in order of their scopes and otherwise of the text.
-/
theorem compileAt_read_eq_compileOverAll (service : Service) (scope now : Int) (filter : Json.Value)
    (text : String)
    : ((Listing.read text).value.map fun catalog =>
          (service.compileAt (m := Id) catalog.backend scope now filter).value)
      = (Field.readAll text).map (service.compileOverAll scope now filter) := by
  unfold Listing.read
  cases Field.readAll text with
  | error e => rfl
  | ok rows =>
      simp only [Except.map, compileAt_ofFields]

end Service

end FieldFilter
