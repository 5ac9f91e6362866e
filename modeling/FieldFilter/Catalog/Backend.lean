import FieldFilter.Catalog.Listing

/-! Backends, where fields are looked up. A backend is asked for the fields of a scope with some
codes; its answer is not trusted to keep to either.
-/

namespace FieldFilter

abbrev Answer : Type :=
  Logged (Except DataError (List Field))

/-- A place to look fields up. -/
structure Backend (m : Type → Type) where
  name : String
  lookup : (scope : Int) → (codes : List String) → m Answer

def Listing.backend {m : Type → Type} [Monad m] (catalog : Listing) : Backend m :=
  { name := "static"
    lookup := fun scope codes => pure (.quiet (.ok (catalog.lookup scope codes))) }

end FieldFilter
