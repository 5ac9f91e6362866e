/-! Texts in pieces. A separator stands between two pieces, and so there is always one piece more
than there are separators.
-/

namespace FieldFilter.Text

/-- The pieces of a text between the items that separate them. -/
def pieces {α : Type} (separates : α → Bool) : List α → List (List α)
  | [] => [[]]
  | c :: cs =>
    if separates c then [] :: pieces separates cs
    else match pieces separates cs with
      | [] => [[c]]
      | piece :: rest => (c :: piece) :: rest

/-- The texts before and after the first item of a kind, which starts the second. -/
def splitBefore {α : Type} (stops : α → Bool) (cs : List α) : List α × List α :=
  cs.span fun c => !stops c

end FieldFilter.Text
