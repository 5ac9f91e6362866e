import FieldFilter.Filter.Wire

/-! The field codes that a filter mentions. They are collected from the JSON value itself, in
order of first appearance; a value that is no filter has codes too, and so the collection says
only what to look up.
-/

namespace FieldFilter

/-- A list with one more element at its end, unless it is there already. -/
def insertNew (codes : List String) (code : String) : List String :=
  if codes.contains code then codes else codes ++ [code]

/-- The codes that a condition with some items mentions. -/
def itemCodes (code token operand : Json.Value) : List String :=
  let crossField := ((token.string?).bind Operator.ofToken?).any Operator.isCrossField
  (fieldCode? code).toList ++ if crossField then (fieldCode? operand).toList else []

mutual

/-- The codes that a value mentions, with repetitions. Only arrays mention any. -/
def mentionedCodes : Json.Value → List String
  | .array items =>
    match conditionItems? items with
    | some (code, token, operand) => itemCodes code token operand
    | none => mentionedCodesOfItems items
  | _ => []

def mentionedCodesOfItems : List Json.Value → List String
  | [] => []
  | item :: items => mentionedCodes item ++ mentionedCodesOfItems items

end

/-- The codes that a filter mentions, each once. -/
def fieldCodes (filter : Json.Value) : List String :=
  (mentionedCodes filter).foldl insertNew []

end FieldFilter
