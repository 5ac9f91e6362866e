import FieldFilter.Json.Reader

/-! Records in JSON. A record is written as an object with known keys or as an array of its
fields in order. Keys that are not known are passed over together with what they hold, which
then needs no meaning; a known key stands at most once.
-/

namespace FieldFilter.Json

namespace Tree

/-- An integer between `least` and `greatest`, written without a point or an exponent. -/
def integer? (least greatest : Int) : Tree → Option Int
  | .number n =>
    match n.number? with
    | some (.integer i) => if least ≤ i ∧ i ≤ greatest then some i else none
    | _ => none
  | _ => none

/-- A signed 64-bit integer. -/
def word? : Tree → Option Int :=
  integer? Word.least Word.greatest

def text? : Tree → Option String
  | .string units => StringUnit.text? units
  | _ => none

/-- An optional part: missing, null, or what `read` makes of it. -/
def optional? {α : Type} (read : Tree → Option α) : Option Tree → Option (Option α)
  | none => some none
  | some .null => some none
  | some tree => (read tree).map some

/-- The parts after one more member of an object. A key that is not among `names` adds nothing,
and one that already has a part is refused. -/
def insertPart (names : List String) (parts : List (String × Tree))
    (member : List StringUnit × Tree)
    : Option (List (String × Tree)) := do
  let key ← StringUnit.text? member.1
  if !names.contains key then some parts
  else if (parts.lookup key).isSome then none
  else some ((key, member.2) :: parts)

/-- The parts of a record, one place for each of `names`. In an array the first `positional`
parts have to be there, and no part may follow the last name. -/
def parts? (names : List String) (positional : Nat) : Tree → Option (List (Option Tree))
  | .object members =>
    (members.foldlM (insertPart names) []).map fun parts =>
      names.map fun name => parts.lookup name
  | .array items =>
    if positional ≤ items.length ∧ items.length ≤ names.length then
      some (items.map some ++ List.replicate (names.length - items.length) none)
    else none
  | _ => none

end Tree

end FieldFilter.Json
