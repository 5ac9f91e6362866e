import FieldFilter.Text.Combining
import FieldFilter.Text.Decomposition
import FieldFilter.Text.Hangul

/-! Canonical composition. Equivalent texts have one composed form: everything is decomposed, marks
are put into the order of their classes, and then each mark is composed with the character that it
belongs to where a composed character exists.
-/

namespace FieldFilter.Text.Canonical

def decomposition (n : Nat) : List Nat :=
  if Hangul.isSyllable n then Hangul.decomposition n else (listedDecomposition? n).getD [n]

/-- A code point in front of ordered ones, moved behind the marks of lower classes. -/
def insert (n : Nat) : List Nat → List Nat
  | [] => [n]
  | m :: rest =>
    if 0 < combiningClass m ∧ combiningClass m < combiningClass n then m :: insert n rest
    else n :: m :: rest

/-- A text with its marks ordered by class; marks of one class keep their order. -/
def ordered (text : List Nat) : List Nat :=
  text.foldr insert []

def pair? (a b : Nat) : Option Nat :=
  (Hangul.composite? a b).or (composite? (decomposition a ++ [b]))

/-- A mark cannot reach its character over marks of the same or a higher class, given the last of
these if there is any. -/
def isBlocked (between : Option Nat) (n : Nat) : Bool :=
  between.any fun m => combiningClass n ≤ combiningClass m

/-- The rest of a text composed after a character and the marks that stayed behind it, in
reverse. -/
def composeAfter (start : Nat) (marks : List Nat) : List Nat → List Nat
  | [] => start :: marks.reverse
  | n :: rest =>
    match if isBlocked marks.head? n then none else pair? start n with
    | some composed => composeAfter composed marks rest
    | none =>
      if combiningClass n = 0 then start :: marks.reverse ++ composeAfter n [] rest
      else composeAfter start (n :: marks) rest

/-- An ordered text composed. Marks before the first character stay as they are. -/
def compose : List Nat → List Nat
  | [] => []
  | n :: rest => if combiningClass n = 0 then composeAfter n [] rest else n :: compose rest

def normal (text : List Nat) : List Nat :=
  compose (ordered (text.flatMap decomposition))

end FieldFilter.Text.Canonical
