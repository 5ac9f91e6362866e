import FieldFilter.Text.Blank
import FieldFilter.Text.Digits
import FieldFilter.Text.Pieces

/-! Tables of code points. A table is written as a text of words with blanks between them. A word
is a range of code points, or one of them, in hexadecimal digits; a value may follow it after a
colon.
-/

namespace FieldFilter.Text

/-- The code points from `first` through `last`. -/
structure CodeRange where
  first : Nat
  last : Nat
  deriving DecidableEq, Repr

namespace CodeRange

def contains (r : CodeRange) (n : Nat) : Bool :=
  r.first ≤ n && n ≤ r.last

end CodeRange

def readCode? (cs : List Char) : Option Nat :=
  if cs.isEmpty then none
  else cs.foldlM (fun n c => (hexDigit? c).map (n * 16 + ·)) 0

/-- Numbers in hexadecimal digits, with a plus sign between two of them. -/
def readCodes? (cs : List Char) : Option (List Nat) :=
  (pieces (· == '+') cs).mapM readCode?

/-- A range with a hyphen between its ends, or a code point alone. -/
def CodeRange.read? (cs : List Char) : Option CodeRange :=
  match pieces (· == '-') cs with
  | [only] => (readCode? only).map fun n => { first := n, last := n }
  | [first, last] => do return { first := ← readCode? first, last := ← readCode? last }
  | _ => none

/-- The words of a text, after the characters of one that has begun, in reverse. -/
def wordsFrom (begun : List Char) : List Char → List (List Char)
  | [] => if begun.isEmpty then [] else [begun.reverse]
  | c :: cs =>
    if isBlank c then
      if begun.isEmpty then wordsFrom [] cs else begun.reverse :: wordsFrom [] cs
    else wordsFrom (c :: begun) cs

def words (text : String) : List (List Char) :=
  wordsFrom [] text.toList

def readRanges (text : String) : List CodeRange :=
  (words text).filterMap CodeRange.read?

def readPair? {κ α : Type} (key? : List Char → Option κ) (value? : List Char → Option α)
    (word : List Char)
    : Option (κ × α) := do
  let (key, value) := splitBefore (· == ':') word
  return (← key? key, ← value? (value.drop 1))

def readEntries {κ α : Type} (key? : List Char → Option κ) (value? : List Char → Option α)
    (text : String)
    : List (κ × α) :=
  (words text).filterMap (readPair? key? value?)

def inRanges (ranges : List CodeRange) (n : Nat) : Bool :=
  ranges.any (·.contains n)

end FieldFilter.Text
