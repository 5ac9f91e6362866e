import FieldFilter.Json.Syntax
import FieldFilter.Json.Value

/-! What a JSON text stands for. Strings pair their surrogates, numbers get a value, a key that
is repeated keeps its first place and its last value, and containers nest at most 127 deep.
-/

namespace FieldFilter.Json

namespace StringUnit

/-- The first of the two code units of a character beyond the basic plane. -/
def isLeading (n : Nat) : Bool :=
  0xD800 ≤ n && n ≤ 0xDBFF

def isTrailing (n : Nat) : Bool :=
  0xDC00 ≤ n && n ≤ 0xDFFF

/-- The characters of a string literal, in reverse before `done`. A code unit that is half of a
pair has its other half beside it, written as a code unit too. -/
def decode? (done : List Char) : List StringUnit → Option (List Char)
  | [] => some done.reverse
  | .char c :: rest => decode? (c :: done) rest
  | .code n :: rest =>
    if isLeading n then
      match rest with
      | .code m :: rest =>
        if isTrailing m then
          decode? (Char.ofNat (0x10000 + (n - 0xD800) * 0x400 + (m - 0xDC00)) :: done) rest
        else none
      | _ => none
    else if isTrailing n then none
    else decode? (Char.ofNat n :: done) rest

def text? (units : List StringUnit) : Option String :=
  (decode? [] units).map String.ofList

end StringUnit

namespace NumberLiteral

/-- Digits taken after a number while the result stays below two to the sixty-fourth, and the
digits from the first one that would not. -/
def absorb (n : Nat) : List Nat → Nat × List Nat
  | [] => (n, [])
  | d :: ds => if n * 10 + d < Word.count then absorb (n * 10 + d) ds else (n, d :: ds)

/-- The double that a coefficient and a scale stand for, with the literal's sign. -/
def signed? (n : NumberLiteral) (coefficient : Nat) (scale : Int) : Option Number :=
  (Binary64.scaled? coefficient scale).map fun x =>
    .double (if n.negative then x.negate else x)

/-- The number that a literal stands for, unless it is too large for a double. Digits beyond 64
bits are dropped: those of the whole part still count as places, and the fraction is tried
again after them. -/
def number? (n : NumberLiteral) : Option Number :=
  let (whole, dropped) := absorb 0 n.whole
  if n.fraction.isEmpty ∧ n.exponent.isEmpty ∧ dropped.isEmpty then
    if !n.negative then some (.integer whole)
    else if whole ≠ 0 ∧ Word.least ≤ -whole then some (.integer (-whole))
    else n.signed? whole 0
  else
    let (coefficient, unread) := absorb whole n.fraction
    let places : Int := (dropped.length : Int) - (n.fraction.length - unread.length : Nat)
    let exponent : Int := Text.ofDigits 0 n.exponent
    n.signed? coefficient (places + if n.exponentNegative then -exponent else exponent)

end NumberLiteral

namespace Tree

mutual

/-- The value of a tree whose containers nest at most `depth` deep. -/
def value? (depth : Nat) : Tree → Option Value
  | .null => some .null
  | .bool b => some (.bool b)
  | .number n => n.number?.map .number
  | .string units => (StringUnit.text? units).map .string
  | .array items =>
    match depth with
    | 0 => none
    | depth + 1 => (itemValues? depth items).map .array
  | .object members =>
    match depth with
    | 0 => none
    | depth + 1 => (memberValues? depth [] members).map .object

def itemValues? (depth : Nat) : List Tree → Option (List Value)
  | [] => some []
  | item :: items => do
    let value ← value? depth item
    return value :: (← itemValues? depth items)

def memberValues? (depth : Nat) (done : List (String × Value))
    : List (List StringUnit × Tree) → Option (List (String × Value))
  | [] => some done
  | (key, tree) :: members => do
    let key ← StringUnit.text? key
    let value ← value? depth tree
    memberValues? depth (insertMember key value done) members

end

/-- The deepest nesting of arrays and objects that is read. -/
def maxDepth : Nat := 127

end Tree

namespace Value

def read? (text : String) : Option Value :=
  (Tree.read? text).bind (Tree.value? Tree.maxDepth)

end Value

end FieldFilter.Json
