import FieldFilter.Text.Digits
import FieldFilter.Text.Pieces

/-! Hosts in brackets: addresses of eight groups of sixteen bits. Groups that are zero may be left
out in one place, and the last two may be written as four bytes.
-/

namespace FieldFilter.Url.Bracketed

/-- A number up to 255 without needless zeros. -/
def isByte (cs : List Char) : Bool :=
  match Text.readNat? cs with
  | some n => n ≤ 255 && (cs.length == 1 || cs.head? != some '0')
  | none => false

def isDotted (cs : List Char) : Bool :=
  let bytes := Text.pieces (· == '.') cs
  bytes.length == 4 && bytes.all isByte

/-- How many groups a piece spells: one, or two when it is the last piece and has points. -/
def groupCount? (isLast : Bool) (piece : List Char) : Option Nat :=
  if !piece.isEmpty && piece.length ≤ 4 && piece.all fun c => (Text.hexDigit? c).isSome then some 1
  else if isLast && isDotted piece then some 2
  else none

/-- The number of groups in some pieces, the last of which may have points. -/
def groupSum? (mayEnd : Bool) : List (List Char) → Option Nat
  | [] => some 0
  | [piece] => groupCount? mayEnd piece
  | piece :: rest => do
    let n ← groupCount? false piece
    return n + (← groupSum? mayEnd rest)

/-- The texts before and after the first pair of colons. -/
def splitGap : List Char → Option (List Char × List Char)
  | ':' :: ':' :: cs => some ([], cs)
  | c :: cs => (splitGap cs).map fun (before, after) => (c :: before, after)
  | [] => none

/-- The number of groups on one side of the gap, which may have none. -/
def sideCount? (mayEnd : Bool) (cs : List Char) : Option Nat :=
  if cs.isEmpty then some 0 else groupSum? mayEnd (Text.pieces (· == ':') cs)

/-- An address in brackets, by the text between them. -/
def isAddress (cs : List Char) : Bool :=
  match splitGap cs with
  | none => groupSum? true (Text.pieces (· == ':') cs) == some 8
  | some (before, after) =>
    match sideCount? false before, sideCount? true after with
    | some n, some m => n + m ≤ 7
    | _, _ => false

end FieldFilter.Url.Bracketed
