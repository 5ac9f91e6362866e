import FieldFilter.Text.Percent
import FieldFilter.Url.Label

/-! Host names and numeric hosts. The text of a host name is mapped, composed and taken apart into
labels. If its last label is a number, the whole name is an address of four bytes, which may be
written in fewer numbers, in decimal, octal or hexadecimal digits.
-/

namespace FieldFilter.Url

/-- What the text of a host name stands for, character by character, in composed form. -/
def mappedName? (text : List Nat) : Option (List Nat) :=
  (text.mapM replacement?).map fun parts => Text.Canonical.normal parts.flatten

/-- The labels of a host name. When one is written from right to left, all have to fit in. -/
def labelsOf? (text : List Nat) : Option (List Label) := do
  let mapped ← mappedName? text
  let labels ← (Text.pieces (· == 0x2E) mapped).mapM Label.read?
  if labels.any Label.hasRightToLeft && !labels.all Label.isDirected then none
  else some labels

namespace Numeric

/-- The value of digits below `base`. -/
def readDigits? (base : Nat) (label : Label) : Option Nat :=
  label.foldlM (fun n c => do
    let d ← Text.hexDigit? (Char.ofNat c)
    if d < base then some (n * base + d) else none) 0

/-- A number: hexadecimal after `0x`, octal after another zero, and else decimal. The digits after
a sign of the base may be missing, and then it is zero. -/
def number? (label : Label) : Option Nat :=
  match label with
  | [] => none
  | 0x30 :: 0x78 :: digits => readDigits? 16 digits
  | 0x30 :: digits => readDigits? 8 digits
  | digits => readDigits? 10 digits

/-- The labels without an empty one at the end. -/
def withoutRoot (labels : List Label) : List Label :=
  match labels.reverse with
  | [] :: before => before.reverse
  | _ => labels

/-- The last of some labels is a number, or is made of decimal digits although it is none. -/
def endsInNumber (labels : List Label) : Bool :=
  (withoutRoot labels).getLast?.any fun label =>
    !label.isEmpty && ((readDigits? 10 label).isSome || (number? label).isSome)

/-- The address that some numbers give, of which all but the last are single bytes and the last
one fills the bytes that are left. -/
def ofNumbers? (numbers : List Nat) : Option Nat :=
  match numbers.reverse with
  | [] => none
  | last :: before =>
    let room := Nat.pow 256 (4 - before.length)
    if before.length ≤ 3 && before.all (· ≤ 255) && last < room then
      some (before.foldr (fun n address => address * 256 + n) 0 * room + last)
    else none

def read? (labels : List Label) : Option Nat :=
  ((withoutRoot labels).mapM number?).bind ofNumbers?

end Numeric

end FieldFilter.Url
