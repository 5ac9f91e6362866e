import FieldFilter.Text.Canonical
import FieldFilter.Text.Direction
import FieldFilter.Text.Joining
import FieldFilter.Url.NameTable
import FieldFilter.Url.Punycode

/-! The labels of a host name, which are what stands between its points. A label is written in the
characters of its language or, after `xn--`, in Punycode. Both ways lead to the same labels, and
neither may spell what the other could not.
-/

namespace FieldFilter.Url

/-- A label of a host name, by its code points. -/
abbrev Label : Type := List Nat

def isAscii (n : Nat) : Bool :=
  n < 0x80

/-- The ASCII code points that no host name has: controls, the space, and the signs that separate
the parts of an address. -/
def isForbidden (n : Nat) : Bool :=
  n ≤ 0x20 || n == 0x7F || ("%#/:<>?@[\\]^|".toList.map Char.toNat).contains n

namespace Label

/-- The zero-width sign that keeps two characters from joining. -/
def nonJoiner : Nat := 0x200C

def joiner : Nat := 0x200D

/-- The first character that is not passed through has one of two kinds of joining. -/
def joinsBy (kind : Text.Joining) (text : List Nat) : Bool :=
  match text.find? fun n => Text.Joining.ofCode n != .transparent with
  | some n => Text.Joining.ofCode n == kind || Text.Joining.ofCode n == .dual
  | none => false

/-- The zero-width signs stand where they matter, with the text before them in reverse. Both may
follow a sign that takes a vowel away; the one that separates may also stand between characters
that would join. -/
def joinersFit (before : List Nat) : List Nat → Bool
  | [] => true
  | n :: rest =>
    let fits :=
      if n == joiner || n == nonJoiner then
        before.head?.any Text.isVirama
          || (n == nonJoiner && !before.isEmpty && joinsBy .left before && joinsBy .right rest)
      else true
    fits && joinersFit (n :: before) rest

/-- The most code points that a label written in its own characters may have. -/
def greatestLength : Nat := 1000

/-- The most characters of Punycode that a label may have. -/
def greatestEncodedLength : Nat := 2000

/-- A label in its own characters makes sense: it does not start with a mark, its zero-width signs
fit, and only an ASCII label is longer than others. -/
def isSound (label : Label) : Bool :=
  !label.head?.any Text.isMark
    && joinersFit [] label
    && (label.all isAscii || label.length ≤ greatestLength)

/-- Every code point of a label stands for itself, and the label is composed. -/
def isNormal (label : Label) : Bool :=
  label.all (fun n => !isForbidden n && n != 0x2E && replacement? n == some [n])
    && Text.Canonical.normal label == label

/-- The label that a text spells which has been mapped and composed. -/
def read? (text : List Nat) : Option Label :=
  match text with
  | 0x78 :: 0x6E :: 0x2D :: 0x2D :: encoded =>
    if encoded.length ≤ greatestEncodedLength && encoded.all isAscii
        && encoded.getLast? != some 0x2D then
      (Punycode.decode? encoded).filter fun label =>
        !label.all isAscii && isNormal label && isSound label
    else none
  | text => if !text.any isForbidden && isSound text then some text else none

/-- A label has characters that are written from right to left. -/
def hasRightToLeft (label : Label) : Bool :=
  label.any fun n =>
    Text.Direction.ofCode n == .rightToLeft || Text.Direction.ofCode n == .arabicNumber

/-- The directions of a label without the marks at its end. -/
def directions (label : Label) : List Text.Direction :=
  ((label.map Text.Direction.ofCode).reverse.dropWhile (· == .nonspacing)).reverse

/-- Some directions make up a label from right to left: it ends in a letter or a number, has
nothing from left to right, and not both kinds of numbers. -/
def isRightToLeft (directions : List Text.Direction) : Bool :=
  (directions.getLast?.any fun d =>
      d == .rightToLeft || d == .europeanNumber || d == .arabicNumber)
    && !directions.contains .leftToRight
    && !(directions.contains .europeanNumber && directions.contains .arabicNumber)

/-- Some directions make up a label from left to right: it ends in a letter or a number and has
nothing from right to left. -/
def isLeftToRight (directions : List Text.Direction) : Bool :=
  (directions.getLast?.any fun d => d == .leftToRight || d == .europeanNumber)
    && !directions.contains .rightToLeft && !directions.contains .arabicNumber

/-- A label can stand beside labels that are written from right to left. An empty one can, and
another one has to start with a letter. -/
def isDirected (label : Label) : Bool :=
  match label.head?.map Text.Direction.ofCode with
  | none => true
  | some .rightToLeft => isRightToLeft (directions label)
  | some .leftToRight => isLeftToRight (directions label)
  | some _ => false

end Label

end FieldFilter.Url
