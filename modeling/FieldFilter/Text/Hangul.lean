/-! Hangul syllables. Every syllable is made of a leading consonant, a vowel and perhaps a trailing
consonant, and its number follows from theirs.
-/

namespace FieldFilter.Text.Hangul

def firstSyllable : Nat := 0xAC00

def firstLeading : Nat := 0x1100

def firstVowel : Nat := 0x1161

/-- The code point before the first trailing consonant, which stands for none. -/
def noTrailing : Nat := 0x11A7

def leadingCount : Nat := 19

def vowelCount : Nat := 21

/-- The number of ways to end a syllable, of which one is no consonant. -/
def trailingCount : Nat := 28

def syllableCount : Nat := leadingCount * vowelCount * trailingCount

def isSyllable (n : Nat) : Bool :=
  firstSyllable ≤ n && n < firstSyllable + syllableCount

def decomposition (n : Nat) : List Nat :=
  let index := n - firstSyllable
  let leading := firstLeading + index / (vowelCount * trailingCount)
  let vowel := firstVowel + index / trailingCount % vowelCount
  let trailing := index % trailingCount
  [leading, vowel] ++ if trailing = 0 then [] else [noTrailing + trailing]

/-- A leading consonant and a vowel make a syllable, and such a syllable takes a trailing
consonant. -/
def composite? (a b : Nat) : Option Nat :=
  if firstLeading ≤ a ∧ a < firstLeading + leadingCount
      ∧ firstVowel ≤ b ∧ b < firstVowel + vowelCount then
    some (firstSyllable
      + ((a - firstLeading) * vowelCount + (b - firstVowel)) * trailingCount)
  else if isSyllable a ∧ (a - firstSyllable) % trailingCount = 0
      ∧ noTrailing < b ∧ b < noTrailing + trailingCount then
    some (a + (b - noTrailing))
  else none

end FieldFilter.Text.Hangul
